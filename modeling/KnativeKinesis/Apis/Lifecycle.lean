/-
Readiness over whole lifecycles of a status.

A lifecycle is any finite sequence of the status operations.  On statuses each operation is one
of seven moves (`StatusOp.move`), and `readiness_applyAll` says the faithful operations follow
the moves exactly.  An invariant of the moves is checked once over the 64 combinations of
statuses, and `foldl_move` carries it through any sequence.

Two facts come out.  `Ready` is True exactly when `SinkProvided` and `Deployed` both are, after
any sequence from an empty status.  And once `InitializeConditions` has run, every condition is
set and a False terminal condition makes `Ready` False.  The converse fails: `MarkTrue` raises
`Ready` only when every terminal condition is True and otherwise leaves it alone, so a `Ready`
made False by one condition stays False after that condition recovers while the other is still
Unknown.
-/
import KnativeKinesis.Apis.KinesisTypes

namespace KnativeKinesis

/-- A status operation of `KinesisSourceStatus`, with its arguments. -/
inductive StatusOp
  | initializeConditions
  | markSink (uri : String)
  | markNoSink (reason message : String)
  | markDeployed
  | markDeploying (reason message : String)
  | markNotDeployed (reason message : String)

/-- What an operation does to the statuses: initialize, or give a terminal condition a status. -/
inductive Move
  | init
  | mark (t : ConditionType) (v : ConditionStatus)
  deriving DecidableEq

namespace Move

/-- The move on statuses. -/
def step : Move → Readiness → Readiness
  | init, s => s.initializeConditions condSet
  | mark t .true, s => s.markTrue condSet t
  | mark t .false, s => s.markFalse condSet t
  | mark t .unknown, s => s.markUnknown condSet t

/-- The moves the status operations make. -/
def ofStatusOps : List Move :=
  [init, mark .sinkProvided .true, mark .sinkProvided .unknown, mark .sinkProvided .false,
    mark .deployed .true, mark .deployed .unknown, mark .deployed .false]

end Move

namespace StatusOp

/-- Run one operation. -/
def apply : StatusOp → KinesisSourceStatus → KinesisSourceStatus
  | initializeConditions, s => s.initializeConditions
  | markSink uri, s => s.markSink uri
  | markNoSink reason message, s => s.markNoSink reason message
  | markDeployed, s => s.markDeployed
  | markDeploying reason message, s => s.markDeploying reason message
  | markNotDeployed reason message, s => s.markNotDeployed reason message

/-- The move an operation makes. -/
def move : StatusOp → Move
  | initializeConditions => .init
  | markSink uri => .mark .sinkProvided (if uri.length > 0 then .true else .unknown)
  | markNoSink .. => .mark .sinkProvided .false
  | markDeployed => .mark .deployed .true
  | markDeploying .. => .mark .deployed .unknown
  | markNotDeployed .. => .mark .deployed .false

theorem move_mem (op : StatusOp) : op.move ∈ Move.ofStatusOps := by
  cases op <;> simp only [move, Move.ofStatusOps, List.mem_cons, true_or, or_true]
  split <;> simp

theorem readiness_apply (op : StatusOp) (s : KinesisSourceStatus) :
    (op.apply s).conditions.readiness = op.move.step s.conditions.readiness := by
  cases op with
  | markSink uri =>
    simp only [apply, move, KinesisSourceStatus.markSink]
    split
    · exact ConditionSet.readiness_markTrue ..
    · exact ConditionSet.readiness_markUnknown ..
  | _ =>
    simp only [apply, move, Move.step, KinesisSourceStatus.initializeConditions,
      KinesisSourceStatus.markNoSink, KinesisSourceStatus.markDeployed,
      KinesisSourceStatus.markDeploying, KinesisSourceStatus.markNotDeployed,
      ConditionSet.readiness_initializeConditions, ConditionSet.readiness_markTrue,
      ConditionSet.readiness_markUnknown, ConditionSet.readiness_markFalse]

end StatusOp

namespace KinesisSourceStatus

variable (st : KinesisSourceStatus)

theorem readiness_initializeConditions :
    st.initializeConditions.conditions.readiness = Move.init.step st.conditions.readiness :=
  StatusOp.readiness_apply .initializeConditions st

theorem readiness_markSink (u : String) :
    (st.markSink u).conditions.readiness =
      (Move.mark .sinkProvided (if u.length > 0 then .true else .unknown)).step
        st.conditions.readiness :=
  StatusOp.readiness_apply (.markSink u) st

theorem readiness_markNoSink (reason message : String) :
    (st.markNoSink reason message).conditions.readiness =
      (Move.mark .sinkProvided .false).step st.conditions.readiness :=
  StatusOp.readiness_apply (.markNoSink reason message) st

theorem readiness_markDeployed :
    st.markDeployed.conditions.readiness =
      (Move.mark .deployed .true).step st.conditions.readiness :=
  StatusOp.readiness_apply .markDeployed st

end KinesisSourceStatus

/-- Run a sequence of operations. -/
def applyAll (ops : List StatusOp) (s : KinesisSourceStatus) : KinesisSourceStatus :=
  ops.foldl (fun s op => op.apply s) s

theorem readiness_applyAll (ops : List StatusOp) (s : KinesisSourceStatus) :
    (applyAll ops s).conditions.readiness =
      ops.foldl (fun r op => op.move.step r) s.conditions.readiness := by
  induction ops generalizing s with
  | nil => rfl
  | cons op ops ih => simp only [applyAll, List.foldl_cons] at ih ⊢; rw [ih, op.readiness_apply]

/-- An invariant of every move the operations make holds after any sequence of them. -/
theorem foldl_move {P : Readiness → Prop}
    (hstep : ∀ m ∈ Move.ofStatusOps, ∀ s, P s → P (m.step s)) (ops : List StatusOp)
    {s : Readiness} (hs : P s) :
    P (ops.foldl (fun r op => op.move.step r) s) := by
  induction ops generalizing s with
  | nil => exact hs
  | cons op ops ih => exact ih (hstep _ op.move_mem s hs)

/-! ### `Ready` is True exactly when both terminal conditions are -/

namespace Readiness

/-- `Ready` is True exactly when `SinkProvided` and `Deployed` both are. -/
def ReadyExact (s : Readiness) : Prop :=
  s.ready = some .true ↔ s.sinkProvided = some .true ∧ s.deployed = some .true

instance : DecidablePred ReadyExact := fun _ => inferInstanceAs (Decidable (_ ↔ _))

theorem readyExact_move :
    ∀ m ∈ Move.ofStatusOps, ∀ s, ReadyExact s → ReadyExact (m.step s) := by
  decide

/-- After `InitializeConditions`: every condition is set, `Ready` is True exactly when both
terminal conditions are, and a False terminal condition makes `Ready` False. -/
def Tracks (s : Readiness) : Prop :=
  s.ready ≠ none ∧ s.sinkProvided ≠ none ∧ s.deployed ≠ none ∧ ReadyExact s ∧
    (s.sinkProvided = some .false ∨ s.deployed = some .false → s.ready = some .false)

instance : DecidablePred Tracks := fun _ => inferInstanceAs (Decidable (_ ∧ _))

theorem tracks_move : ∀ m ∈ Move.ofStatusOps, ∀ s, Tracks s → Tracks (m.step s) := by
  decide

end Readiness

/-- The status of a condition, where it is set. -/
def KinesisSourceStatus.statusOf (s : KinesisSourceStatus) (t : ConditionType) :
    Option ConditionStatus :=
  (s.getCondition t).map (·.status)

theorem KinesisSourceStatus.statusOf_eq (s : KinesisSourceStatus) (t : ConditionType) :
    s.statusOf t = s.conditions.readiness.get t :=
  (Conditions.readiness_get _ _).symm

theorem readyExact_applyAll (ops : List StatusOp) :
    (applyAll ops {}).conditions.readiness.ReadyExact := by
  rw [readiness_applyAll]
  exact foldl_move Readiness.readyExact_move ops (by decide)

/-- **Readiness of any lifecycle.**  After any sequence of status operations from an empty
status, `IsReady` holds exactly when `SinkProvided` and `Deployed` are both True. -/
theorem isReady_iff_sink_and_deployed (ops : List StatusOp) :
    (applyAll ops {}).isReady = true ↔
      isTrue ((applyAll ops {}).getCondition .sinkProvided) = true ∧
        isTrue ((applyAll ops {}).getCondition .deployed) = true := by
  have h := readyExact_applyAll ops
  simp only [Readiness.ReadyExact, Conditions.readiness_get] at h
  simp only [KinesisSourceStatus.isReady, ConditionSet.isHappy_eq, KinesisSourceStatus.getCondition,
    isTrue_eq, Conditions.readiness_get, condSet_happy, beq_iff_eq]
  exact h

/-! ### A False terminal condition dominates, but is not all that makes `Ready` False -/

/-- The sink is not found, then resolves. -/
def sinkRecovers : List StatusOp :=
  [.initializeConditions, .markNoSink "NotFound" "",
    .markSink "http://addressable.sink.svc.cluster.local/"]

/-- `MarkNoSink` then `MarkSink` leaves `Ready` False while `SinkProvided` is True and
`Deployed` Unknown. -/
theorem ready_false_after_sink_recovers :
    (applyAll sinkRecovers {}).statusOf .ready = some .false ∧
      (applyAll sinkRecovers {}).statusOf .sinkProvided = some .true ∧
      (applyAll sinkRecovers {}).statusOf .deployed = some .unknown := by
  decide

/-- **Readiness after initialization.**  After `InitializeConditions` and any further status
operations, all three conditions are set, a False `SinkProvided` or `Deployed` makes `Ready`
False, and `Ready` is True exactly when both are True. -/
theorem ready_tracks_after_initialize (ops : List StatusOp) :
    (applyAll (.initializeConditions :: ops) {}).statusOf .ready ≠ none ∧
      (applyAll (.initializeConditions :: ops) {}).statusOf .sinkProvided ≠ none ∧
      (applyAll (.initializeConditions :: ops) {}).statusOf .deployed ≠ none ∧
      ((applyAll (.initializeConditions :: ops) {}).statusOf .sinkProvided = some .false ∨
          (applyAll (.initializeConditions :: ops) {}).statusOf .deployed = some .false →
        (applyAll (.initializeConditions :: ops) {}).statusOf .ready = some .false) ∧
      ((applyAll (.initializeConditions :: ops) {}).statusOf .ready = some .true ↔
        (applyAll (.initializeConditions :: ops) {}).statusOf .sinkProvided = some .true ∧
          (applyAll (.initializeConditions :: ops) {}).statusOf .deployed = some .true) := by
  have h : (applyAll (.initializeConditions :: ops) {}).conditions.readiness.Tracks := by
    rw [readiness_applyAll, List.foldl_cons]
    exact foldl_move Readiness.tracks_move ops (by decide)
  simp only [KinesisSourceStatus.statusOf_eq]
  exact ⟨h.1, h.2.1, h.2.2.1, h.2.2.2.2, h.2.2.2.1⟩

end KnativeKinesis
