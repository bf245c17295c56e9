/-
The condition set behind a `KinesisSource`'s readiness.

`condSet` is knative's `NewLivingConditionSet(Ready, SinkProvided, Deployed)`: `Ready` is the
happy condition and the other two are the terminal conditions it is derived from.  The manager
that `condSet.Manage(s)` hands out is library code, not part of this repository; it is written
here after the library's `InitializeConditions`, `MarkTrue`, `MarkUnknown` and `MarkFalse` of
the same period, for the three condition types the source has.

`SetCondition` drops the old condition of a type before it stores the new one, so a status
holds at most one condition per type: the conditions are three optional slots here, and the
list sorted by type that goes on the wire is a view of them.  Severity and transition times
are left out; nothing the source does reads them.

Readiness depends on the statuses only, never on reasons or messages.  `Readiness` keeps just
the statuses, every operation has a counterpart on it, and `readiness_markTrue` and its
siblings say the counterparts are exact.  That is what lets the lifecycle invariants be checked
once over the 64 combinations of statuses.
-/
import Mathlib.Tactic.DeriveFintype
import Mathlib.Data.Fintype.Option

namespace KnativeKinesis

/-- `corev1.ConditionStatus`: True, False or Unknown. -/
inductive ConditionStatus
  | true
  | false
  | unknown
  deriving DecidableEq, Repr, Fintype

/-- A condition as `SetCondition` stores it. -/
structure Condition where
  status : ConditionStatus
  reason : String := ""
  message : String := ""
  deriving DecidableEq, Repr

/-- The condition types of a `KinesisSource`: `Ready`, `SinkProvided` and `Deployed`. -/
inductive ConditionType
  | ready
  | sinkProvided
  | deployed
  deriving DecidableEq, Repr

/-- A status's conditions, at most one of each type. -/
structure Conditions where
  ready : Option Condition := none
  sinkProvided : Option Condition := none
  deployed : Option Condition := none
  deriving DecidableEq, Repr

namespace Conditions

/-- `GetCondition`: the condition of a type, if one is set. -/
def get (cs : Conditions) : ConditionType → Option Condition
  | .ready => cs.ready
  | .sinkProvided => cs.sinkProvided
  | .deployed => cs.deployed

/-- `SetCondition`: the condition of type `t` becomes `c`. -/
def set (cs : Conditions) : ConditionType → Condition → Conditions
  | .ready, c => { cs with ready := some c }
  | .sinkProvided, c => { cs with sinkProvided := some c }
  | .deployed, c => { cs with deployed := some c }

@[simp] theorem get_set_self (cs : Conditions) (t : ConditionType) (c : Condition) :
    (cs.set t c).get t = some c := by
  cases t <;> rfl

@[simp] theorem get_set_of_ne (cs : Conditions) {t u : ConditionType} (c : Condition)
    (h : u ≠ t) : (cs.set t c).get u = cs.get u := by
  cases t <;> cases u <;> first | rfl | exact absurd rfl h

end Conditions

/-- `Condition.IsTrue` through a pointer: a missing condition is not true. -/
def isTrue : Option Condition → Bool
  | some c => c.status == .true
  | none => false

/-- `Condition.IsFalse` through a pointer: a missing condition is not false. -/
def isFalse : Option Condition → Bool
  | some c => c.status == .false
  | none => false

@[simp] theorem isTrue_some (c : Condition) : isTrue (some c) = (c.status == .true) := rfl

@[simp] theorem isFalse_some (c : Condition) : isFalse (some c) = (c.status == .false) := rfl

/-- `ConditionSet`: the happy condition and the terminal conditions it is derived from. -/
structure ConditionSet where
  happy : ConditionType
  dependents : List ConditionType

/-- `NewLivingConditionSet`: `Ready` is happy, and the given types, less `Ready` and
repeats, are its dependents. -/
def newLivingConditionSet (ds : List ConditionType) : ConditionSet where
  happy := .ready
  dependents := ds.foldl (fun deps d => if d = .ready ∨ d ∈ deps then deps else deps ++ [d]) []

def condSet : ConditionSet :=
  newLivingConditionSet [.ready, .sinkProvided, .deployed]

@[simp] theorem condSet_happy : condSet.happy = .ready := rfl

@[simp] theorem condSet_dependents : condSet.dependents = [.sinkProvided, .deployed] := by
  decide

namespace ConditionSet

variable (r : ConditionSet)

/-- `InitializeConditions`: each condition of the set that is unset becomes Unknown. -/
def initializeConditions (cs : Conditions) : Conditions :=
  (r.dependents ++ [r.happy]).foldl
    (fun cs t => if cs.get t = none then cs.set t { status := .unknown } else cs) cs

/-- `MarkTrue`: `t` becomes True, and the happy condition too once every dependent is. -/
def markTrue (cs : Conditions) (t : ConditionType) : Conditions :=
  let cs := cs.set t { status := .true }
  if r.dependents.all fun d => isTrue (cs.get d) then cs.set r.happy { status := .true } else cs

/-- `MarkFalse`: `t` and the happy condition become False. -/
def markFalse (cs : Conditions) (t : ConditionType) (reason message : String) : Conditions :=
  (cs.set t ⟨.false, reason, message⟩).set r.happy ⟨.false, reason, message⟩

/-- `MarkUnknown`: `t` becomes Unknown, and so does the happy condition, unless a dependent
is False; then the happy condition is made False if it is not already. -/
def markUnknown (cs : Conditions) (t : ConditionType) (reason message : String) : Conditions :=
  let cs := cs.set t ⟨.unknown, reason, message⟩
  if r.dependents.any fun d => isFalse (cs.get d) then
    if isFalse (cs.get r.happy) then cs else r.markFalse cs r.happy reason message
  else cs.set r.happy ⟨.unknown, reason, message⟩

def isHappy (cs : Conditions) : Bool :=
  isTrue (cs.get r.happy)

end ConditionSet

/-! ### The statuses alone -/

/-- The status of each condition, where it is set. -/
structure Readiness where
  ready : Option ConditionStatus
  sinkProvided : Option ConditionStatus
  deployed : Option ConditionStatus
  deriving DecidableEq, Repr, Fintype

namespace Readiness

/-- The status of a condition type. -/
def get (s : Readiness) : ConditionType → Option ConditionStatus
  | .ready => s.ready
  | .sinkProvided => s.sinkProvided
  | .deployed => s.deployed

/-- The condition of type `t` gets status `v`. -/
def set (s : Readiness) : ConditionType → ConditionStatus → Readiness
  | .ready, v => { s with ready := some v }
  | .sinkProvided, v => { s with sinkProvided := some v }
  | .deployed, v => { s with deployed := some v }

variable (r : ConditionSet)

/-- `InitializeConditions` on statuses. -/
def initializeConditions (s : Readiness) : Readiness :=
  (r.dependents ++ [r.happy]).foldl (fun s t => if s.get t = none then s.set t .unknown else s) s

/-- `MarkTrue` on statuses. -/
def markTrue (s : Readiness) (t : ConditionType) : Readiness :=
  let s := s.set t .true
  if r.dependents.all fun d => s.get d == some .true then s.set r.happy .true else s

/-- `MarkFalse` on statuses. -/
def markFalse (s : Readiness) (t : ConditionType) : Readiness :=
  (s.set t .false).set r.happy .false

/-- `MarkUnknown` on statuses. -/
def markUnknown (s : Readiness) (t : ConditionType) : Readiness :=
  let s := s.set t .unknown
  if r.dependents.any fun d => s.get d == some .false then
    if s.get r.happy == some .false then s else s.markFalse r r.happy
  else s.set r.happy .unknown

end Readiness

namespace Conditions

/-- The statuses of a status's conditions. -/
def readiness (cs : Conditions) : Readiness :=
  ⟨cs.ready.map (·.status), cs.sinkProvided.map (·.status), cs.deployed.map (·.status)⟩

@[simp] theorem readiness_get (cs : Conditions) (t : ConditionType) :
    cs.readiness.get t = (cs.get t).map (·.status) := by
  cases t <;> rfl

@[simp] theorem readiness_set (cs : Conditions) (t : ConditionType) (c : Condition) :
    (cs.set t c).readiness = cs.readiness.set t c.status := by
  cases t <;> rfl

end Conditions

theorem isTrue_eq (c : Option Condition) : isTrue c = (c.map (·.status) == some .true) := by
  cases c <;> simp [isTrue]

theorem isFalse_eq (c : Option Condition) : isFalse c = (c.map (·.status) == some .false) := by
  cases c <;> simp [isFalse]

/-! ### The manager refines its counterpart on statuses -/

namespace ConditionSet

variable (r : ConditionSet) (cs : Conditions) (t : ConditionType) (reason message : String)

theorem readiness_markFalse :
    (r.markFalse cs t reason message).readiness = cs.readiness.markFalse r t := by
  simp [markFalse, Readiness.markFalse]

theorem readiness_markTrue : (r.markTrue cs t).readiness = cs.readiness.markTrue r t := by
  have hall : (r.dependents.all fun d => isTrue ((cs.set t { status := .true }).get d)) =
      r.dependents.all fun d => (cs.readiness.set t .true).get d == some .true := by
    simp only [isTrue_eq, ← Conditions.readiness_get, Conditions.readiness_set]
  simp only [markTrue, Readiness.markTrue, hall]
  split <;> simp

theorem readiness_markUnknown :
    (r.markUnknown cs t reason message).readiness = cs.readiness.markUnknown r t := by
  have hany :
      (r.dependents.any fun d => isFalse ((cs.set t ⟨.unknown, reason, message⟩).get d)) =
        r.dependents.any fun d => (cs.readiness.set t .unknown).get d == some .false := by
    simp only [isFalse_eq, ← Conditions.readiness_get, Conditions.readiness_set]
  have hhappy : isFalse ((cs.set t ⟨.unknown, reason, message⟩).get r.happy) =
      ((cs.readiness.set t .unknown).get r.happy == some .false) := by
    simp only [isFalse_eq, ← Conditions.readiness_get, Conditions.readiness_set]
  simp only [markUnknown, Readiness.markUnknown, hany, hhappy]
  split
  · split
    · simp
    · rw [readiness_markFalse, Conditions.readiness_set]
  · simp

theorem readiness_initializeConditions :
    (r.initializeConditions cs).readiness = cs.readiness.initializeConditions r := by
  simp only [initializeConditions, Readiness.initializeConditions]
  generalize r.dependents ++ [r.happy] = ts
  induction ts generalizing cs with
  | nil => rfl
  | cons t ts ih =>
    simp only [List.foldl_cons]
    rw [ih]
    congr 1
    by_cases h : cs.get t = none <;> simp [h]

theorem isHappy_eq : r.isHappy cs = (cs.readiness.get r.happy == some .true) := by
  simp [isHappy, isTrue_eq]

end ConditionSet

end KnativeKinesis
