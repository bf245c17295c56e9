/-
A record processor's life on one shard lease.

The KCL worker hands `ProcessRecords` consecutive batches of the shard's records, in stream
order, and within a lease never the same batch twice; the lease may end with `Shutdown`.  A
`Run` is such a life: each batch with the clock and the sink's answer to its envelope, and how
the lease ended.  `Run.consecutive` is the worker's promise, and it is what places every batch
in the shard (`spans`).

A checkpoint marks the records at or before it as done: a sequence number marks the shard up to
its record, a nil checkpoint (`SHARD_END`) the whole shard.  `run_checkpoints` says which
checkpoints a run issues: after each non-empty batch whose envelope the sink took, one naming
the shard's record at the end of that batch, at increasing positions; and a nil one exactly when
the lease ends with `TERMINATE`.  Nothing ties a checkpoint to the batches before its own.  A
batch whose send failed is not handed out again, and the next checkpoint covers it too.
-/
import KnativeKinesis.Adapter.Processor
import Mathlib.Data.List.Sort

namespace KnativeKinesis

/-- One `ProcessRecords` call: the batch, the clock, and the sink's answer to its envelope. -/
structure Delivery where
  input : ProcessRecordsInput
  now : Int
  answer : Option String
  deriving DecidableEq, Repr

/-- One lease on a shard, as the worker drives the processor through it. -/
structure Run (shard : List Record) where
  deliveries : List Delivery
  ending : Option ShutdownReason
  /-- The batches are consecutive records of the shard, from its start. -/
  consecutive : (deliveries.map (·.input.records)).flatten <+: shard

/-- Each batch with the positions in the shard where it starts and stops. -/
def spans : List Delivery → Nat → List (Delivery × Nat × Nat)
  | [], _ => []
  | d :: ds, start =>
    (d, start, start + d.input.records.length) :: spans ds (start + d.input.records.length)

/-- The checkpoints the batches from position `start` on issue, each with its batch's span. -/
def checkpointsFrom (s : Session) (ds : List Delivery) (start : Nat) :
    List (Option StrPtr × Nat × Nat) :=
  (spans ds start).flatMap fun b =>
    ((s.processRecords b.1.input b.1.now b.1.answer).filterMap Effect.checkpoint?).map (·, b.2)

namespace Run

variable {shard : List Record} (run : Run shard) (s : Session)

/-- Everything the processor does over the lease, in order. -/
def effects : List Effect :=
  run.deliveries.flatMap (fun d => s.processRecords d.input d.now d.answer) ++
    (run.ending.map s.shutdown).getD []

/-- The record at position `i` of the shard was in a batch whose envelope the sink took. -/
def Delivered (i : Nat) : Prop :=
  ∃ b ∈ spans run.deliveries 0, b.2.1 ≤ i ∧ i < b.2.2 ∧ b.1.answer = none

/-- The checkpoints the batches issue, each with its batch's span. -/
def batchCheckpoints : List (Option StrPtr × Nat × Nat) :=
  checkpointsFrom s run.deliveries 0

/-- Every checkpoint covers only records of delivered batches, and the one `TERMINATE` brings
covers the whole shard. -/
def CheckpointsCoverDelivered : Prop :=
  (∀ c ∈ run.batchCheckpoints s, ∀ i < c.2.2, run.Delivered i) ∧
    (run.ending = some .terminate → ∀ i < shard.length, run.Delivered i)

end Run

/-! ### Where the batches sit in the shard -/

theorem spans_fst : ∀ (ds : List Delivery) (start : Nat), (spans ds start).map Prod.fst = ds
  | [], _ => rfl
  | d :: ds, start => by simp [spans, spans_fst ds]

/-- A batch starts no earlier than `start` and stops after its records. -/
theorem mem_spans : ∀ {ds : List Delivery} {start : Nat} {b : Delivery × Nat × Nat},
    b ∈ spans ds start → start ≤ b.2.1 ∧ b.2.2 = b.2.1 + b.1.input.records.length
  | [], _, _, h => by simp [spans] at h
  | d :: ds, start, b, h => by
    simp only [spans, List.mem_cons] at h
    rcases h with rfl | h
    · exact ⟨le_refl _, rfl⟩
    · have := mem_spans h
      exact ⟨by omega, this.2⟩

/-- When the batches from `start` on are consecutive records of the shard from `start`, each
batch is the shard's records from where it starts. -/
theorem spans_prefix {shard : List Record} : ∀ {ds : List Delivery} {start : Nat},
    (ds.map (·.input.records)).flatten <+: shard.drop start →
      ∀ b ∈ spans ds start, b.1.input.records <+: shard.drop b.2.1
  | [], _, _ => by simp [spans]
  | d :: ds, start, ⟨t, ht⟩ => by
    simp only [List.map_cons, List.flatten_cons, List.append_assoc] at ht
    have hrest : (ds.map (·.input.records)).flatten <+:
        shard.drop (start + d.input.records.length) :=
      ⟨t, by rw [← List.drop_drop, ← ht, List.drop_left]⟩
    intro b hb
    simp only [spans, List.mem_cons] at hb
    rcases hb with rfl | hb
    · exact ⟨_, ht⟩
    · exact spans_prefix hrest b hb

/-! ### Which checkpoints a run issues -/

theorem checkpointsFrom_cons (s : Session) (d : Delivery) (ds : List Delivery) (start : Nat) :
    checkpointsFrom s (d :: ds) start =
      ((s.processRecords d.input d.now d.answer).filterMap Effect.checkpoint?).map
          (·, start, start + d.input.records.length) ++
        checkpointsFrom s ds (start + d.input.records.length) := by
  simp [checkpointsFrom, spans]

/-- A checkpoint comes from a non-empty batch the sink took, and names its last record. -/
theorem mem_checkpointsFrom {s : Session} {ds : List Delivery} {start : Nat}
    {c : Option StrPtr × Nat × Nat} :
    c ∈ checkpointsFrom s ds start ↔
      ∃ b ∈ spans ds start, ∃ h : b.1.input.records ≠ [], b.1.answer = none ∧
        c = ((b.1.input.records.getLast h).sequenceNumber, b.2) := by
  simp only [checkpointsFrom, List.mem_flatMap, Session.processRecords_checkpoints]
  constructor
  · rintro ⟨b, hb, hc⟩
    split at hc
    · rename_i h
      exact ⟨b, hb, h.1, h.2, by simpa using hc⟩
    · simp at hc
  · rintro ⟨b, hb, hne, hans, rfl⟩
    exact ⟨b, hb, by simp [hne, hans]⟩

/-- The batches' checkpoints reach strictly further into the shard one after another. -/
theorem checkpointsFrom_sorted (s : Session) : ∀ (ds : List Delivery) (start : Nat),
    ((checkpointsFrom s ds start).map (·.2.2)).Sorted (· < ·)
  | [], _ => by simp [checkpointsFrom, spans]
  | d :: ds, start => by
    rw [checkpointsFrom_cons, List.map_append, List.Sorted, List.pairwise_append]
    refine ⟨?_, checkpointsFrom_sorted s ds _, ?_⟩
    · rw [Session.processRecords_checkpoints]
      split <;> simp
    · intro x hx y hy
      obtain ⟨c, hc, rfl⟩ := List.mem_map.mp hy
      obtain ⟨b, hb, hne, -, rfl⟩ := mem_checkpointsFrom.mp hc
      obtain ⟨hstart, hstop⟩ := mem_spans hb
      have hlen : 0 < b.1.input.records.length := List.length_pos.mpr hne
      simp only [List.map_map, Function.comp_def, List.mem_map] at hx
      obtain ⟨_, -, rfl⟩ := hx
      simp only at hstart ⊢
      omega

/-- The checkpoints `Shutdown` issues: a nil one on `TERMINATE`, none otherwise. -/
theorem shutdown_checkpoints (s : Session) (ending : Option ShutdownReason) :
    ((ending.map s.shutdown).getD []).filterMap Effect.checkpoint? =
      if ending = some .terminate then [none] else [] := by
  rcases ending with _ | ⟨_ | _ | _⟩ <;> simp [Session.shutdown, Effect.checkpoint?]

/-- A run's checkpoints are its batches', in order, then the one `Shutdown(TERMINATE)` issues. -/
theorem effects_checkpoints {shard : List Record} (run : Run shard) (s : Session) :
    (run.effects s).filterMap Effect.checkpoint? =
      (run.batchCheckpoints s).map Prod.fst ++
        (if run.ending = some .terminate then [none] else []) := by
  rw [Run.effects, List.filterMap_append, shutdown_checkpoints, List.filterMap_flatMap,
    Run.batchCheckpoints, checkpointsFrom, List.map_flatMap]
  conv_lhs => rw [← spans_fst run.deliveries 0, List.flatMap_map]
  simp [Function.comp_def]

/-- A batch's checkpoint names the shard's record where the batch stops, and every record of
the batch was delivered. -/
theorem batchCheckpoint_in_shard {shard : List Record} (run : Run shard) (s : Session)
    {c : Option StrPtr × Nat × Nat} (hc : c ∈ run.batchCheckpoints s) :
    c.2.1 < c.2.2 ∧ (∀ i, c.2.1 ≤ i → i < c.2.2 → run.Delivered i) ∧
      ∃ h : c.2.2 - 1 < shard.length, c.1 = shard[c.2.2 - 1].sequenceNumber := by
  obtain ⟨b, hb, hne, hans, rfl⟩ := mem_checkpointsFrom.mp hc
  obtain ⟨-, hstop⟩ := mem_spans hb
  have hlen : 0 < b.1.input.records.length := List.length_pos.mpr hne
  have hpre := spans_prefix (by simpa using run.consecutive) b hb
  have hin : b.2.2 - 1 < shard.length := by
    have := hpre.length_le
    simp only [List.length_drop] at this
    omega
  refine ⟨by simp only; omega, fun i hi hi' => ⟨b, hb, hi, hi', hans⟩, hin, ?_⟩
  simp only
  rw [List.getLast_eq_getElem, hpre.getElem (by omega), List.getElem_drop]
  congr 2
  omega

/-- **The checkpoints of a lease.**  Over any run the worker can make, the processor's
checkpoints are those of its batches, then a nil one exactly when the lease ends with
`TERMINATE`.  Every non-empty batch whose envelope the sink took has one checkpoint, and every
checkpoint comes from such a batch: every record of that batch was delivered, and the
checkpoint names the shard's record where the batch stops.  The batches' checkpoints reach
strictly further into the shard, one after another. -/
theorem run_checkpoints {shard : List Record} (run : Run shard) (s : Session) :
    (run.effects s).filterMap Effect.checkpoint? =
        (run.batchCheckpoints s).map Prod.fst ++
          (if run.ending = some .terminate then [none] else []) ∧
      ((run.batchCheckpoints s).map (·.2.2)).Sorted (· < ·) ∧
      (∀ b ∈ spans run.deliveries 0, b.1.input.records ≠ [] → b.1.answer = none →
        ∃ c ∈ run.batchCheckpoints s, c.2 = b.2) ∧
      ∀ c ∈ run.batchCheckpoints s, c.2.1 < c.2.2 ∧
        (∀ i, c.2.1 ≤ i → i < c.2.2 → run.Delivered i) ∧
        ∃ h : c.2.2 - 1 < shard.length, c.1 = shard[c.2.2 - 1].sequenceNumber :=
  ⟨effects_checkpoints run s, checkpointsFrom_sorted s _ _,
    fun b hb hne hans => ⟨_, mem_checkpointsFrom.mpr ⟨b, hb, hne, hans, rfl⟩, rfl⟩,
    fun _ hc => batchCheckpoint_in_shard run s hc⟩

/-! ### What a lease sends -/

/-- The batches' envelopes: one per non-empty batch, carrying it. -/
theorem batch_sends (s : Session) : ∀ ds : List Delivery,
    ((ds.flatMap fun d => s.processRecords d.input d.now d.answer).filterMap
        Effect.send?).map (·.data) =
      (ds.map (·.input)).filter fun m => !m.records.isEmpty
  | [] => rfl
  | d :: ds => by
    rw [List.flatMap_cons, List.filterMap_append, List.map_append, batch_sends s ds,
      s.processRecords_sends]
    by_cases hr : d.input.records = [] <;> simp [hr, List.filter_cons]

/-- **A lease sends every record once.**  Whatever the sink answers, the events a run sends
carry, in order, exactly its non-empty batches, one event each: a batch the sink rejected is
not sent again, and nothing is sent for an empty batch or on `Shutdown`.  Their records, one
after another, are the shard's records from its start up to the last one delivered. -/
theorem run_sends {shard : List Record} (run : Run shard) (s : Session) :
    ((run.effects s).filterMap Effect.send?).map (·.data) =
        (run.deliveries.map (·.input)).filter (fun m => !m.records.isEmpty) ∧
      (((run.effects s).filterMap Effect.send?).map (·.data.records)).flatten =
        shard.take (run.deliveries.map (·.input.records)).flatten.length := by
  have hsends : ((run.effects s).filterMap Effect.send?).map (·.data) =
      (run.deliveries.map (·.input)).filter (fun m => !m.records.isEmpty) := by
    rw [Run.effects, List.filterMap_append, List.map_append, batch_sends]
    rcases run.ending with _ | reason <;> simp [Session.shutdown_sends]
  refine ⟨hsends, ?_⟩
  have hrec : (((run.effects s).filterMap Effect.send?).map (·.data.records)).flatten =
      (run.deliveries.map (·.input.records)).flatten := by
    calc _ = ((((run.effects s).filterMap Effect.send?).map (·.data)).map (·.records)).flatten := by
          rw [List.map_map]
          rfl
      _ = _ := by
          rw [hsends, show (fun m : ProcessRecordsInput => !m.records.isEmpty) =
            (fun l => !l.isEmpty) ∘ (·.records) from rfl, ← List.filter_map,
            List.flatten_filter_not_isEmpty, List.map_map]
          rfl
  rw [hrec]
  exact List.prefix_iff_eq_take.mp run.consecutive

/-! ### A failed batch under a later checkpoint -/

/-- Two records of a shard, sequence numbers `"1234567"` and `"1234568"`. -/
def sampleShard : List Record :=
  [{ sequenceNumber := some ⟨0xc000010250, "1234567", by decide⟩ },
    { sequenceNumber := some ⟨0xc000010260, "1234568", by decide⟩ }]

/-- The sink rejects the first record's envelope and takes the second's. -/
def sampleRun : Run sampleShard where
  deliveries := [⟨⟨sampleShard.take 1, 1000⟩, 0, some "500 Internal Server Error"⟩,
    ⟨⟨sampleShard.drop 1, 0⟩, 0, none⟩]
  ending := none
  consecutive := List.prefix_refl _

/-- An adapter started on the stream of the adapter's test. -/
def sampleSession : Session where
  adapter := ⟨"kinesis-name", "us-west-2", "http://addressable.sink.svc.cluster.local/",
    "kiam-role-arn", "", "source-name"⟩
  credentials := .assumeRole "kiam-role-arn"
  streamARN := "arn:aws:kinesis:us-west-2:4444444:stream/kinesis-name"

/-- The second batch's checkpoint covers the first record, whose batch the sink rejected. -/
theorem checkpoint_covers_rejected_batch :
    ¬ sampleRun.CheckpointsCoverDelivered sampleSession := by
  intro h
  obtain ⟨b, hb, hstart, _, hans⟩ :=
    h.1 (sampleShard[1].sequenceNumber, 1, 2) (by decide) 0 (by decide)
  simp only [sampleRun, spans, List.mem_cons, List.not_mem_nil, or_false] at hb
  rcases hb with rfl | rfl
  · exact absurd hans (by decide)
  · exact absurd hstart (by decide)

end KnativeKinesis
