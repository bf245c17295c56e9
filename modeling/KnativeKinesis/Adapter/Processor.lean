/-
The record processor: what the receive adapter does with a batch the KCL worker hands it.

`postMessage` wraps the whole batch in one CloudEvent and sends it to the sink.
`ProcessRecords` skips an empty batch, and checkpoints the last record's sequence number once
the send went through; `Shutdown` checkpoints with no sequence number when the lease ends for
good.  The sink's answer to each send is an input, so what the processor does is a list of
effects determined by the batch and that answer.

A record's `SequenceNumber` is a `*string`, modelled as the address it holds and the string
stored there.  Printed with `%v`, a pointer to a string shows its address, not the string, so
the event's ID says where the first sequence number lives rather than what it is: two batches
of one size whose first sequence numbers sit at one address get one ID
(`event_id_of_same_address`).
-/
import KnativeKinesis.Adapter.Main

namespace KnativeKinesis

/-- A `*string` that is not nil: the address it holds, and the string stored there. -/
structure StrPtr where
  addr : Nat
  val : String
  addr_pos : 0 < addr
  deriving DecidableEq, Repr

/-- `kinesis.Record`, its sequence number and partition key the pointers the SDK hands over. -/
structure Record where
  sequenceNumber : Option StrPtr
  partitionKey : Option StrPtr := none
  data : List UInt8 := []
  deriving DecidableEq, Repr

/-- `kc.ProcessRecordsInput`, less the checkpointer and the cache times, which the processor
never reads. -/
structure ProcessRecordsInput where
  records : List Record
  millisBehindLatest : Int := 0
  deriving DecidableEq, Repr

/-- A CloudEvent as `postMessage` builds it; `time` is in milliseconds. -/
structure Event where
  id : String
  type : String
  source : String
  time : Int
  extensions : StringMap
  data : ProcessRecordsInput
  deriving DecidableEq, Repr

def eventType : String := "aws.kinesis.event"

def extEventName : String := "aws:kinesis:record"

def extEventSource : String := "aws:kinesis"

def extKinesisSchemaVersion : String := "1.0"

/-- How `fmt` prints a `*string` under `%v`: the address in hex, or `<nil>`. -/
def fmtPointer : Option StrPtr → String
  | some p => "0x" ++ String.mk (Nat.toDigits 16 p.addr)
  | none => "<nil>"

/-- The event `postMessage` sends for a non-empty batch, at clock `now`. -/
def Session.event (s : Session) (m : ProcessRecordsInput) (h : m.records ≠ []) (now : Int) :
    Event :=
  let sequenceNumber := (m.records.head h).sequenceNumber
  let recordsCount := m.records.length
  let eventID := fmtPointer sequenceNumber ++ ":" ++ toString recordsCount
  let ext := [("Ext_KinesisSchemaVersion", extKinesisSchemaVersion),
    ("Ext_EventSource", extEventSource), ("Ext_EventName", extEventName),
    ("Ext_EventSourceARN", s.streamARN), ("Ext_Region", s.adapter.region)]
  { id := eventID
    type := eventType
    source := "/" ++ s.streamARN
    time := now - m.millisBehindLatest
    extensions := ext
    data := m }

/-- What a record processor does to the world: send an event, or checkpoint. -/
inductive Effect
  | send (e : Event)
  | checkpoint (sequenceNumber : Option StrPtr)
  deriving DecidableEq, Repr

/-- The sequence number of a checkpoint effect. -/
def Effect.checkpoint? : Effect → Option (Option StrPtr)
  | .checkpoint n => some n
  | .send _ => none

/-- The event of a send effect. -/
def Effect.send? : Effect → Option Event
  | .send e => some e
  | .checkpoint _ => none

/-- KCL's shutdown reasons. -/
inductive ShutdownReason
  | requested
  | terminate
  | zombie
  deriving DecidableEq, Repr

/-- `ProcessRecords`, given the sink's answer to the envelope. -/
def Session.processRecords (s : Session) (input : ProcessRecordsInput) (now : Int)
    (answer : Option String) : List Effect :=
  if h : input.records = [] then []
  else
    let e := s.event input h now
    match answer with
    | some _ => [.send e]
    | none => [.send e, .checkpoint (input.records.getLast h).sequenceNumber]

def Session.shutdown (_s : Session) (reason : ShutdownReason) : List Effect :=
  if reason = .terminate then [.checkpoint none] else []

/-- A batch checkpoints once, with its last sequence number, exactly when it is non-empty and
the sink took its envelope. -/
theorem Session.processRecords_checkpoints (s : Session) (input : ProcessRecordsInput) (now : Int)
    (answer : Option String) :
    (s.processRecords input now answer).filterMap Effect.checkpoint? =
      if h : input.records ≠ [] ∧ answer = none then
        [(input.records.getLast h.1).sequenceNumber]
      else [] := by
  unfold processRecords
  by_cases hr : input.records = []
  · simp [hr]
  · cases answer <;> simp [hr, Effect.checkpoint?]

/-- A batch sends one envelope, carrying the whole batch, when it is non-empty, whatever the
sink then answers. -/
theorem Session.processRecords_sends (s : Session) (input : ProcessRecordsInput) (now : Int)
    (answer : Option String) :
    ((s.processRecords input now answer).filterMap Effect.send?).map (·.data) =
      if input.records = [] then [] else [input] := by
  unfold processRecords
  by_cases hr : input.records = []
  · simp [hr]
  · cases answer <;> simp [hr, Effect.send?, Session.event]

/-- `Shutdown` sends nothing. -/
theorem Session.shutdown_sends (s : Session) (reason : ShutdownReason) :
    (s.shutdown reason).filterMap Effect.send? = [] := by
  unfold shutdown
  split <;> rfl

/-! ### The event ID -/

/-- The ID reads only the first pointer's address and the batch size: two batches whose first
sequence numbers sit at one address and that have as many records get the same ID, whatever
the strings there. -/
theorem event_id_of_same_address (s₁ s₂ : Session) {m₁ m₂ : ProcessRecordsInput}
    (h₁ : m₁.records ≠ []) (h₂ : m₂.records ≠ []) (now₁ now₂ : Int)
    (haddr : (m₁.records.head h₁).sequenceNumber.map (·.addr) =
      (m₂.records.head h₂).sequenceNumber.map (·.addr))
    (hlen : m₁.records.length = m₂.records.length) :
    (s₁.event m₁ h₁ now₁).id = (s₂.event m₂ h₂ now₂).id := by
  have hfmt : fmtPointer (m₁.records.head h₁).sequenceNumber =
      fmtPointer (m₂.records.head h₂).sequenceNumber := by
    revert haddr
    cases (m₁.records.head h₁).sequenceNumber <;>
      cases (m₂.records.head h₂).sequenceNumber <;> simp_all [fmtPointer]
  simp only [Session.event, hfmt, hlen]

/-- The record of the adapter's test, its sequence number `"1234567"` stored at `0xc000012340`. -/
def adapterTestRecord : Record where
  sequenceNumber := some ⟨0xc000012340, "1234567", by decide⟩
  partitionKey := some ⟨0xc000012350, "1", by decide⟩

/-- For that one-record batch the ID is the pointer's address and the count, not
`"1234567:1"`; and every one-record batch whose sequence number is stored at that address gets
that ID, whatever string is stored there. -/
theorem event_id_is_pointer_address (s : Session) (now : Int) :
    (s.event ⟨[adapterTestRecord], 1000⟩ (List.cons_ne_nil _ _) now).id = "0xc000012340:1" ∧
      (s.event ⟨[adapterTestRecord], 1000⟩ (List.cons_ne_nil _ _) now).id ≠ "1234567:1" ∧
      ∀ (rec : Record) (lag : Int), rec.sequenceNumber.map (·.addr) = some 0xc000012340 →
        (s.event ⟨[rec], lag⟩ (List.cons_ne_nil _ _) now).id = "0xc000012340:1" := by
  have h : (s.event ⟨[adapterTestRecord], 1000⟩ (List.cons_ne_nil _ _) now).id =
      "0xc000012340:1" := by
    simp only [Session.event, adapterTestRecord, List.head_cons, List.length_singleton]
    decide
  refine ⟨h, by rw [h]; decide, fun rec lag haddr => ?_⟩
  rw [← h]
  exact event_id_of_same_address s s _ _ now now haddr rfl

end KnativeKinesis
