/-
The `KinesisSource` resource: its spec, its status, and the status operations the controller
calls.

The spec keeps the fields something in the repository reads: the stream and its region, the two
credential selectors, and the service account.  `Sink` is only handed to the sink resolver,
which is outside the repository, so its answer is an input of the reconciler instead.  Of the
object's metadata the model keeps what the controller reads or writes: name, namespace, UID,
finalizers and the deletion timestamp.

Each status operation is the one-line wrapper the source writes around `condSet`; the message
arguments are taken already formatted, as `fmt.Sprintf` leaves them.
-/
import KnativeKinesis.Apis.ConditionSet

namespace KnativeKinesis

/-- Go's `len(s) > 0` on a string says it is not empty. -/
@[simp] theorem length_pos_iff_ne_empty {s : String} : 0 < s.length ↔ s ≠ "" := by
  cases s with
  | mk d => simp [String.length, List.length_pos, String.ext_iff]

/-- Go's `len(s) == 0` on a string says it is empty. -/
@[simp] theorem length_eq_zero_iff {s : String} : s.length = 0 ↔ s = "" := by
  cases s with
  | mk d => simp [String.length, String.ext_iff]

/-- `corev1.SecretKeySelector`: the secret's name and a key in it. -/
structure SecretKeySelector where
  name : String := ""
  key : String := ""
  deriving DecidableEq, Repr

/-- `KiamOptions`: the role KIAM assigns to the pod, and the role the consumer assumes. -/
structure KiamOptions where
  assignedIamRole : String := ""
  kclIamRoleArn : String := ""
  deriving DecidableEq, Repr

structure KinesisSourceSpec where
  streamName : String := ""
  region : String := ""
  awsCredsSecret : SecretKeySelector := {}
  kiamOptions : KiamOptions := {}
  serviceAccountName : String := ""
  deriving DecidableEq, Repr

/-- `KinesisSourceStatus`: the conditions, and the sink URI last resolved. -/
structure KinesisSourceStatus where
  conditions : Conditions := {}
  sinkURI : String := ""
  deriving DecidableEq, Repr

namespace KinesisSourceStatus

def getCondition (s : KinesisSourceStatus) (t : ConditionType) : Option Condition :=
  s.conditions.get t

def isReady (s : KinesisSourceStatus) : Bool :=
  condSet.isHappy s.conditions

def initializeConditions (s : KinesisSourceStatus) : KinesisSourceStatus :=
  { s with conditions := condSet.initializeConditions s.conditions }

/-- `MarkSink`: record the URI; `SinkProvided` is True if it is non-empty, else Unknown. -/
def markSink (s : KinesisSourceStatus) (uri : String) : KinesisSourceStatus :=
  let s := { s with sinkURI := uri }
  if uri.length > 0 then
    { s with conditions := condSet.markTrue s.conditions .sinkProvided }
  else
    { s with
      conditions :=
        condSet.markUnknown s.conditions .sinkProvided "SinkEmpty" "Sink has resolved to empty." }

@[simp] theorem markSink_sinkURI (s : KinesisSourceStatus) (uri : String) :
    (s.markSink uri).sinkURI = uri := by
  unfold markSink
  split <;> rfl

def markNoSink (s : KinesisSourceStatus) (reason message : String) : KinesisSourceStatus :=
  { s with conditions := condSet.markFalse s.conditions .sinkProvided reason message }

def markDeployed (s : KinesisSourceStatus) : KinesisSourceStatus :=
  { s with conditions := condSet.markTrue s.conditions .deployed }

@[simp] theorem markDeployed_sinkURI (s : KinesisSourceStatus) :
    s.markDeployed.sinkURI = s.sinkURI := rfl

def markDeploying (s : KinesisSourceStatus) (reason message : String) : KinesisSourceStatus :=
  { s with conditions := condSet.markUnknown s.conditions .deployed reason message }

def markNotDeployed (s : KinesisSourceStatus) (reason message : String) : KinesisSourceStatus :=
  { s with conditions := condSet.markFalse s.conditions .deployed reason message }

end KinesisSourceStatus

/-- `KinesisSource`: the metadata the controller touches, the spec and the status. -/
structure KinesisSource where
  name : String
  /-- `Namespace`. -/
  ns : String
  uid : String
  finalizers : List String := []
  deletionTimestamp : Option Nat := none
  spec : KinesisSourceSpec := {}
  status : KinesisSourceStatus := {}
  deriving DecidableEq, Repr

/-- The Source with its status changed by `f`, as the status methods do through the pointer. -/
def KinesisSource.withStatus (src : KinesisSource)
    (f : KinesisSourceStatus → KinesisSourceStatus) : KinesisSource :=
  { src with status := f src.status }

@[simp] theorem KinesisSource.withStatus_status (src : KinesisSource) (f) :
    (src.withStatus f).status = f src.status := rfl

@[simp] theorem KinesisSource.withStatus_finalizers (src : KinesisSource) (f) :
    (src.withStatus f).finalizers = src.finalizers := rfl

@[simp] theorem KinesisSource.withStatus_deletionTimestamp (src : KinesisSource) (f) :
    (src.withStatus f).deletionTimestamp = src.deletionTimestamp := rfl

@[simp] theorem KinesisSource.withStatus_withStatus (src : KinesisSource) (f g) :
    (src.withStatus f).withStatus g = src.withStatus fun st => g (f st) := rfl

@[simp] theorem KinesisSource.withStatus_eq_withStatus (src : KinesisSource) (f g) :
    src.withStatus f = src.withStatus g ↔ f src.status = g src.status :=
  ⟨fun h => by simpa using congrArg KinesisSource.status h, fun h => by simp [withStatus, h]⟩

end KnativeKinesis
