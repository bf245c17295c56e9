/-
One pass of `Reconcile` over a `KinesisSource`.

A deleted Source only loses this controller's finalizer.  Otherwise the pass adds the finalizer,
initializes the conditions, resolves the sink, and has `createReceiveAdapter` find, update or
create the receive adapter; the conditions record how far it got.

`sets.NewString(...).List()` is the finalizers as a set, listed in order, so the finalizers a
pass leaves are a `Finset` sorted by `≤`, which on strings is Go's byte order.  The frame
theorem at the end says what a pass may change of the Source: the finalizers and the status,
nothing else, on every path.
-/
import KnativeKinesis.Adapter.Main
import KnativeKinesis.Reconciler.Client
import Mathlib.Data.Finset.Sort
import Mathlib.Data.String.Basic

namespace KnativeKinesis

def finalizerName : String := controllerAgentName

def addFinalizer (s : KinesisSource) : KinesisSource :=
  { s with finalizers := (insert finalizerName s.finalizers.toFinset).sort (· ≤ ·) }

@[simp] theorem addFinalizer_status (s : KinesisSource) : (addFinalizer s).status = s.status := rfl

@[simp] theorem addFinalizer_deletionTimestamp (s : KinesisSource) :
    (addFinalizer s).deletionTimestamp = s.deletionTimestamp := rfl

@[simp] theorem addFinalizer_withStatus (s : KinesisSource) (f) :
    addFinalizer (s.withStatus f) = (addFinalizer s).withStatus f := rfl

/-- Adding the finalizer twice adds it once. -/
@[simp] theorem addFinalizer_addFinalizer (s : KinesisSource) :
    addFinalizer (addFinalizer s) = addFinalizer s := by
  simp only [addFinalizer, Finset.sort_toFinset, Finset.insert_idem]

def removeFinalizer (s : KinesisSource) : KinesisSource :=
  { s with finalizers := (s.finalizers.toFinset.erase finalizerName).sort (· ≤ ·) }

/-- The configuration check of `createReceiveAdapter`: every credential field is empty. -/
def credentialsMissing (spec : KinesisSourceSpec) : Bool :=
  spec.awsCredsSecret.name.length == 0 && spec.awsCredsSecret.key.length == 0 &&
    spec.kiamOptions.assignedIamRole.length == 0 && spec.kiamOptions.kclIamRoleArn.length == 0

/-- `fmt.Errorf("Configuration error")`. -/
def configurationError : Error := ⟨"Configuration error", false⟩

/-- The Deployment with its pod spec replaced. -/
def Deployment.withPodSpec (d : Deployment) (p : PodSpec) : Deployment :=
  { d with spec := { d.spec with template := { d.spec.template with spec := p } } }

/-- `createReceiveAdapter` after its lookup: check the configuration, then update the
Deployment found if its pod spec drifted, or create the expected one. -/
def reuseOrCreate (image : String) (src : KinesisSource) (sinkURI : String) (w : Answers)
    (ra : Option Deployment) (a : Api) : Except Error Deployment × Api :=
  if credentialsMissing src.spec then (.error configurationError, a) else
  let expected := makeReceiveAdapter ⟨image, src, getLabels src, sinkURI⟩
  match ra with
  | some ra =>
    if podSpecChanged ra.spec.template.spec expected.spec.template.spec then
      let ra := ra.withPodSpec expected.spec.template.spec
      match a.update w ra with
      | (some e, a) => (.error e, a)
      | (none, a) => (.ok ra, a)
    else (.ok ra, a)
  | none =>
    let expected := setControllerReference src expected
    match a.create w expected with
    | (some e, a) => (.error e, a)
    | (none, a) => (.ok expected, a)

def createReceiveAdapter (image : String) (src : KinesisSource) (sinkURI : String) (w : Answers)
    (a : Api) : Except Error Deployment × Api :=
  match getReceiveAdapter src w a with
  | (.ok ra, a) => reuseOrCreate image src sinkURI w (some ra) a
  | (.error e, a) => if e.notFound then reuseOrCreate image src sinkURI w none a else (.error e, a)

/-- `reconciler`: the receive adapter's image; its client is the `Api` a pass runs against. -/
structure Reconciler where
  receiveAdapterImage : String

def raImageEnvVar : String := "KINESIS_RA_IMAGE"

/-- `Add`, as far as the reconciler goes: the receive adapter's image from the controller's
environment, or the error `Add` returns without one. -/
def add (env : List EnvVar) : Except String Reconciler :=
  match lookupEnv env raImageEnvVar with
  | some raImage => .ok ⟨raImage⟩
  | none => .error ("required environment variable '" ++ raImageEnvVar ++ "' not defined")

/-- What a pass leaves: the Source, the API server, and the error `Reconcile` returns. -/
structure Pass where
  src : KinesisSource
  api : Api
  err : Option Error

def Reconciler.reconcile (r : Reconciler) (src : KinesisSource) (w : Answers) (a : Api) : Pass :=
  match src.deletionTimestamp with
  | some _ => ⟨removeFinalizer src, a, none⟩
  | none =>
    let src := (addFinalizer src).withStatus (·.initializeConditions)
    let a := a.send .getSinkURI
    match w.sinkURI with
    | .error e => ⟨src.withStatus (·.markNoSink "NotFound" ""), a, some e⟩
    | .ok sinkURI =>
      let src := src.withStatus (·.markSink sinkURI)
      match createReceiveAdapter r.receiveAdapterImage src sinkURI w a with
      | (.error e, a) => ⟨src, a, some e⟩
      | (.ok _, a) => ⟨src.withStatus (·.markDeployed), a, none⟩

/-! ### What a pass changes of the Source -/

section Frame

variable (r : Reconciler) (src : KinesisSource) (w : Answers) (a : Api)

/-- A pass of a live Source leaves `addFinalizer`'s finalizers and keeps everything but the
finalizers and the status. -/
theorem reconcile_src_of_live (h : src.deletionTimestamp = none) :
    ∃ st, (r.reconcile src w a).src = { addFinalizer src with status := st } := by
  simp only [Reconciler.reconcile, h, KinesisSource.withStatus]
  split
  · exact ⟨_, rfl⟩
  · split <;> exact ⟨_, rfl⟩

/-- A pass of a deleted Source removes the finalizer and calls nothing. -/
theorem reconcile_of_deleted (h : src.deletionTimestamp ≠ none) :
    r.reconcile src w a = ⟨removeFinalizer src, a, none⟩ := by
  obtain ⟨t, ht⟩ := Option.ne_none_iff_exists'.mp h
  simp [Reconciler.reconcile, ht]

/-- **What `Reconcile` changes.**  Whatever its finalizers and whatever the pass returns, the
Source keeps every field but its finalizers and its status.  The finalizers it is left with are
sorted and duplicate-free, and as a set they are the old ones with `finalizerName` added, or,
for a Source being deleted, removed; a deleted Source also keeps its status, and the pass makes
no call. -/
theorem reconcile_frame :
    (∃ fs st, (r.reconcile src w a).src = { src with finalizers := fs, status := st }) ∧
      (r.reconcile src w a).src.finalizers.Sorted (· ≤ ·) ∧
      (r.reconcile src w a).src.finalizers.Nodup ∧
      (r.reconcile src w a).src.finalizers.toFinset =
        (if src.deletionTimestamp = none then insert finalizerName src.finalizers.toFinset
          else src.finalizers.toFinset.erase finalizerName) ∧
      (src.deletionTimestamp ≠ none →
        (r.reconcile src w a).src.status = src.status ∧ (r.reconcile src w a).api = a) := by
  by_cases h : src.deletionTimestamp = none
  · obtain ⟨st, hst⟩ := reconcile_src_of_live r src w a h
    rw [hst, if_pos h]
    dsimp only [addFinalizer]
    exact ⟨⟨_, st, rfl⟩, Finset.sort_sorted _ _, Finset.sort_nodup _ _,
      Finset.sort_toFinset _ _, fun h' => absurd h h'⟩
  · rw [reconcile_of_deleted r src w a h, if_neg h]
    dsimp only [removeFinalizer]
    exact ⟨⟨_, _, rfl⟩, Finset.sort_sorted _ _, Finset.sort_nodup _ _,
      Finset.sort_toFinset _ _, fun _ => ⟨rfl, rfl⟩⟩

end Frame

end KnativeKinesis
