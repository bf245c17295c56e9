/-
The API server as the reconciler sees it during one pass.

The store is the list of Deployments the server holds.  `List` reads the controller's view of
it, its informer cache; `Create` and `Update` write the store itself.  The cache is a map, and
`List` enumerates it in an order of its own, which may change from one call to the next: the
view is that enumeration, for the one `List` a pass makes.  So what a theorem says the lookup
finds, it says for every view that lists the store in some order (`List.Perm`), never for the
store's own order.  What the server and the
sink resolver answer is an input, `Answers`: a failure for each kind of call, and the suffix
the server appends to a `GenerateName`.  Every theorem about a pass holds for all answers.
Each request is recorded in `Api.calls`, so that a theorem can say which calls a pass made.

A `List` of Deployments in a namespace either succeeds or fails outright; it never answers
NotFound, so its failures carry `notFound := false`.
-/
import KnativeKinesis.Reconciler.Equality

namespace KnativeKinesis

/-- The Deployments the API server holds. -/
abbrev Store := List Deployment

/-- An `error` as the controller sees it: its text, and whether `apierrors.IsNotFound` holds. -/
structure Error where
  message : String
  notFound : Bool := false
  deriving DecidableEq, Repr

/-- A request the reconciler sends, in the order sent. -/
inductive Call
  | getSinkURI
  | list (ns : String) (selector : StringMap)
  | create (d : Deployment)
  | update (d : Deployment)
  deriving DecidableEq, Repr

/-- The outside world's answers to one pass: what `sinks.GetSinkURI` returns, which calls
fail and with what message, and the suffix the server generates a name with. -/
structure Answers where
  sinkURI : Except Error String
  list : Option String := none
  create : Option String := none
  update : Option String := none
  suffix : String := ""

/-- The API server during a pass: the informer cache as this pass's `List` enumerates it, in
whatever order that call takes; the store; and the calls so far. -/
structure Api where
  view : Store
  store : Store
  calls : List Call := []
  deriving DecidableEq, Repr

/-- Record a request. -/
def Api.send (a : Api) (c : Call) : Api :=
  { a with calls := a.calls ++ [c] }

@[simp] theorem Api.send_view (a : Api) (c : Call) : (a.send c).view = a.view := rfl

@[simp] theorem Api.send_store (a : Api) (c : Call) : (a.send c).store = a.store := rfl

@[simp] theorem Api.send_calls (a : Api) (c : Call) : (a.send c).calls = a.calls ++ [c] := rfl

def controllerAgentName : String := "aws-kinesis-source-controller"

def getLabels (src : KinesisSource) : StringMap :=
  [("knative-eventing-source", controllerAgentName), ("knative-eventing-source-name", src.name)]

/-- `labels.SelectorFromSet(set)` matches `labels`: every pair of the set is among them. -/
def selectorMatches (set labels : StringMap) : Bool :=
  set.all fun (k, v) => labels.lookup k == some v

/-- `metav1.IsControlledBy`: the first owner reference marked controller is the Source's. -/
def isControlledBy (d : Deployment) (src : KinesisSource) : Bool :=
  match d.ownerReferences.find? (·.controller) with
  | some ref => ref.uid == src.uid
  | none => false

/-- What `List` with a namespace and a label selector returns, in the order the view
enumerates the cache. -/
def listDeployments (view : Store) (ns : String) (selector : StringMap) : List Deployment :=
  view.filter fun d => d.ns == ns && selectorMatches selector d.labels

/-- The loop of `getReceiveAdapter`: the first listed Deployment the Source controls. -/
def findReceiveAdapter (src : KinesisSource) (view : Store) : Option Deployment :=
  (listDeployments view src.ns (getLabels src)).find? (isControlledBy · src)

/-- `apierrors.NewNotFound(schema.GroupResource{}, "")`. -/
def notFoundError : Error := ⟨" \"\" not found", true⟩

def getReceiveAdapter (src : KinesisSource) (w : Answers) (a : Api) :
    Except Error Deployment × Api :=
  let a := a.send (.list src.ns (getLabels src))
  match w.list with
  | some msg => (.error ⟨msg, false⟩, a)
  | none =>
    match findReceiveAdapter src a.view with
    | some d => (.ok d, a)
    | none => (.error notFoundError, a)

/-- Two Deployments share a namespace and a name, the key the server stores them under. -/
def Deployment.sameKey (d e : Deployment) : Bool :=
  d.ns == e.ns && d.name == e.name

/-- The Deployment as the server stores it: a Deployment with no name is named from its
`GenerateName` and the suffix the server picks. -/
def Deployment.withGeneratedName (d : Deployment) (suffix : String) : Deployment :=
  { d with name := if d.name = "" then d.generateName ++ suffix else d.name }

/-- `Create`: the server names the Deployment from its `GenerateName` and stores it, unless the
name is taken in the namespace. -/
def Api.create (a : Api) (w : Answers) (d : Deployment) : Option Error × Api :=
  let a := a.send (.create d)
  match w.create with
  | some msg => (some ⟨msg, false⟩, a)
  | none =>
    let d := d.withGeneratedName w.suffix
    if a.store.any d.sameKey then
      (some ⟨"deployments.apps \"" ++ d.name ++ "\" already exists", false⟩, a)
    else (none, { a with store := a.store ++ [d] })

/-- `Update`: the stored Deployment under the same key is replaced. -/
def Api.update (a : Api) (w : Answers) (d : Deployment) : Option Error × Api :=
  let a := a.send (.update d)
  match w.update with
  | some msg => (some ⟨msg, false⟩, a)
  | none =>
    if a.store.any d.sameKey then
      (none, { a with store := a.store.map fun e => if d.sameKey e then d else e })
    else (some ⟨"deployments.apps \"" ++ d.name ++ "\" not found", true⟩, a)

/-- `Create` stores the named Deployment when the server takes the call and the name is free,
and otherwise fails and stores nothing. -/
theorem Api.create_cases (a : Api) (w : Answers) (d : Deployment) :
    (w.create = none ∧ a.store.any (d.withGeneratedName w.suffix).sameKey = false ∧
      a.create w d =
        (none, { a.send (.create d) with store := a.store ++ [d.withGeneratedName w.suffix] })) ∨
    ∃ e, a.create w d = (some e, a.send (.create d)) := by
  unfold Api.create
  cases w.create with
  | none => by_cases hk : a.store.any (d.withGeneratedName w.suffix).sameKey <;> simp [hk]
  | some msg => simp

/-- `Update` replaces what the store holds under the Deployment's key when the server takes the
call and the key is there, and otherwise fails and changes nothing. -/
theorem Api.update_cases (a : Api) (w : Answers) (d : Deployment) :
    (w.update = none ∧ a.store.any d.sameKey = true ∧
      a.update w d =
        (none, { a.send (.update d) with
          store := a.store.map fun e => if d.sameKey e then d else e })) ∨
    ∃ e, a.update w d = (some e, a.send (.update d)) := by
  unfold Api.update
  cases w.update with
  | none => by_cases hk : a.store.any d.sameKey <;> simp [hk]
  | some msg => simp

/-- `controllerutil.SetControllerReference` on a Deployment with no controller yet: the Source
becomes its controlling owner. -/
def setControllerReference (src : KinesisSource) (d : Deployment) : Deployment :=
  { d with ownerReferences := d.ownerReferences ++ [⟨src.uid, true⟩] }

end KnativeKinesis
