/-
What a successful pass leaves behind, and what a second pass does with it.

`getReceiveAdapter` lists the view and takes the first Deployment the Source owns: in its
namespace, with its labels, controlled by it (`ownedBy`).  "First" is in the order `List`
enumerates the cache, which is arbitrary, so what the lookup finds is order-free only where the
Source owns one Deployment (`findReceiveAdapter_perm`).  Take a store where the Source controls
at most one Deployment, and a pass that reads a view listing it in any order.  A pass that
returns no error leaves one Deployment the Source owns, whose pod spec `podSpecChanged` accepts:
the one the pass found, with the expected pod spec written over it if it had drifted, or the
one it created.  `podSpecChanged` compares pod specs only, so a reused Deployment keeps its own
template annotations and labels.

A second pass against that store, listed in any order, with the same spec and sink, finds the
same Deployment and leaves the store as it is: it lists and calls nothing else.  It leaves the
finalizers too, and the status as well unless the sink resolved to the empty string while
`Deployed` was False before the first pass: `MarkTrue` raises `Ready` only when both dependents
are True and never lowers a stale False, so that status settles one pass later.

Over many passes the status only ever goes through the status operations, `InitializeConditions`
first on a live Source (`reconcile_status_ops`).  So the lifecycle invariants hold of every
status a Source reaches from the empty status it is created with (`passReachable_tracks`).
-/
import KnativeKinesis.Apis.Lifecycle
import KnativeKinesis.Reconciler.Reconcile

namespace KnativeKinesis

/-! ### The Deployment a Source owns -/

/-- What `getReceiveAdapter` accepts for `src`: a Deployment in its namespace, carrying its
labels, and controlled by it. -/
def ownedBy (src : KinesisSource) (d : Deployment) : Bool :=
  d.ns == src.ns && selectorMatches (getLabels src) d.labels && isControlledBy d src

theorem findReceiveAdapter_eq (src : KinesisSource) (view : Store) :
    findReceiveAdapter src view = view.find? (ownedBy src) := by
  simp only [findReceiveAdapter, listDeployments, List.find?_filter]
  congr 1
  funext d
  simp [ownedBy, Bool.and_assoc, Bool.beq_eq_decide_eq]

/-- The Source's own labels select the Deployments that carry them. -/
theorem selectorMatches_getLabels (src : KinesisSource) :
    selectorMatches (getLabels src) (getLabels src) = true := by
  simp [selectorMatches, getLabels, List.lookup_cons]

/-- The Deployment `createReceiveAdapter` creates is owned by the Source, whatever the server
names it. -/
theorem ownedBy_created (image : String) (src : KinesisSource) (u suffix : String) :
    ownedBy src ((setControllerReference src (makeReceiveAdapter
      ⟨image, src, getLabels src, u⟩)).withGeneratedName suffix) = true := by
  simp [ownedBy, setControllerReference, makeReceiveAdapter, Deployment.withGeneratedName,
    selectorMatches_getLabels, isControlledBy]

/-- Writing a pod spec over a Deployment changes neither who owns it nor its key. -/
@[simp] theorem ownedBy_withPodSpec (src : KinesisSource) (d : Deployment) (p : PodSpec) :
    ownedBy src (d.withPodSpec p) = ownedBy src d := rfl

@[simp] theorem sameKey_withPodSpec (d e : Deployment) (p : PodSpec) :
    (d.withPodSpec p).sameKey e = d.sameKey e := rfl

theorem sameKey_self (d : Deployment) : d.sameKey d = true := by
  simp [Deployment.sameKey]

theorem isControlledBy_of_ownedBy {src : KinesisSource} {d : Deployment}
    (h : ownedBy src d = true) : isControlledBy d src = true := by
  simp only [ownedBy, Bool.and_eq_true] at h
  exact h.2

/-- What `getReceiveAdapter` finds is in the view, and owned by the Source. -/
theorem findReceiveAdapter_some {src : KinesisSource} {view : Store} {d : Deployment}
    (h : findReceiveAdapter src view = some d) : d ∈ view ∧ ownedBy src d = true := by
  rw [findReceiveAdapter_eq] at h
  exact ⟨List.mem_of_find?_eq_some h, List.find?_some h⟩

/-- Where the Source controls at most one Deployment, it owns at most one. -/
theorem eq_of_ownedBy {src : KinesisSource} {s : Store}
    (hone : s.countP (isControlledBy · src) ≤ 1) {d e : Deployment} (hd : d ∈ s)
    (hdo : ownedBy src d = true) (he : e ∈ s) (heo : ownedBy src e = true) : e = d := by
  have hlen : (s.filter (ownedBy src)).length ≤ 1 := by
    rw [← List.countP_eq_length_filter]
    exact (List.countP_mono_left fun x _ hx => isControlledBy_of_ownedBy hx).trans hone
  have hd' : d ∈ s.filter (ownedBy src) := List.mem_filter.mpr ⟨hd, hdo⟩
  have he' : e ∈ s.filter (ownedBy src) := List.mem_filter.mpr ⟨he, heo⟩
  rcases hl : s.filter (ownedBy src) with _ | ⟨x, _ | ⟨y, t⟩⟩ <;> rw [hl] at hlen hd' he'
  · cases hd'
  · rw [List.mem_singleton.mp hd', List.mem_singleton.mp he']
  · simp at hlen

/-- **The lookup does not depend on the listing order** when the Source owns one Deployment
of the store: whatever order `List` enumerates the store in, the lookup finds that one. -/
theorem findReceiveAdapter_perm {src : KinesisSource} {s v : Store} {d : Deployment}
    (hd : d ∈ s) (hown : ownedBy src d = true)
    (honly : ∀ e ∈ s, ownedBy src e = true → e = d) (hv : v.Perm s) :
    findReceiveAdapter src v = some d := by
  rw [findReceiveAdapter_eq]
  rcases hf : v.find? (ownedBy src) with _ | e
  · simpa [hown] using List.find?_eq_none.mp hf d (hv.mem_iff.mpr hd)
  · rw [honly e (hv.mem_iff.mp (List.mem_of_find?_eq_some hf)) (List.find?_some hf)]

/-! ### A successful `createReceiveAdapter` -/

section CreateReceiveAdapter

variable (image : String) (src : KinesisSource) (u : String) (w : Answers) (a : Api)

/-- **The three ways `createReceiveAdapter` succeeds.**  The configuration passed and `List`
answered; then the call reused the Deployment the view lists first, as it was when its pod spec
had not drifted, or with the expected pod spec written over it; or, finding none, it created
the expected Deployment under the Source's control. -/
theorem createReceiveAdapter_ok {d : Deployment} {a' : Api}
    (h : createReceiveAdapter image src u w a = (.ok d, a')) :
    credentialsMissing src.spec = false ∧ w.list = none ∧
      ((findReceiveAdapter src a.view = some d ∧
          podSpecChanged d.spec.template.spec
            (makeReceiveAdapter ⟨image, src, getLabels src, u⟩).spec.template.spec = false ∧
          a' = a.send (.list src.ns (getLabels src))) ∨
        (∃ ra, findReceiveAdapter src a.view = some ra ∧
          podSpecChanged ra.spec.template.spec
            (makeReceiveAdapter ⟨image, src, getLabels src, u⟩).spec.template.spec = true ∧
          d = ra.withPodSpec
            (makeReceiveAdapter ⟨image, src, getLabels src, u⟩).spec.template.spec ∧
          a.store.any d.sameKey = true ∧
          a' = { (a.send (.list src.ns (getLabels src))).send (.update d) with
            store := a.store.map fun e => if d.sameKey e then d else e }) ∨
        (findReceiveAdapter src a.view = none ∧
          d = setControllerReference src (makeReceiveAdapter ⟨image, src, getLabels src, u⟩) ∧
          a.store.any (d.withGeneratedName w.suffix).sameKey = false ∧
          a' = { (a.send (.list src.ns (getLabels src))).send (.create d) with
            store := a.store ++ [d.withGeneratedName w.suffix] })) := by
  simp only [createReceiveAdapter, getReceiveAdapter, Api.send_view] at h
  rcases hl : w.list with _ | msg
  · simp only [hl] at h
    rcases hf : findReceiveAdapter src a.view with _ | ra
    · simp only [hf, notFoundError, if_true, reuseOrCreate] at h
      split at h
      · cases h
      · rename_i hcm
        rcases Api.create_cases (a.send (.list src.ns (getLabels src))) w
          (setControllerReference src (makeReceiveAdapter ⟨image, src, getLabels src, u⟩)) with
          ⟨-, hk, heq⟩ | ⟨e, heq⟩ <;>
          simp only [heq, Prod.mk.injEq, reduceCtorEq, false_and] at h
        obtain ⟨⟨⟩, rfl⟩ := h
        exact ⟨by simpa using hcm, rfl, .inr (.inr ⟨rfl, rfl, by simpa using hk, rfl⟩)⟩
    · simp only [hf, reuseOrCreate] at h
      split at h
      · cases h
      · rename_i hcm
        refine ⟨by simpa using hcm, rfl, ?_⟩
        split at h
        · rename_i hch
          rcases Api.update_cases (a.send (.list src.ns (getLabels src))) w (ra.withPodSpec
              (makeReceiveAdapter ⟨image, src, getLabels src, u⟩).spec.template.spec)
            with ⟨-, hk, heq⟩ | ⟨e, heq⟩ <;>
            simp only [heq, Prod.mk.injEq, reduceCtorEq, false_and] at h
          obtain ⟨⟨⟩, rfl⟩ := h
          exact .inr (.inl ⟨ra, rfl, hch, rfl, by simpa using hk, rfl⟩)
        · rename_i hch
          cases h
          exact .inl ⟨rfl, by simpa using hch, rfl⟩
  · simp [hl] at h

/-- What the store holds after a successful call against a view that lists the store, in any
order, when the Source controlled at most one Deployment there: one Deployment the Source owns,
which the lookup finds however `List` enumerates the store, and whose pod spec `podSpecChanged`
accepts.  Its template is the expected Deployment's when the Source owned none before, and
otherwise it is the one it owned, its pod spec perhaps written over. -/
theorem createReceiveAdapter_found {d : Deployment} {a' : Api} (hsync : a.view.Perm a.store)
    (hone : a.store.countP (isControlledBy · src) ≤ 1)
    (h : createReceiveAdapter image src u w a = (.ok d, a')) :
    ∃ found, (∀ v, v.Perm a'.store → findReceiveAdapter src v = some found) ∧
      podSpecChanged found.spec.template.spec
        (makeReceiveAdapter ⟨image, src, getLabels src, u⟩).spec.template.spec = false ∧
      (((∀ e ∈ a.store, ownedBy src e = false) ∧
          found.spec.template =
            (makeReceiveAdapter ⟨image, src, getLabels src, u⟩).spec.template) ∨
        ∃ ra ∈ a.store, ownedBy src ra = true ∧
          (found = ra ∨ found = ra.withPodSpec
            (makeReceiveAdapter ⟨image, src, getLabels src, u⟩).spec.template.spec)) := by
  rcases createReceiveAdapter_ok image src u w a h with
    ⟨-, -, ⟨hf, hch, rfl⟩ | ⟨ra, hf, -, rfl, -, rfl⟩ | ⟨hf, rfl, -, rfl⟩⟩
  · -- reused as it was: the store is unchanged, and `d` is the one Deployment the Source owns
    obtain ⟨hd, hown⟩ := findReceiveAdapter_some hf
    replace hd := hsync.mem_iff.mp hd
    exact ⟨d, fun v => findReceiveAdapter_perm hd hown fun e he => eq_of_ownedBy hone hd hown he,
      hch, .inr ⟨d, hd, hown, .inl rfl⟩⟩
  · -- updated: the write replaces the one Deployment the Source owned
    obtain ⟨hra, hown⟩ := findReceiveAdapter_some hf
    replace hra := hsync.mem_iff.mp hra
    refine ⟨ra.withPodSpec
      (makeReceiveAdapter ⟨image, src, getLabels src, u⟩).spec.template.spec,
      fun v => findReceiveAdapter_perm (List.mem_map.mpr ⟨ra, hra, by simp [sameKey_self]⟩)
        hown fun e he heo => ?_, podSpecChanged_self _, .inr ⟨ra, hra, hown, .inr rfl⟩⟩
    obtain ⟨e₀, he₀, rfl⟩ := List.mem_map.mp he
    by_cases hk : ra.sameKey e₀
    · simp [hk]
    · simp only [sameKey_withPodSpec, hk, Bool.false_eq_true, if_false] at heo ⊢
      rw [eq_of_ownedBy hone hra hown he₀ heo, sameKey_self] at hk
      cases hk rfl
  · -- created: the Source owned nothing the view lists, so nothing in the store
    have hnone : ∀ e ∈ a.store, ownedBy src e = false := fun e he => by
      rw [findReceiveAdapter_eq] at hf
      simpa using List.find?_eq_none.mp hf e (hsync.mem_iff.mpr he)
    refine ⟨(setControllerReference src
      (makeReceiveAdapter ⟨image, src, getLabels src, u⟩)).withGeneratedName w.suffix,
      fun v => findReceiveAdapter_perm (List.mem_append_right _ (List.mem_singleton_self _))
        (ownedBy_created _ _ _ _) fun e he heo => ?_, podSpecChanged_self _, .inl ⟨hnone, rfl⟩⟩
    rcases List.mem_append.mp he with he | he
    · rw [hnone e he] at heo
      cases heo
    · exact List.mem_singleton.mp he

/-- When the view lists first a Deployment whose pod spec `podSpecChanged` accepts, and the
configuration passes, `createReceiveAdapter` lists and calls nothing else. -/
theorem createReceiveAdapter_of_found {d : Deployment} (hcfg : credentialsMissing src.spec = false)
    (hf : findReceiveAdapter src a.view = some d)
    (hch : podSpecChanged d.spec.template.spec
      (makeReceiveAdapter ⟨image, src, getLabels src, u⟩).spec.template.spec = false) :
    createReceiveAdapter image src u w a =
      ((match w.list with
        | some msg => .error ⟨msg, false⟩
        | none => .ok d), a.send (.list src.ns (getLabels src))) := by
  simp only [createReceiveAdapter, getReceiveAdapter, Api.send_view]
  cases w.list <;> simp [hf, reuseOrCreate, hcfg, hch]

/-- `createReceiveAdapter` reads the Source's name, namespace, UID and spec only. -/
@[simp] theorem createReceiveAdapter_withStatus (f) :
    createReceiveAdapter image (src.withStatus f) = createReceiveAdapter image src := rfl

@[simp] theorem createReceiveAdapter_addFinalizer :
    createReceiveAdapter image (addFinalizer src) = createReceiveAdapter image src := rfl

end CreateReceiveAdapter

/-! ### The status a successful pass leaves -/

namespace KinesisSourceStatus

/-- The condition `MarkTrue` stores. -/
abbrev trueCondition : Condition := { status := .true }

/-- The condition `MarkSink` stores for an empty URI. -/
abbrev sinkEmpty : Condition := ⟨.unknown, "SinkEmpty", "Sink has resolved to empty."⟩

/-- The conditions a pass that resolves the sink to `u` and deploys settles on. -/
def settled (u : String) : Conditions :=
  if u = "" then ⟨some sinkEmpty, some sinkEmpty, some trueCondition⟩
  else ⟨some trueCondition, some trueCondition, some trueCondition⟩

theorem markSink_sinkProvided (st : KinesisSourceStatus) {u : String} (hu : u ≠ "") :
    (st.markSink u).conditions.sinkProvided = some trueCondition := by
  simp only [markSink, gt_iff_lt, length_pos_iff_ne_empty, hu, ne_eq, not_false_eq_true, if_true,
    ConditionSet.markTrue]
  split <;> rfl

theorem markSink_empty (st : KinesisSourceStatus) (h : isFalse st.conditions.deployed = false) :
    (st.markSink "").conditions = ⟨some sinkEmpty, some sinkEmpty, st.conditions.deployed⟩ := by
  obtain ⟨⟨r, s, d⟩, uri⟩ := st
  simp [markSink, ConditionSet.markUnknown, Conditions.set, Conditions.get, h]

theorem markDeployed_of_sink_true (st : KinesisSourceStatus)
    (h : st.conditions.sinkProvided = some trueCondition) :
    st.markDeployed =
      ⟨⟨some trueCondition, some trueCondition, some trueCondition⟩, st.sinkURI⟩ := by
  obtain ⟨⟨r, s, d⟩, uri⟩ := st
  subst h
  simp [markDeployed, ConditionSet.markTrue, Conditions.set, Conditions.get]

theorem markDeployed_of_sink_empty (st : KinesisSourceStatus)
    (h : st.conditions.sinkProvided = some sinkEmpty) :
    st.markDeployed = ⟨{ st.conditions with deployed := some trueCondition }, st.sinkURI⟩ := by
  obtain ⟨⟨r, s, d⟩, uri⟩ := st
  subst h
  simp [markDeployed, ConditionSet.markTrue, Conditions.set, Conditions.get]

theorem isFalse_initializeConditions_deployed (st : KinesisSourceStatus) :
    isFalse st.initializeConditions.conditions.deployed = isFalse st.conditions.deployed := by
  obtain ⟨⟨r, s, d⟩, uri⟩ := st
  cases r <;> cases s <;> cases d <;> rfl

/-- A pass that resolves the sink to `u` and deploys settles the conditions, unless the URI is
empty and `Deployed` was False: then `Ready` may keep a stale False. -/
theorem deployed_status (st : KinesisSourceStatus) (u : String)
    (h : u ≠ "" ∨ isFalse st.conditions.deployed = false) :
    (st.initializeConditions.markSink u).markDeployed = ⟨settled u, u⟩ := by
  by_cases hu : u = ""
  · subst hu
    have hd : isFalse st.initializeConditions.conditions.deployed = false := by
      rw [isFalse_initializeConditions_deployed]
      simpa using h
    rw [markDeployed_of_sink_empty _ (by rw [markSink_empty _ hd])]
    simp [settled, markSink_empty _ hd]
  · rw [markDeployed_of_sink_true _ (markSink_sinkProvided _ hu)]
    simp [settled, hu]

/-- Settled conditions survive a pass that stops after the sink. -/
theorem settled_markSink (u : String) :
    (⟨settled u, u⟩ : KinesisSourceStatus).initializeConditions.markSink u =
      ⟨settled u, u⟩ := by
  by_cases hu : u = ""
  · subst hu
    decide
  · simp [settled, hu, initializeConditions, ConditionSet.initializeConditions, markSink,
      ConditionSet.markTrue, Conditions.get, Conditions.set]

/-- Settled conditions are already deployed. -/
theorem settled_markDeployed (u : String) :
    (⟨settled u, u⟩ : KinesisSourceStatus).markDeployed = ⟨settled u, u⟩ := by
  by_cases hu : u = ""
  · subst hu
    decide
  · rw [markDeployed_of_sink_true _ (by simp [settled, hu])]
    simp [settled, hu]

end KinesisSourceStatus

/-! ### One pass, then another -/

section Passes

variable (r : Reconciler) (src : KinesisSource) (w : Answers) (a : Api) (u : String)

/-- A pass over a live Source whose sink resolved to `u`, after the sink lookup: the status
records the sink, and `MarkDeployed` follows a successful `createReceiveAdapter`. -/
theorem reconcile_live (hlive : src.deletionTimestamp = none) (hsink : w.sinkURI = .ok u) :
    r.reconcile src w a =
      match createReceiveAdapter r.receiveAdapterImage src u w (a.send .getSinkURI) with
      | (.error e, a') =>
        ⟨(addFinalizer src).withStatus fun st => st.initializeConditions.markSink u, a', some e⟩
      | (.ok _, a') =>
        ⟨(addFinalizer src).withStatus fun st =>
          (st.initializeConditions.markSink u).markDeployed, a', none⟩ := by
  simp only [Reconciler.reconcile, hlive, hsink]
  rfl

/-- A live pass that resolved the sink to `u` and returned no error went through a successful
`createReceiveAdapter`, and left the Source deployed. -/
theorem reconcile_ok (hlive : src.deletionTimestamp = none) (hsink : w.sinkURI = .ok u)
    (hok : (r.reconcile src w a).err = none) :
    (∃ d, createReceiveAdapter r.receiveAdapterImage src u w (a.send .getSinkURI) =
        (.ok d, (r.reconcile src w a).api)) ∧
      (r.reconcile src w a).src =
        (addFinalizer src).withStatus fun st =>
          (st.initializeConditions.markSink u).markDeployed := by
  rw [reconcile_live r src w a u hlive hsink] at hok ⊢
  rcases hc : createReceiveAdapter r.receiveAdapterImage src u w (a.send .getSinkURI) with
    ⟨_ | d, a'⟩
  · rw [hc] at hok
    cases hok
  · exact ⟨⟨d, rfl⟩, rfl⟩

/-- **The Deployment a successful pass leaves.**  Let the pass read a view that lists the store
in any order, in a store where the Source controls at most one Deployment.  If it returns no
error, the store it leaves holds one Deployment the Source owns, which the lookup
`getReceiveAdapter` makes afterwards finds however `List` enumerates the store.  Its pod spec
agrees with the builder's on everything the builder sets, with the same env lists.  Its template
is the builder's when the Source owned no Deployment before; otherwise it is the Deployment it
owned, its pod spec perhaps written over, and its annotations and labels are that one's. -/
theorem reconcile_adapter_matches (hlive : src.deletionTimestamp = none)
    (hsink : w.sinkURI = .ok u) (hsync : a.view.Perm a.store)
    (hone : a.store.countP (isControlledBy · src) ≤ 1)
    (hok : (r.reconcile src w a).err = none) :
    ∃ d, (∀ v, v.Perm (r.reconcile src w a).api.store → findReceiveAdapter src v = some d) ∧
      (makeReceiveAdapter
          ⟨r.receiveAdapterImage, src, getLabels src, u⟩).spec.template.spec.derive
          d.spec.template.spec = true ∧
      (makeReceiveAdapter
          ⟨r.receiveAdapterImage, src, getLabels src, u⟩).spec.template.spec.containers.map
          (·.env) = d.spec.template.spec.containers.map (·.env) ∧
      (((∀ e ∈ a.store, ownedBy src e = false) ∧
          d.spec.template = (makeReceiveAdapter
            ⟨r.receiveAdapterImage, src, getLabels src, u⟩).spec.template) ∨
        ∃ ra ∈ a.store, ownedBy src ra = true ∧
          (d = ra ∨
            d = ra.withPodSpec
              (makeReceiveAdapter
                ⟨r.receiveAdapterImage, src, getLabels src, u⟩).spec.template.spec)) := by
  obtain ⟨⟨d, hc⟩, -⟩ := reconcile_ok r src w a u hlive hsink hok
  obtain ⟨found, hf, hch, horigin⟩ :=
    createReceiveAdapter_found _ _ _ _ (a.send .getSinkURI) hsync hone hc
  rw [podSpecChanged_eq_false] at hch
  exact ⟨found, hf, hch.1, hch.2, horigin⟩

/-- A Source in the KIAM mode, its pod's role since changed to `"new-role"`. -/
def kiamSource : KinesisSource where
  name := "source-name"
  ns := "source-namespace"
  uid := "1234-5678-90"
  spec :=
    { streamName := "kinesis-name", region := "us-west-2"
      kiamOptions := { assignedIamRole := "new-role", kclIamRoleArn := "kiam-role-arn" } }

/-- The sink URI of the reconciler's tests. -/
def testSinkURI : String := "http://addressable.sink.svc.cluster.local/"

/-- The reconciler of the tests. -/
def testReconciler : Reconciler := ⟨"test-image"⟩

/-- The sink resolves, and every call succeeds. -/
def testAnswers : Answers := { sinkURI := .ok testSinkURI }

/-- The Deployment the builder makes for `kiamSource` now. -/
def kiamAdapter : Deployment :=
  makeReceiveAdapter
    ⟨testReconciler.receiveAdapterImage, kiamSource, getLabels kiamSource, testSinkURI⟩

/-- The Deployment an earlier pass created for the Source under its old role. -/
def oldRoleAdapter : Deployment :=
  (setControllerReference kiamSource (makeReceiveAdapter ⟨testReconciler.receiveAdapterImage,
    { kiamSource with spec.kiamOptions.assignedIamRole := "old-role" }, getLabels kiamSource,
    testSinkURI⟩)).withGeneratedName "abcde"

/-- A synced view of a store that holds the old-role Deployment. -/
def oldRoleApi : Api := ⟨[oldRoleAdapter], [oldRoleAdapter], []⟩

/-- A pass over the Source against that store. -/
def oldRolePass : Pass := testReconciler.reconcile kiamSource testAnswers oldRoleApi

/-- The pass returns no error, and the lookup afterwards finds the Deployment with the old
role's annotation, where the builder writes the new role. -/
theorem reused_adapter_keeps_old_role :
    oldRolePass.err = none ∧
      findReceiveAdapter kiamSource oldRolePass.api.store = some oldRoleAdapter ∧
      oldRoleAdapter.spec.template.annotations.lookup "iam.amazonaws.com/role" = some "old-role" ∧
      kiamAdapter.spec.template.annotations.lookup "iam.amazonaws.com/role" = some "new-role" := by
  decide

/-- The same pass meets every hypothesis of `reconcile_adapter_matches`. -/
theorem old_role_pass_matches_pod :
    kiamSource.deletionTimestamp = none ∧ testAnswers.sinkURI = .ok testSinkURI ∧
      oldRoleApi.view.Perm oldRoleApi.store ∧
      oldRoleApi.store.countP (isControlledBy · kiamSource) ≤ 1 ∧ oldRolePass.err = none ∧
      ∃ d, (∀ v, v.Perm oldRolePass.api.store → findReceiveAdapter kiamSource v = some d) ∧
        kiamAdapter.spec.template.spec.derive d.spec.template.spec = true ∧
        kiamAdapter.spec.template.spec.containers.map (·.env) =
          d.spec.template.spec.containers.map (·.env) ∧
        (((∀ e ∈ oldRoleApi.store, ownedBy kiamSource e = false) ∧
            d.spec.template = kiamAdapter.spec.template) ∨
          ∃ ra ∈ oldRoleApi.store, ownedBy kiamSource ra = true ∧
            (d = ra ∨ d = ra.withPodSpec kiamAdapter.spec.template.spec)) :=
  ⟨rfl, rfl, .refl _, by decide, by decide, reconcile_adapter_matches testReconciler kiamSource
    testAnswers oldRoleApi testSinkURI rfl rfl (.refl _) (by decide) (by decide)⟩

/-- **A second pass changes nothing.**  After a pass that read a view listing the store in any
order, where the Source controlled at most one Deployment, and that returned no error: a pass
over the Source it left, reading a view that lists the store it left in any order and with the
sink resolving to the same URI, sends only the sink lookup and the `List`, leaves the store, and
succeeds unless `List` fails.  It keeps the finalizers and the sink URI, and the whole Source
too, unless the URI is empty and `Deployed` was False before the first pass. -/
theorem reconcile_twice (w' : Answers) (a' : Api) (hlive : src.deletionTimestamp = none)
    (hsink : w.sinkURI = .ok u) (hsync : a.view.Perm a.store)
    (hone : a.store.countP (isControlledBy · src) ≤ 1)
    (hok : (r.reconcile src w a).err = none) (hsink' : w'.sinkURI = .ok u)
    (hview : a'.view.Perm (r.reconcile src w a).api.store) :
    (r.reconcile (r.reconcile src w a).src w' a').api.store = a'.store ∧
      (r.reconcile (r.reconcile src w a).src w' a').api.calls =
        a'.calls ++ [.getSinkURI, .list src.ns (getLabels src)] ∧
      (w'.list = none → (r.reconcile (r.reconcile src w a).src w' a').err = none) ∧
      (r.reconcile (r.reconcile src w a).src w' a').src.finalizers =
        (r.reconcile src w a).src.finalizers ∧
      (r.reconcile (r.reconcile src w a).src w' a').src.status.sinkURI = u ∧
      (u ≠ "" ∨ isFalse src.status.conditions.deployed = false →
        (r.reconcile (r.reconcile src w a).src w' a').src = (r.reconcile src w a).src) := by
  obtain ⟨⟨d, hc⟩, hsrc⟩ := reconcile_ok r src w a u hlive hsink hok
  obtain ⟨hcfg, -, -⟩ := createReceiveAdapter_ok _ _ _ _ _ hc
  obtain ⟨found, hf, hch, -⟩ :=
    createReceiveAdapter_found _ _ _ _ (a.send .getSinkURI) hsync hone hc
  rw [hsrc, reconcile_live r _ w' a' u (by simpa using hlive) hsink',
    createReceiveAdapter_withStatus, createReceiveAdapter_addFinalizer,
    createReceiveAdapter_of_found _ _ _ _ (a'.send .getSinkURI) hcfg (hf _ hview) hch]
  have hsettled (h : u ≠ "" ∨ isFalse src.status.conditions.deployed = false) :
      (src.status.initializeConditions.markSink u).markDeployed =
        ⟨KinesisSourceStatus.settled u, u⟩ :=
    KinesisSourceStatus.deployed_status _ u h
  cases w'.list <;>
    simp +contextual [hsettled, KinesisSourceStatus.settled_markSink,
      KinesisSourceStatus.settled_markDeployed]

/-- An empty store, and a view of it. -/
def emptyApi : Api := ⟨[], [], []⟩

/-- A first pass over `kiamSource` with an empty store. -/
def firstPass : Pass := testReconciler.reconcile kiamSource testAnswers emptyApi

/-- A synced view of the store the first pass left. -/
def secondApi : Api := ⟨firstPass.api.store, firstPass.api.store, []⟩

/-- The second pass, with the same answers. -/
def secondPass : Pass := testReconciler.reconcile firstPass.src testAnswers secondApi

/-- Two passes over `kiamSource` from an empty store meet every hypothesis of
`reconcile_twice`. -/
theorem second_pass_is_quiet :
    kiamSource.deletionTimestamp = none ∧ testAnswers.sinkURI = .ok testSinkURI ∧
      emptyApi.view.Perm emptyApi.store ∧
      emptyApi.store.countP (isControlledBy · kiamSource) ≤ 1 ∧ firstPass.err = none ∧
      secondApi.view.Perm firstPass.api.store ∧
      secondPass.api.store = secondApi.store ∧
      secondPass.api.calls =
        secondApi.calls ++ [.getSinkURI, .list kiamSource.ns (getLabels kiamSource)] ∧
      (testAnswers.list = none → secondPass.err = none) ∧
      secondPass.src.finalizers = firstPass.src.finalizers ∧
      secondPass.src.status.sinkURI = testSinkURI ∧
      (testSinkURI ≠ "" ∨ isFalse kiamSource.status.conditions.deployed = false →
        secondPass.src = firstPass.src) :=
  ⟨rfl, rfl, .nil, Nat.zero_le _, by decide, .refl _, reconcile_twice testReconciler kiamSource
    testAnswers emptyApi testSinkURI testAnswers secondApi rfl rfl .nil (Nat.zero_le _)
    (by decide) rfl (.refl _)⟩

/-- The Source with its `Deployed` condition left False by an earlier pass. -/
def notDeployedSource : KinesisSource :=
  { kiamSource with status := { conditions := { deployed := some ⟨.false, "", ""⟩ } } }

/-- A pass over it, the sink resolving to the empty string, with an empty store. -/
def emptySinkPass : Pass :=
  testReconciler.reconcile notDeployedSource { sinkURI := .ok "" } emptyApi

/-- The first pass returns no error and leaves `Ready` False; the second, over the same store
and sink, turns it Unknown. -/
theorem second_pass_clears_stale_ready :
    emptySinkPass.err = none ∧
      emptySinkPass.src.status.conditions.ready =
        some ⟨.false, "SinkEmpty", "Sink has resolved to empty."⟩ ∧
      (testReconciler.reconcile emptySinkPass.src { sinkURI := .ok "" }
          ⟨emptySinkPass.api.store, emptySinkPass.api.store, []⟩).src.status.conditions.ready =
        some ⟨.unknown, "SinkEmpty", "Sink has resolved to empty."⟩ := by
  decide

end Passes

/-! ### Readiness over runs of passes -/

/-- A pass applies no status operation to a Source being deleted, and otherwise a sequence of
them that starts with `InitializeConditions`. -/
theorem reconcile_status_ops (r : Reconciler) (src : KinesisSource) (w : Answers) (a : Api) :
    (r.reconcile src w a).src.status = src.status ∨
      ∃ ops, (r.reconcile src w a).src.status =
        applyAll (.initializeConditions :: ops) src.status := by
  rcases hdel : src.deletionTimestamp with _ | t
  · right
    rcases hsink : w.sinkURI with e | u
    · exact ⟨[.markNoSink "NotFound" ""], by simp [Reconciler.reconcile, hdel, hsink]; rfl⟩
    · rw [reconcile_live r src w a u hdel hsink]
      split
      · exact ⟨[.markSink u], rfl⟩
      · exact ⟨[.markSink u, .markDeployed], rfl⟩
  · exact .inl (by rw [reconcile_of_deleted r src w a (by simp [hdel])]; rfl)

/-- Statuses a Source reaches by `Reconcile` passes from the empty status it is created with,
whatever answers and store each pass sees and whatever else happens to the Source in between. -/
inductive PassReachable (r : Reconciler) : KinesisSourceStatus → Prop
  | empty : PassReachable r {}
  | pass {src : KinesisSource} (w : Answers) (a : Api) (h : PassReachable r src.status) :
      PassReachable r (r.reconcile src w a).src.status

/-- **Readiness over runs of passes.**  Every status a Source reaches by passes is still empty,
or has every condition set, `Ready` True exactly when `SinkProvided` and `Deployed` are, and
`Ready` False whenever either of them is False. -/
theorem passReachable_tracks {r : Reconciler} {st : KinesisSourceStatus} (h : PassReachable r st) :
    st = {} ∨ st.conditions.readiness.Tracks := by
  induction h with
  | empty => exact .inl rfl
  | @pass src w a _ ih =>
    rcases reconcile_status_ops r src w a with hs | ⟨ops, hs⟩
    · rwa [hs]
    · right
      rw [hs, readiness_applyAll, List.foldl_cons]
      refine foldl_move Readiness.tracks_move ops ?_
      rcases ih with h0 | ht
      · rw [h0]
        decide
      · exact Readiness.tracks_move _ (StatusOp.move_mem _) _ ht

/-! ### `Ready` after one pass -/

namespace Readiness

/-- A failed sink lookup leaves `Ready` False. -/
theorem ready_after_noSink (s : Readiness) :
    ((Move.mark .sinkProvided .false).step (Move.init.step s)).ready = some .false := by
  revert s
  decide

/-- After a sink lookup with no adapter deployed, `Ready` is True exactly when the sink is
non-empty and `Deployed` was True before, on a status that is empty or keeps the lifecycle
invariant. -/
theorem ready_after_markSink : ∀ v ∈ [ConditionStatus.true, .unknown], ∀ s : Readiness,
    s = ⟨none, none, none⟩ ∨ s.Tracks →
      (((Move.mark .sinkProvided v).step (Move.init.step s)).ready = some .true ↔
        v = .true ∧ s.deployed = some .true) := by
  decide

/-- After a sink lookup and a deployed adapter, `Ready` is True exactly when the sink is
non-empty. -/
theorem ready_after_markDeployed : ∀ v ∈ [ConditionStatus.true, .unknown], ∀ s : Readiness,
    ((Move.mark .deployed .true).step ((Move.mark .sinkProvided v).step
      (Move.init.step s))).ready = some .true ↔ v = .true := by
  decide

end Readiness

theorem KinesisSourceStatus.isReady_eq (st : KinesisSourceStatus) :
    st.isReady = (st.conditions.readiness.ready == some .true) := by
  rw [KinesisSourceStatus.isReady, ConditionSet.isHappy_eq, condSet_happy]
  rfl

/-- **`Ready` after a pass.**  For a live Source whose status came from passes, a pass leaves
`Ready` True exactly when the sink resolved to a non-empty URI, and the pass succeeded or
`Deployed` was True before it.  So a pass that fails to create or update the adapter leaves a
deployed Source Ready: the controller never marks it not deployed. -/
theorem isReady_after_pass {r : Reconciler} {src : KinesisSource} (w : Answers) (a : Api)
    (hreach : PassReachable r src.status) (hlive : src.deletionTimestamp = none) :
    (r.reconcile src w a).src.status.isReady = true ↔
      (∃ u, w.sinkURI = .ok u ∧ u ≠ "") ∧
        ((r.reconcile src w a).err = none ∨ isTrue (src.status.getCondition .deployed) = true) := by
  have hs : src.status.conditions.readiness = ⟨none, none, none⟩ ∨
      src.status.conditions.readiness.Tracks :=
    (passReachable_tracks hreach).imp (fun h => by rw [h]; rfl) id
  have hdep : isTrue (src.status.getCondition .deployed) = true ↔
      src.status.conditions.readiness.deployed = some .true := by
    simp [KinesisSourceStatus.getCondition, isTrue_eq, Conditions.readiness, Conditions.get]
  rw [hdep]
  rcases hsink : w.sinkURI with e | u
  · simp only [Reconciler.reconcile, hlive, hsink, KinesisSource.withStatus_status,
      addFinalizer_status, KinesisSourceStatus.isReady_eq,
      KinesisSourceStatus.readiness_markNoSink, KinesisSourceStatus.readiness_initializeConditions,
      Readiness.ready_after_noSink]
    simp
  · have hv : (if u.length > 0 then ConditionStatus.true else .unknown) ∈
        [ConditionStatus.true, .unknown] := by split <;> simp
    have hu : (if u.length > 0 then ConditionStatus.true else .unknown) = .true ↔ u ≠ "" := by
      split <;> simp_all
    rw [reconcile_live r src w a u hlive hsink]
    split
    · simp only [KinesisSource.withStatus_status, addFinalizer_status,
        KinesisSourceStatus.isReady_eq, KinesisSourceStatus.readiness_markSink,
        KinesisSourceStatus.readiness_initializeConditions]
      simpa [hu] using Readiness.ready_after_markSink _ hv _ hs
    · simp only [KinesisSource.withStatus_status, addFinalizer_status,
        KinesisSourceStatus.isReady_eq, KinesisSourceStatus.readiness_markDeployed,
        KinesisSourceStatus.readiness_markSink, KinesisSourceStatus.readiness_initializeConditions]
      simpa [hu] using Readiness.ready_after_markDeployed _ hv src.status.conditions.readiness

theorem first_pass_ready_iff :
    PassReachable testReconciler kiamSource.status ∧ kiamSource.deletionTimestamp = none ∧
      ((testReconciler.reconcile kiamSource testAnswers emptyApi).src.status.isReady = true ↔
        (∃ u, testAnswers.sinkURI = .ok u ∧ u ≠ "") ∧
          ((testReconciler.reconcile kiamSource testAnswers emptyApi).err = none ∨
            isTrue (kiamSource.status.getCondition .deployed) = true)) :=
  ⟨.empty, rfl, isReady_after_pass testAnswers emptyApi .empty rfl⟩

end KnativeKinesis
