/-
The informer cache, and how many receive adapters a Source can end up with.

`getReceiveAdapter` lists Deployments from the controller's informer cache, which applies the
server's writes some time after they happen, in the order they happen, and which `List`
enumerates in an order of its own.  A `Cluster` is the server's store, that view, and the
stores the view has yet to go through.  A step is a whole `Reconcile` pass for the Source
(passes do not overlap), the view applying the oldest write it has not applied, or the view
listed in another order.

On every run the server keeps names unique in a namespace, and every Deployment the Source
controls stays in its namespace with its labels.  A pass that reads a view lagging behind a
`Create` finds no Deployment and creates a second one under a fresh generated name
(`stale_view_duplicates_adapter`).  When every pass reads a view that has caught up, in
whatever order, the lookup sees every Deployment the Source controls, and the store never holds
two (`synced_runs_single_adapter`).
-/
import KnativeKinesis.Reconciler.Converge

namespace KnativeKinesis

/-! ### What a pass writes -/

section Writes

variable (image : String) (src : KinesisSource) (u : String) (w : Answers) (a : Api)

/-- A failed `createReceiveAdapter` leaves the store as it was. -/
theorem createReceiveAdapter_error_store {e : Error} {a' : Api}
    (h : createReceiveAdapter image src u w a = (.error e, a')) : a'.store = a.store := by
  simp only [createReceiveAdapter, getReceiveAdapter, Api.send_view] at h
  rcases hl : w.list with _ | msg
  · simp only [hl] at h
    rcases hf : findReceiveAdapter src a.view with _ | ra <;>
      simp only [hf, notFoundError, if_true, reuseOrCreate] at h <;> split at h
    · cases h
      rfl
    · rcases Api.create_cases (a.send (.list src.ns (getLabels src))) w
        (setControllerReference src (makeReceiveAdapter ⟨image, src, getLabels src, u⟩)) with
        ⟨-, -, heq⟩ | ⟨e', heq⟩ <;>
        simp only [heq, Prod.mk.injEq, reduceCtorEq, false_and] at h
      obtain ⟨-, rfl⟩ := h
      rfl
    · cases h
      rfl
    · split at h
      · rcases Api.update_cases (a.send (.list src.ns (getLabels src))) w (ra.withPodSpec
            (makeReceiveAdapter ⟨image, src, getLabels src, u⟩).spec.template.spec)
          with ⟨-, -, heq⟩ | ⟨e', heq⟩ <;>
          simp only [heq, Prod.mk.injEq, reduceCtorEq, false_and] at h
        obtain ⟨-, rfl⟩ := h
        rfl
      · cases h
  · simp only [hl, Bool.false_eq_true, if_false, Prod.mk.injEq] at h
    rw [← h.2]
    rfl

end Writes

/-- **What a pass writes.**  A pass leaves the store as it was; or it updates, under its key,
the Deployment the view lists first for the Source, writing a pod spec over it; or, the view
listing none, it creates a Deployment the Source owns under a name the store does not hold. -/
theorem reconcile_store (r : Reconciler) (src : KinesisSource) (w : Answers) (a : Api) :
    (r.reconcile src w a).api.store = a.store ∨
      (∃ ra p, findReceiveAdapter src a.view = some ra ∧ a.store.any ra.sameKey = true ∧
        (r.reconcile src w a).api.store =
          a.store.map fun e => if ra.sameKey e then ra.withPodSpec p else e) ∨
      (findReceiveAdapter src a.view = none ∧ ∃ d, ownedBy src d = true ∧
        a.store.any d.sameKey = false ∧ (r.reconcile src w a).api.store = a.store ++ [d]) := by
  rcases hdel : src.deletionTimestamp with _ | t
  · rcases hsink : w.sinkURI with e | u
    · left
      simp [Reconciler.reconcile, hdel, hsink]
    rw [reconcile_live r src w a u hdel hsink]
    rcases hc : createReceiveAdapter r.receiveAdapterImage src u w (a.send .getSinkURI) with
      ⟨_ | d, a'⟩
    · exact .inl (createReceiveAdapter_error_store _ _ _ _ (a.send .getSinkURI) hc)
    rcases createReceiveAdapter_ok _ _ _ _ _ hc with
      ⟨-, -, ⟨-, -, rfl⟩ | ⟨ra, hf, -, rfl, hk, rfl⟩ | ⟨hf, rfl, hk, rfl⟩⟩
    · exact .inl rfl
    · exact .inr (.inl ⟨ra,
        (makeReceiveAdapter ⟨r.receiveAdapterImage, src, getLabels src, u⟩).spec.template.spec,
        hf, by simpa using hk, by simp⟩)
    · exact .inr (.inr ⟨hf, _, ownedBy_created _ _ _ _, hk, rfl⟩)
  · exact .inl (by rw [reconcile_of_deleted r src w a (by simp [hdel])])

/-! ### One Source, whatever its spec and status -/

/-- `src'` is the object `src` is: same namespace, name and UID, whatever its spec, finalizers
and status are now. -/
def SameSource (src' src : KinesisSource) : Prop :=
  src'.ns = src.ns ∧ src'.name = src.name ∧ src'.uid = src.uid

theorem isControlledBy_of_sameSource {src' src : KinesisSource} (h : SameSource src' src)
    (d : Deployment) : isControlledBy d src' = isControlledBy d src := by
  simp [isControlledBy, h.2.2]

theorem ownedBy_of_sameSource {src' src : KinesisSource} (h : SameSource src' src) :
    ownedBy src' = ownedBy src := by
  funext d
  simp [ownedBy, getLabels, isControlledBy_of_sameSource h, h.1, h.2.1]

theorem findReceiveAdapter_of_sameSource {src' src : KinesisSource} (h : SameSource src' src) :
    findReceiveAdapter src' = findReceiveAdapter src := by
  funext view
  simp [findReceiveAdapter_eq, ownedBy_of_sameSource h]

/-! ### Stores the Source keeps one adapter in -/

theorem sameKey_comm (d e : Deployment) : d.sameKey e = e.sameKey d := by
  simp [Deployment.sameKey, Bool.beq_eq_decide_eq, eq_comm]

/-- Whether two Deployments share a key depends on their namespaces and names only. -/
theorem sameKey_of_key {d d' e e' : Deployment} (hd : d'.ns = d.ns ∧ d'.name = d.name)
    (he : e'.ns = e.ns ∧ e'.name = e.name) : d'.sameKey e' = d.sameKey e := by
  simp [Deployment.sameKey, hd.1, hd.2, he.1, he.2]

/-- Writing a Deployment over the entries under its key keeps every entry's key. -/
theorem key_replace (ra : Deployment) (p : PodSpec) (e : Deployment) :
    (if ra.sameKey e then ra.withPodSpec p else e).ns = e.ns ∧
      (if ra.sameKey e then ra.withPodSpec p else e).name = e.name := by
  split <;> simp_all [Deployment.sameKey, Deployment.withPodSpec]

/-- A store the Source can keep one receive adapter in. -/
structure Adopted (src : KinesisSource) (s : Store) : Prop where
  /-- The server holds one Deployment per namespace and name. -/
  keysUnique : s.Pairwise fun d e => d.sameKey e = false
  /-- `getReceiveAdapter` can list every Deployment the Source controls. -/
  controlledListed : ∀ d ∈ s, isControlledBy d src = true → ownedBy src d = true
  /-- The Source controls at most one Deployment. -/
  atMostOne : s.countP (isControlledBy · src) ≤ 1

section PassInvariants

variable (r : Reconciler) {src' src : KinesisSource} (w : Answers) (a : Api)

/-- Every pass keeps names unique. -/
theorem keysUnique_reconcile (h : a.store.Pairwise fun d e => d.sameKey e = false) :
    (r.reconcile src' w a).api.store.Pairwise fun d e => d.sameKey e = false := by
  rcases reconcile_store r src' w a with hs | ⟨ra, p, -, -, hs⟩ | ⟨-, d, -, hk, hs⟩ <;>
    rw [hs]
  · exact h
  · rw [List.pairwise_map]
    exact h.imp fun {x y} hxy => by rwa [sameKey_of_key (key_replace ra p x) (key_replace ra p y)]
  · refine List.pairwise_append.mpr ⟨h, List.pairwise_singleton _ _, fun x hx y hy => ?_⟩
    rw [List.mem_singleton.mp hy, sameKey_comm]
    simpa using List.any_eq_false.mp hk x hx

/-- Every pass for the Source keeps each Deployment it controls where the lookup lists it. -/
theorem controlledListed_reconcile (hid : SameSource src' src)
    (h : ∀ d ∈ a.store, isControlledBy d src = true → ownedBy src d = true) :
    ∀ d ∈ (r.reconcile src' w a).api.store,
      isControlledBy d src = true → ownedBy src d = true := by
  rcases reconcile_store r src' w a with hs | ⟨ra, p, hf, -, hs⟩ | ⟨-, d, hd, -, hs⟩ <;>
    rw [hs] <;> intro x hx hc
  · exact h x hx hc
  · obtain ⟨e, he, rfl⟩ := List.mem_map.mp hx
    by_cases hk : ra.sameKey e
    · rw [findReceiveAdapter_of_sameSource hid, findReceiveAdapter_eq] at hf
      simpa [hk] using List.find?_some hf
    · simp only [hk, Bool.false_eq_true, if_false] at hc ⊢
      exact h e he hc
  · rcases List.mem_append.mp hx with hx | hx
    · exact h x hx hc
    · rw [List.mem_singleton.mp hx, ← ownedBy_of_sameSource hid]
      exact hd

/-- A pass for the Source that reads a view listing the store, in any order, keeps it to one
Deployment. -/
theorem adopted_reconcile (hid : SameSource src' src) (hsync : a.view.Perm a.store)
    (h : Adopted src a.store) : Adopted src (r.reconcile src' w a).api.store := by
  refine ⟨keysUnique_reconcile r w a h.keysUnique,
    controlledListed_reconcile r w a hid h.controlledListed, ?_⟩
  rcases reconcile_store r src' w a with hs | ⟨ra, p, hf, -, hs⟩ | ⟨hf, d, -, -, hs⟩ <;>
    rw [hs]
  · exact h.atMostOne
  · rw [findReceiveAdapter_of_sameSource hid] at hf
    have hra : ra ∈ a.store := hsync.mem_iff.mp (findReceiveAdapter_some hf).1
    rw [List.countP_map]
    refine le_of_eq_of_le (List.countP_congr fun e he => ?_) h.atMostOne
    by_cases hk : ra.sameKey e
    · have hre : ra = e := by
        by_contra hne
        have := h.keysUnique.forall (fun x y hxy => by rwa [sameKey_comm]) hra he hne
        simp [hk] at this
      subst hre
      simp [hk, isControlledBy, Deployment.withPodSpec]
    · simp [hk]
  · rw [findReceiveAdapter_of_sameSource hid, findReceiveAdapter_eq] at hf
    have h0 : a.store.countP (isControlledBy · src) = 0 :=
      List.countP_eq_zero.mpr fun x hx hc => absurd (h.controlledListed x hx hc)
        (by simpa using List.find?_eq_none.mp hf x (hsync.mem_iff.mpr hx))
    rw [List.countP_append, h0, Nat.zero_add]
    exact (List.countP_le_length _).trans (by simp)

end PassInvariants

/-! ### Runs with an informer cache -/

/-- The API server's store, the informer's view of it, and the stores the view has yet to go
through, oldest first. -/
structure Cluster where
  store : Store
  view : Store
  pending : List Store
  deriving DecidableEq, Repr

namespace Cluster

/-- One `Reconcile` pass for `src`: `List` reads the view, the writes go to the store, and the
view has yet to apply the store they leave. -/
def pass (r : Reconciler) (src : KinesisSource) (w : Answers) (c : Cluster) : Cluster :=
  let s := (r.reconcile src w ⟨c.view, c.store, []⟩).api.store
  ⟨s, c.view, c.pending ++ [s]⟩

/-- The view applies the oldest write it has not applied. -/
def catchUp (c : Cluster) : Cluster :=
  match c.pending with
  | [] => c
  | s :: rest => ⟨c.store, s, rest⟩

@[simp] theorem catchUp_store (c : Cluster) : c.catchUp.store = c.store := by
  unfold catchUp
  split <;> rfl

/-- `List` enumerates the cache in another order: the view becomes `v`, when `v` lists the
same Deployments. -/
def relist (v : Store) (c : Cluster) : Cluster :=
  if v.Perm c.view then ⟨c.store, v, c.pending⟩ else c

@[simp] theorem relist_store (v : Store) (c : Cluster) : (c.relist v).store = c.store := by
  unfold relist
  split <;> rfl

/-- The store is what the view becomes once it has applied every pending write, up to the
order it is listed in. -/
def Consistent (c : Cluster) : Prop :=
  c.store.Perm (c.pending.getLastD c.view)

theorem Consistent.pass {c : Cluster} (r : Reconciler) (src : KinesisSource) (w : Answers) :
    (c.pass r src w).Consistent := by
  simp [Consistent, Cluster.pass, List.getLastD_concat]

theorem Consistent.catchUp {c : Cluster} (h : c.Consistent) : c.catchUp.Consistent := by
  unfold Cluster.catchUp
  split
  · exact h
  · next s rest hp =>
    show c.store.Perm (rest.getLastD s)
    rwa [Consistent, hp, List.getLastD_cons] at h

theorem Consistent.relist {c : Cluster} (h : c.Consistent) (v : Store) :
    (c.relist v).Consistent := by
  unfold Cluster.relist
  split
  · next hv =>
    show c.store.Perm (c.pending.getLastD v)
    unfold Consistent at h
    rcases hp : c.pending with _ | ⟨s, rest⟩ <;> rw [hp] at h
    · exact h.trans hv.symm
    · rwa [List.getLastD_cons] at h ⊢
  · exact h

end Cluster

/-- Runs from a store `s₀` that the view has applied: passes for the Source, whatever its spec
and status, the view applying writes, and the view listed in another order.  With `synced`, a
pass starts only once the view has applied every write. -/
inductive Reachable (r : Reconciler) (src : KinesisSource) (synced : Bool) (s₀ : Store) :
    Cluster → Prop
  | init : Reachable r src synced s₀ ⟨s₀, s₀, []⟩
  | pass {c : Cluster} (src' : KinesisSource) (w : Answers) (hc : Reachable r src synced s₀ c)
      (hid : SameSource src' src) (hsync : synced = true → c.pending = []) :
      Reachable r src synced s₀ (c.pass r src' w)
  | catchUp {c : Cluster} (hc : Reachable r src synced s₀ c) :
      Reachable r src synced s₀ c.catchUp
  | relist {c : Cluster} (v : Store) (hc : Reachable r src synced s₀ c) :
      Reachable r src synced s₀ (c.relist v)

namespace Reachable

variable {r : Reconciler} {src : KinesisSource} {synced : Bool} {s₀ : Store} {c : Cluster}

theorem consistent (h : Reachable r src synced s₀ c) : c.Consistent := by
  induction h with
  | init => exact .refl _
  | pass _ _ _ _ _ _ => exact Cluster.Consistent.pass _ _ _
  | catchUp _ ih => exact ih.catchUp
  | relist v _ ih => exact ih.relist v

/-- On every run, stale views or not, the server keeps names unique. -/
theorem keysUnique (h₀ : s₀.Pairwise fun d e => d.sameKey e = false)
    (h : Reachable r src synced s₀ c) : c.store.Pairwise fun d e => d.sameKey e = false := by
  induction h with
  | init => exact h₀
  | pass _ w _ _ _ ih => exact keysUnique_reconcile r w _ ih
  | catchUp _ ih | relist _ _ ih => simpa using ih

/-- On every run, the Source's Deployments stay where the lookup lists them. -/
theorem controlledListed
    (h₀ : ∀ d ∈ s₀, isControlledBy d src = true → ownedBy src d = true)
    (h : Reachable r src synced s₀ c) :
    ∀ d ∈ c.store, isControlledBy d src = true → ownedBy src d = true := by
  induction h with
  | init => exact h₀
  | pass _ w _ hid _ ih => exact controlledListed_reconcile r w _ hid ih
  | catchUp _ ih | relist _ _ ih => simpa using ih

/-- Runs whose passes read a view that has caught up keep the store adopted. -/
theorem adopted (h₀ : Adopted src s₀) (h : Reachable r src true s₀ c) :
    Adopted src c.store := by
  induction h with
  | init => exact h₀
  | @pass c _ w hc hid hsync ih =>
    have hview : c.store.Perm c.view := by
      simpa [Cluster.Consistent, hsync rfl] using hc.consistent
    exact adopted_reconcile r w ⟨c.view, c.store, []⟩ hid hview.symm ih
  | catchUp _ ih | relist _ _ ih => simpa using ih

end Reachable

/-- **One receive adapter per Source, when the cache keeps up.**  Start from a store with
unique names in which the Source controls at most one Deployment, in its namespace with its
labels.  Over every run, with the view lagging as it may, names stay unique and every Deployment
the Source controls stays where the lookup lists it.  Over every run whose `Reconcile` passes
for the Source each read a view that has applied every write before it, listed in whatever
order, the store never holds two Deployments the Source controls. -/
theorem synced_runs_single_adapter (r : Reconciler) (src : KinesisSource) {s₀ : Store}
    (h₀ : Adopted src s₀) :
    (∀ synced c, Reachable r src synced s₀ c →
      (c.store.Pairwise fun d e => d.sameKey e = false) ∧
        ∀ d ∈ c.store, isControlledBy d src = true → ownedBy src d = true) ∧
      ∀ c, Reachable r src true s₀ c → c.store.countP (isControlledBy · src) ≤ 1 :=
  ⟨fun _ _ h => ⟨h.keysUnique h₀.keysUnique, h.controlledListed h₀.controlledListed⟩,
    fun _ h => (h.adopted h₀).atMostOne⟩

/-- The empty store, caught up. -/
theorem adopted_nil (src : KinesisSource) : Adopted src [] :=
  ⟨List.Pairwise.nil, by simp, by simp⟩

/-- A pass for `kiamSource` from an empty store, the view catching up, and a second pass. -/
def syncedPasses : Cluster :=
  (((⟨[], [], []⟩ : Cluster).pass testReconciler kiamSource testAnswers).catchUp).pass
    testReconciler kiamSource testAnswers

theorem synced_passes_single_adapter :
    Adopted kiamSource [] ∧ Reachable testReconciler kiamSource true [] syncedPasses ∧
      ((syncedPasses.store.Pairwise fun d e => d.sameKey e = false) ∧
        ∀ d ∈ syncedPasses.store, isControlledBy d kiamSource = true →
          ownedBy kiamSource d = true) ∧
      syncedPasses.store.countP (isControlledBy · kiamSource) ≤ 1 :=
  have hr : Reachable testReconciler kiamSource true [] syncedPasses :=
    .pass _ _ (.catchUp (.pass _ _ .init ⟨rfl, rfl, rfl⟩ fun _ => rfl)) ⟨rfl, rfl, rfl⟩
      fun _ => rfl
  ⟨adopted_nil _, hr,
    (synced_runs_single_adapter testReconciler kiamSource (adopted_nil _)).1 true _ hr,
    (synced_runs_single_adapter testReconciler kiamSource (adopted_nil _)).2 _ hr⟩

/-- Two passes for `kiamSource` from an empty store, the second before the view has applied the
first's `Create`; the server generates a different suffix each time. -/
def staleSecondPass : Cluster :=
  ((⟨[], [], []⟩ : Cluster).pass testReconciler kiamSource
    { testAnswers with suffix := "abcde" }).pass testReconciler kiamSource
    { testAnswers with suffix := "fghij" }

/-- The second pass finds nothing in the stale view and creates a second Deployment the Source
controls. -/
theorem stale_view_duplicates_adapter :
    Reachable testReconciler kiamSource false [] staleSecondPass ∧
      staleSecondPass.store.countP (isControlledBy · kiamSource) = 2 :=
  ⟨.pass _ _ (.pass _ _ .init ⟨rfl, rfl, rfl⟩ nofun) ⟨rfl, rfl, rfl⟩ nofun, by decide⟩

end KnativeKinesis
