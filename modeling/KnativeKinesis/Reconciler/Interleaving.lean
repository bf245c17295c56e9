/-
Passes for many Sources, interleaved with the informer catching up.

The controller reconciles every `KinesisSource` of the cluster against one store of
Deployments, through one informer cache.  A run is any interleaving of whole passes, each for
some Source with whatever answers it gets, of the view applying the writes it lags behind, and
of `List` enumerating the cache in another order (`Step`).  Nothing else writes Deployments.

What every run keeps (`Coherent`): one list of owner references per namespace and name, across
the store, the view and the writes in between, and every name any of them holds is still in
the store.  A pass updates only a Deployment its view lists for its own Source, and the store
holds under that name a Deployment with the same owners, so a pass writes only Deployments its
Source controls.  Names stay unique and every Deployment keeps its owners
(`run_keeps_names_and_owners`), and a Deployment none of the passing Sources controls, such as
one a user made, is never changed or removed (`run_keeps_uncontrolled`).

What a Source controls grows only by `Create`.  A pass that reads a view listing the store, in
any order, creates only when the Source controls nothing, so every Deployment past the first
comes from a pass that read a view lagging behind the store (`run_duplicates_need_stale_reads`).

A Source that owns one Deployment, whose pod spec `podSpecChanged` accepts, is settled.  Passes
for other Sources neither write that Deployment nor add one the Source owns, and a pass for the
Source itself, reading a view that lists the store, with its spec and sink unchanged, finds it
and writes nothing; so it stays the one the lookup finds, whatever order `List` takes
(`run_keeps_settled_adapter`).
-/
import KnativeKinesis.Reconciler.Cache

namespace KnativeKinesis

/-! ### Names and owners -/

/-- The namespace and name the server stores a Deployment under. -/
def Deployment.key (d : Deployment) : String × String := (d.ns, d.name)

theorem sameKey_iff {d e : Deployment} : d.sameKey e = true ↔ d.key = e.key := by
  simp [Deployment.sameKey, Deployment.key, Prod.ext_iff]

@[simp] theorem key_withPodSpec (d : Deployment) (p : PodSpec) :
    (d.withPodSpec p).key = d.key := rfl

@[simp] theorem ownerReferences_withPodSpec (d : Deployment) (p : PodSpec) :
    (d.withPodSpec p).ownerReferences = d.ownerReferences := rfl

/-- Whether a Source controls a Deployment depends on its owner references only. -/
theorem isControlledBy_congr {d e : Deployment} (h : d.ownerReferences = e.ownerReferences)
    (src : KinesisSource) : isControlledBy d src = isControlledBy e src := by
  simp [isControlledBy, h]

/-- Two Sources that control one Deployment have one UID. -/
theorem uid_eq_of_isControlledBy {d : Deployment} {src src' : KinesisSource}
    (h : isControlledBy d src = true) (h' : isControlledBy d src' = true) :
    src'.uid = src.uid := by
  unfold isControlledBy at h h'
  rcases hf : d.ownerReferences.find? (·.controller) with _ | ref <;> simp [hf] at h h'
  exact h'.symm.trans h

/-- In a store with unique names, a name names one Deployment. -/
theorem eq_of_key_eq {s : Store} (hs : s.Pairwise fun d e => d.sameKey e = false)
    {d e : Deployment} (hd : d ∈ s) (he : e ∈ s) (hk : d.key = e.key) : d = e := by
  by_contra hne
  have := hs.forall (fun x y hxy => by rwa [sameKey_comm]) hd he hne
  rw [sameKey_iff.mpr hk] at this
  cases this

/-- Writing a Deployment over the entries under its name keeps each entry's name and, where
the entry had the writer's owners, its owners. -/
theorem replace_key_owners {ra e : Deployment} (p : PodSpec)
    (h : ra.key = e.key → ra.ownerReferences = e.ownerReferences) :
    (if ra.sameKey e then ra.withPodSpec p else e).key = e.key ∧
      (if ra.sameKey e then ra.withPodSpec p else e).ownerReferences = e.ownerReferences := by
  by_cases hk : ra.sameKey e
  · simp only [hk, if_true, key_withPodSpec, ownerReferences_withPodSpec]
    exact ⟨sameKey_iff.mp hk, h (sameKey_iff.mp hk)⟩
  · simp [hk]

/-! ### Runs -/

/-- What can happen next in the cluster. -/
inductive Step
  /-- A whole `Reconcile` pass for a Source, with the answers it gets. -/
  | pass (src : KinesisSource) (w : Answers)
  /-- The informer applies the oldest write its view lags behind. -/
  | catchUp
  /-- `List` enumerates the cache as `v`, if `v` lists the same Deployments. -/
  | relist (v : Store)

namespace Cluster

/-- One step. -/
def step (r : Reconciler) (c : Cluster) : Step → Cluster
  | .pass src w => c.pass r src w
  | .catchUp => c.catchUp
  | .relist v => c.relist v

/-- The steps, one after another. -/
def run (r : Reconciler) (c : Cluster) : List Step → Cluster
  | [] => c
  | s :: steps => (c.step r s).run r steps

/-- An invariant every step of a run keeps holds after the run. -/
theorem run_induction {P : Cluster → Prop} (r : Reconciler) :
    ∀ (steps : List Step) {c : Cluster}, (∀ c s, s ∈ steps → P c → P (c.step r s)) → P c →
      P (c.run r steps)
  | [], _, _, h => h
  | s :: steps, c, hstep, h =>
    run_induction r steps (fun c' s' hs' => hstep c' s' (List.mem_cons_of_mem s hs'))
      (hstep c s (List.mem_cons_self s steps) h)

theorem run_append (r : Reconciler) (c : Cluster) (pre steps : List Step) :
    c.run r (pre ++ steps) = (c.run r pre).run r steps := by
  induction pre generalizing c with
  | nil => rfl
  | cons s pre ih => exact ih (c.step r s)

/-- The passes for a Source with `src`'s UID that read a view listing other Deployments than
the store. -/
def staleReads (r : Reconciler) (src : KinesisSource) (c : Cluster) : List Step → Nat
  | [] => 0
  | .pass src' w :: steps =>
    (if src'.uid = src.uid ∧ ¬c.view.Perm c.store then 1 else 0) +
      (c.pass r src' w).staleReads r src steps
  | .catchUp :: steps => c.catchUp.staleReads r src steps
  | .relist v :: steps => (c.relist v).staleReads r src steps

/-- Every store a run has to keep in step: the store, the view, and the writes between. -/
def snapshots (c : Cluster) : List Store := c.store :: c.view :: c.pending

theorem store_mem_snapshots (c : Cluster) : c.store ∈ c.snapshots := List.mem_cons_self _ _

theorem view_mem_snapshots (c : Cluster) : c.view ∈ c.snapshots := by simp [snapshots]

theorem mem_snapshots_catchUp {c : Cluster} {s : Store} (h : s ∈ c.catchUp.snapshots) :
    s ∈ c.snapshots := by
  unfold catchUp at h
  split at h
  · exact h
  · next hd tl hp =>
    simp only [snapshots, hp, List.mem_cons] at h ⊢
    tauto

/-- The view listed in another order holds what it held. -/
theorem mem_snapshots_relist {c : Cluster} {v s : Store} (h : s ∈ (c.relist v).snapshots) :
    ∃ t ∈ c.snapshots, s.Perm t := by
  unfold relist at h
  split at h
  · next hv =>
    simp only [snapshots, List.mem_cons] at h
    rcases h with rfl | rfl | h
    · exact ⟨_, c.store_mem_snapshots, .refl _⟩
    · exact ⟨_, c.view_mem_snapshots, hv⟩
    · exact ⟨s, by simp [snapshots, h], .refl _⟩
  · exact ⟨s, h, .refl _⟩

/-! ### What every run keeps -/

/-- What every run keeps of the stores it goes through. -/
structure Coherent (c : Cluster) : Prop where
  /-- One list of owner references per name, in every store of the run. -/
  owners : ∃ owner : String × String → List OwnerReference,
    ∀ s ∈ c.snapshots, ∀ d ∈ s, d.ownerReferences = owner d.key
  /-- No name is lost: the store holds every name any of them holds. -/
  keysKept : ∀ s ∈ c.snapshots, ∀ d ∈ s, d.key ∈ c.store.map Deployment.key

theorem Coherent.owners_eq {c : Cluster} (h : c.Coherent) {s t : Store} (hs : s ∈ c.snapshots)
    (ht : t ∈ c.snapshots) {d e : Deployment} (hd : d ∈ s) (he : e ∈ t) (hk : d.key = e.key) :
    d.ownerReferences = e.ownerReferences := by
  obtain ⟨owner, hown⟩ := h.owners
  rw [hown s hs d hd, hown t ht e he, hk]

/-- Writing a Deployment of the view over the store's entries under its name keeps every
entry's name and owners. -/
theorem Coherent.replace {c : Cluster} (h : c.Coherent) {ra e : Deployment} (hra : ra ∈ c.view)
    (he : e ∈ c.store) (p : PodSpec) :
    (if ra.sameKey e then ra.withPodSpec p else e).key = e.key ∧
      (if ra.sameKey e then ra.withPodSpec p else e).ownerReferences = e.ownerReferences :=
  replace_key_owners p (h.owners_eq c.view_mem_snapshots c.store_mem_snapshots hra he)

/-- The store's Deployment under the name of what the view lists for a Source is controlled
by that Source. -/
theorem Coherent.isControlledBy_of_sameKey {c : Cluster} (h : c.Coherent) {src : KinesisSource}
    {ra e : Deployment} (hf : findReceiveAdapter src c.view = some ra) (he : e ∈ c.store)
    (hk : ra.sameKey e = true) : isControlledBy e src = true := by
  obtain ⟨hra, hown⟩ := findReceiveAdapter_some hf
  rw [← isControlledBy_congr (h.owners_eq c.view_mem_snapshots c.store_mem_snapshots hra he
    (sameKey_iff.mp hk))]
  exact isControlledBy_of_ownedBy hown

/-- A store with unique names, which the view has caught up with. -/
theorem coherent_init {s₀ : Store} (h₀ : s₀.Pairwise fun d e => d.sameKey e = false) :
    Coherent ⟨s₀, s₀, []⟩ := by
  have hmem : ∀ s ∈ (⟨s₀, s₀, []⟩ : Cluster).snapshots, ∀ d ∈ s, d ∈ s₀ := by
    simp only [snapshots, List.mem_cons, List.not_mem_nil, or_false, or_self]
    rintro s rfl d hd
    exact hd
  refine ⟨⟨fun k => ((s₀.find? fun e => decide (e.key = k)).map (·.ownerReferences)).getD [],
    fun s hs d hd => ?_⟩, fun s hs d hd => List.mem_map_of_mem _ (hmem s hs d hd)⟩
  replace hd := hmem s hs d hd
  rcases hf : s₀.find? (fun e => decide (e.key = d.key)) with _ | e
  · simpa using List.find?_eq_none.mp hf d hd
  · have hk : e.key = d.key := by simpa using List.find?_some hf
    simp only [hf, Option.map_some', Option.getD_some]
    rw [eq_of_key_eq h₀ (List.mem_of_find?_eq_some hf) hd hk]

/-- A write that keeps every name of the store, and stores each name with the owners one
assignment gives every store of the run, keeps the run coherent. -/
theorem Coherent.write {c : Cluster} (h : c.Coherent) {s' : Store}
    (owner : String × String → List OwnerReference)
    (hold : ∀ s ∈ c.snapshots, ∀ d ∈ s, d.ownerReferences = owner d.key)
    (hnew : ∀ d ∈ s', d.ownerReferences = owner d.key)
    (hkeys : ∀ d ∈ c.store, d.key ∈ s'.map Deployment.key) :
    Coherent ⟨s', c.view, c.pending ++ [s']⟩ := by
  have hmem : ∀ s ∈ (⟨s', c.view, c.pending ++ [s']⟩ : Cluster).snapshots,
      s = s' ∨ s ∈ c.snapshots := by
    simp only [snapshots, List.mem_cons, List.mem_append, List.mem_singleton]
    tauto
  refine ⟨⟨owner, fun s hs => ?_⟩, fun s hs d hd => ?_⟩ <;> rcases hmem s hs with rfl | hs
  · exact hnew
  · exact hold s hs
  · exact List.mem_map_of_mem _ hd
  · obtain ⟨e, he, hk⟩ := List.mem_map.mp (h.keysKept s hs d hd)
    simpa [hk] using hkeys e he

/-- **A pass keeps the run coherent**, whichever Source it is for and whatever it is told. -/
theorem Coherent.pass {c : Cluster} (h : c.Coherent) (r : Reconciler) (src : KinesisSource)
    (w : Answers) : (c.pass r src w).Coherent := by
  obtain ⟨owner, hown⟩ := h.owners
  show Coherent ⟨_, c.view, c.pending ++ [_]⟩
  rcases reconcile_store r src w ⟨c.view, c.store, []⟩ with
    hs | ⟨ra, p, hf, -, hs⟩ | ⟨-, d, -, hk, hs⟩ <;> rw [hs]
  · exact h.write owner hown (hown _ c.store_mem_snapshots) fun d hd => List.mem_map_of_mem _ hd
  · have hra := (findReceiveAdapter_some hf).1
    refine h.write owner hown (fun x hx => ?_) fun e he => ?_
    · obtain ⟨e, he, rfl⟩ := List.mem_map.mp hx
      rw [(h.replace hra he p).2, (h.replace hra he p).1]
      exact hown _ c.store_mem_snapshots e he
    · exact List.mem_map.mpr ⟨_, List.mem_map_of_mem _ he, (h.replace hra he p).1⟩
  · have hfresh : ∀ s ∈ c.snapshots, ∀ x ∈ s, x.key ≠ d.key := fun s hs x hx hxd => by
      obtain ⟨y, hy, hyx⟩ := List.mem_map.mp (h.keysKept s hs x hx)
      have := List.any_eq_false.mp hk y hy
      rw [sameKey_comm, sameKey_iff, hyx, hxd] at this
      exact this rfl
    refine h.write (Function.update owner d.key d.ownerReferences)
      (fun s hs x hx => by rw [Function.update_noteq (hfresh s hs x hx)]; exact hown s hs x hx)
      (fun x hx => ?_) fun e he => List.mem_map_of_mem _ (List.mem_append_left _ he)
    rcases List.mem_append.mp hx with hx | hx
    · rw [Function.update_noteq (hfresh _ c.store_mem_snapshots x hx)]
      exact hown _ c.store_mem_snapshots x hx
    · rw [List.mem_singleton.mp hx, Function.update_same]

theorem Coherent.catchUp {c : Cluster} (h : c.Coherent) : c.catchUp.Coherent := by
  obtain ⟨owner, hown⟩ := h.owners
  exact ⟨⟨owner, fun s hs => hown s (mem_snapshots_catchUp hs)⟩,
    fun s hs => by simpa using h.keysKept s (mem_snapshots_catchUp hs)⟩

theorem Coherent.relist {c : Cluster} (h : c.Coherent) (v : Store) : (c.relist v).Coherent := by
  obtain ⟨owner, hown⟩ := h.owners
  refine ⟨⟨owner, fun s hs d hd => ?_⟩, fun s hs d hd => ?_⟩ <;>
    obtain ⟨t, ht, hst⟩ := mem_snapshots_relist hs
  · exact hown t ht d (hst.mem_iff.mp hd)
  · simpa using h.keysKept t ht d (hst.mem_iff.mp hd)

theorem Coherent.step {c : Cluster} (h : c.Coherent) (r : Reconciler) :
    ∀ s : Step, (c.step r s).Coherent
  | .pass src w => h.pass r src w
  | .catchUp => h.catchUp
  | .relist v => h.relist v

theorem Coherent.run {c : Cluster} (h : c.Coherent) (r : Reconciler) (steps : List Step) :
    (c.run r steps).Coherent :=
  run_induction r steps (fun _ s _ hc => hc.step r s) h

/-! ### What a pass writes, in a coherent run -/

/-- A pass keeps a Deployment its Source does not control where it is, as it is. -/
theorem Coherent.mem_pass {c : Cluster} (h : c.Coherent) (r : Reconciler) (w : Answers)
    {src : KinesisSource} {e : Deployment} (he : e ∈ c.store)
    (hc : isControlledBy e src = false) : e ∈ (c.pass r src w).store := by
  show e ∈ (r.reconcile src w ⟨c.view, c.store, []⟩).api.store
  rcases reconcile_store r src w ⟨c.view, c.store, []⟩ with
    hs | ⟨ra, p, hf, -, hs⟩ | ⟨-, d, -, -, hs⟩ <;> rw [hs]
  · exact he
  · refine List.mem_map.mpr ⟨e, he, ?_⟩
    cases hk : ra.sameKey e
    · simp
    · rw [h.isControlledBy_of_sameKey hf he hk] at hc
      cases hc
  · exact List.mem_append_left _ he

/-- A pass keeps every name of the store, with its owners. -/
theorem Coherent.key_mem_pass {c : Cluster} (h : c.Coherent) (r : Reconciler)
    (src : KinesisSource) (w : Answers) {e : Deployment} (he : e ∈ c.store) :
    ∃ e' ∈ (c.pass r src w).store, e'.key = e.key ∧ e'.ownerReferences = e.ownerReferences := by
  show ∃ e' ∈ (r.reconcile src w ⟨c.view, c.store, []⟩).api.store, _
  rcases reconcile_store r src w ⟨c.view, c.store, []⟩ with
    hs | ⟨ra, p, hf, -, hs⟩ | ⟨-, d, -, -, hs⟩ <;> rw [hs]
  · exact ⟨e, he, rfl, rfl⟩
  · exact ⟨_, List.mem_map_of_mem _ he, h.replace (findReceiveAdapter_some hf).1 he p⟩
  · exact ⟨e, List.mem_append_left _ he, rfl, rfl⟩

/-- The Deployments a Source controls are where `getReceiveAdapter` lists them. -/
def ControlledListed (src : KinesisSource) (s : Store) : Prop :=
  ∀ d ∈ s, isControlledBy d src = true → ownedBy src d = true

/-- A pass for any Source keeps the Deployments `src` controls listed, as long as a Source
with `src`'s UID is `src`. -/
theorem controlledListed_pass {c : Cluster} (r : Reconciler) {src' src : KinesisSource}
    (w : Answers) (huid : src'.uid = src.uid → SameSource src' src)
    (h : ControlledListed src c.store) : ControlledListed src (c.pass r src' w).store := by
  show ControlledListed src (r.reconcile src' w ⟨c.view, c.store, []⟩).api.store
  have hsame : ∀ {d}, ownedBy src' d = true → isControlledBy d src = true →
      ownedBy src d = true := fun hd hc => by
    rwa [← ownedBy_of_sameSource (huid (uid_eq_of_isControlledBy hc
      (isControlledBy_of_ownedBy hd)))]
  rcases reconcile_store r src' w ⟨c.view, c.store, []⟩ with
    hs | ⟨ra, p, hf, -, hs⟩ | ⟨-, d, hd, -, hs⟩ <;> rw [hs] <;> intro x hx hc
  · exact h x hx hc
  · obtain ⟨e, he, rfl⟩ := List.mem_map.mp hx
    by_cases hk : ra.sameKey e
    · simp only [hk, if_true, ownedBy_withPodSpec] at hc ⊢
      exact hsame (findReceiveAdapter_some hf).2 hc
    · simp only [hk, Bool.false_eq_true, if_false] at hc ⊢
      exact h e he hc
  · rcases List.mem_append.mp hx with hx | hx
    · exact h x hx hc
    · rw [List.mem_singleton.mp hx] at hc ⊢
      exact hsame hd hc

/-- **What one pass adds to what a Source controls.**  At most one Deployment; none from a
pass for a Source with another UID; and from a pass that reads a view listing the store, in any
order, one only when the Source controlled none. -/
theorem Coherent.countP_pass {c : Cluster} (h : c.Coherent) (r : Reconciler)
    {src' src : KinesisSource} (w : Answers) (huid : src'.uid = src.uid → SameSource src' src)
    (hl : ControlledListed src c.store) :
    (c.pass r src' w).store.countP (isControlledBy · src) ≤
      max (c.store.countP (isControlledBy · src)) 1 +
        if src'.uid = src.uid ∧ ¬c.view.Perm c.store then 1 else 0 := by
  show (r.reconcile src' w ⟨c.view, c.store, []⟩).api.store.countP _ ≤ _
  rcases reconcile_store r src' w ⟨c.view, c.store, []⟩ with
    hs | ⟨ra, p, hf, -, hs⟩ | ⟨hf, d, hd, -, hs⟩ <;> dsimp only at hs <;> rw [hs]
  · omega
  · rw [List.countP_map]
    calc _ = c.store.countP (isControlledBy · src) := List.countP_congr fun e he => by
          simp [isControlledBy_congr (h.replace (findReceiveAdapter_some hf).1 he p).2]
      _ ≤ _ := by omega
  · rw [List.countP_append]
    by_cases hcd : isControlledBy d src = true
    · have h1 : [d].countP (isControlledBy · src) = 1 := by simp [hcd]
      have hid := huid (uid_eq_of_isControlledBy hcd (isControlledBy_of_ownedBy hd))
      by_cases hv : c.view.Perm c.store
      · have h0 : c.store.countP (isControlledBy · src) = 0 := by
          rw [findReceiveAdapter_of_sameSource hid, findReceiveAdapter_eq] at hf
          exact List.countP_eq_zero.mpr fun x hx hc => absurd (hl x hx hc)
            (by simpa using List.find?_eq_none.mp hf x (hv.mem_iff.mpr hx))
        omega
      · rw [if_pos ⟨hid.2.2, hv⟩]
        omega
    · have h1 : [d].countP (isControlledBy · src) = 0 := by simpa using hcd
      omega

end Cluster

/-! ### Every interleaving -/

open Cluster

/-- A Deployment a user made in `kiamSource`'s namespace, with its labels but no owner. -/
def userDeployment : Deployment where
  name := "user-made"
  ns := "source-namespace"
  labels := getLabels kiamSource

/-- Two passes for `kiamSource`, the second before the view has applied the first's write. -/
def staleSteps : List Step :=
  [.pass kiamSource { testAnswers with suffix := "abcde" },
    .pass kiamSource { testAnswers with suffix := "fghij" }]

/-- **Names and owners over every interleaving.**  From a store with unique names, over any
interleaving of passes for any Sources with the informer lagging and listing as it may, names
stay unique,
and every Deployment the run started with is still stored under its name, with its owner
references. -/
theorem run_keeps_names_and_owners (r : Reconciler) {s₀ : Store}
    (h₀ : s₀.Pairwise fun d e => d.sameKey e = false) (steps : List Step) :
    (Cluster.run r ⟨s₀, s₀, []⟩ steps).store.Pairwise (fun d e => d.sameKey e = false) ∧
      ∀ d ∈ s₀, ∃ e ∈ (Cluster.run r ⟨s₀, s₀, []⟩ steps).store,
        e.key = d.key ∧ e.ownerReferences = d.ownerReferences := by
  refine (run_induction (P := fun c => c.Coherent ∧
    c.store.Pairwise (fun d e => d.sameKey e = false) ∧
    ∀ d ∈ s₀, ∃ e ∈ c.store, e.key = d.key ∧ e.ownerReferences = d.ownerReferences)
    r steps ?_ ⟨coherent_init h₀, h₀, fun d hd => ⟨d, hd, rfl, rfl⟩⟩).2
  rintro c s - ⟨hc, hu, hk⟩
  refine ⟨hc.step r s, ?_⟩
  rcases s with _ | _ | _
  · refine ⟨keysUnique_reconcile r _ _ hu, fun d hd => ?_⟩
    obtain ⟨e, he, hek, heo⟩ := hk d hd
    obtain ⟨e', he', hk', ho'⟩ := hc.key_mem_pass r _ _ he
    exact ⟨e', he', hk'.trans hek, ho'.trans heo⟩
  all_goals simpa [Cluster.step] using And.intro hu hk

theorem stale_passes_keep_names :
    [userDeployment].Pairwise (fun d e => d.sameKey e = false) ∧
      (Cluster.run testReconciler ⟨[userDeployment], [userDeployment], []⟩
        staleSteps).store.Pairwise (fun d e => d.sameKey e = false) ∧
      ∀ d ∈ [userDeployment], ∃ e ∈
        (Cluster.run testReconciler ⟨[userDeployment], [userDeployment], []⟩ staleSteps).store,
        e.key = d.key ∧ e.ownerReferences = d.ownerReferences :=
  ⟨List.pairwise_singleton _ _,
    run_keeps_names_and_owners testReconciler (List.pairwise_singleton _ _) staleSteps⟩

/-- **Passes leave alone what their Sources do not control.**  Over any interleaving of passes,
informer catch-ups and re-listings from a store with unique names, a Deployment that none of
the passing Sources controls stays in the store, unchanged. -/
theorem run_keeps_uncontrolled (r : Reconciler) {s₀ : Store}
    (h₀ : s₀.Pairwise fun d e => d.sameKey e = false) (steps : List Step) {e : Deployment}
    (he : e ∈ s₀) (hc : ∀ src w, Step.pass src w ∈ steps → isControlledBy e src = false) :
    e ∈ (Cluster.run r ⟨s₀, s₀, []⟩ steps).store := by
  refine (run_induction (P := fun c => c.Coherent ∧ e ∈ c.store) r steps ?_
    ⟨coherent_init h₀, he⟩).2
  rintro c s hs ⟨hco, hec⟩
  refine ⟨hco.step r s, ?_⟩
  rcases s with ⟨src, w⟩ | _ | _
  · exact hco.mem_pass r w hec (hc src w hs)
  all_goals simpa [Cluster.step] using hec

/-- The user's Deployment, which carries the Source's labels, survives two stale passes. -/
theorem stale_passes_keep_user_deployment :
    [userDeployment].Pairwise (fun d e => d.sameKey e = false) ∧
      (∀ src w, Step.pass src w ∈ staleSteps → isControlledBy userDeployment src = false) ∧
      userDeployment ∈
        (Cluster.run testReconciler ⟨[userDeployment], [userDeployment], []⟩ staleSteps).store :=
  ⟨List.pairwise_singleton _ _, fun _ _ _ => rfl,
    run_keeps_uncontrolled testReconciler (List.pairwise_singleton _ _) staleSteps
      (List.mem_singleton_self _) fun _ _ _ => rfl⟩

/-- The run bound, from any coherent cluster. -/
theorem countP_run (r : Reconciler) (src : KinesisSource) :
    ∀ (steps : List Step) {c : Cluster}, c.Coherent → ControlledListed src c.store →
      (∀ src' w, Step.pass src' w ∈ steps → src'.uid = src.uid → SameSource src' src) →
      (c.run r steps).store.countP (isControlledBy · src) ≤
        max (c.store.countP (isControlledBy · src)) 1 + c.staleReads r src steps
  | [], _, _, _, _ => by simp [Cluster.run, staleReads]
  | .pass src' w :: steps, c, hc, hl, huid => by
    have hid : src'.uid = src.uid → SameSource src' src := huid src' w (List.mem_cons_self _ _)
    have hstep := hc.countP_pass r w hid hl
    have hrest := countP_run r src steps (hc.pass r src' w) (controlledListed_pass r w hid hl)
      fun s w' hs => huid s w' (List.mem_cons_of_mem _ hs)
    simp only [Cluster.run, Cluster.step, staleReads] at hrest ⊢
    omega
  | .catchUp :: steps, c, hc, hl, huid => by
    have hrest := countP_run r src steps hc.catchUp (by simpa using hl)
      fun s w' hs => huid s w' (List.mem_cons_of_mem _ hs)
    simpa [Cluster.run, Cluster.step, staleReads] using hrest
  | .relist v :: steps, c, hc, hl, huid => by
    have hrest := countP_run r src steps (hc.relist v) (by simpa using hl)
      fun s w' hs => huid s w' (List.mem_cons_of_mem _ hs)
    simpa [Cluster.run, Cluster.step, staleReads] using hrest

/-- **Every second adapter comes from a stale read.**  Start from a store with unique names in
which every Deployment `src` controls is in its namespace with its labels.  Over any
interleaving of passes for any Sources (a Source with `src`'s UID being `src`), informer
catch-ups and re-listings, the Deployments `src` controls number at most as many as at the
start, or one, plus the passes for `src` that read a view listing other Deployments than the
store. -/
theorem run_duplicates_need_stale_reads (r : Reconciler) (src : KinesisSource) {s₀ : Store}
    (steps : List Step) (h₀ : s₀.Pairwise fun d e => d.sameKey e = false)
    (hl : ∀ d ∈ s₀, isControlledBy d src = true → ownedBy src d = true)
    (huid : ∀ src' w, Step.pass src' w ∈ steps → src'.uid = src.uid → SameSource src' src) :
    (Cluster.run r ⟨s₀, s₀, []⟩ steps).store.countP (isControlledBy · src) ≤
      max (s₀.countP (isControlledBy · src)) 1 + Cluster.staleReads r src ⟨s₀, s₀, []⟩ steps :=
  countP_run r src steps (coherent_init h₀) hl huid

theorem staleSteps_same_source :
    ∀ src' w, Step.pass src' w ∈ staleSteps → src'.uid = kiamSource.uid →
      SameSource src' kiamSource := by
  intro src' w hs _
  simp only [staleSteps, List.mem_cons, Step.pass.injEq, List.not_mem_nil, or_false] at hs
  rcases hs with ⟨rfl, -⟩ | ⟨rfl, -⟩ <;> exact ⟨rfl, rfl, rfl⟩

theorem stale_passes_bound_adapters :
    [userDeployment].Pairwise (fun d e => d.sameKey e = false) ∧
      (∀ d ∈ [userDeployment], isControlledBy d kiamSource = true →
        ownedBy kiamSource d = true) ∧
      (∀ src' w, Step.pass src' w ∈ staleSteps → src'.uid = kiamSource.uid →
        SameSource src' kiamSource) ∧
      (Cluster.run testReconciler ⟨[userDeployment], [userDeployment], []⟩ staleSteps).store.countP
          (isControlledBy · kiamSource) ≤
        max ([userDeployment].countP (isControlledBy · kiamSource)) 1 +
          Cluster.staleReads testReconciler kiamSource ⟨[userDeployment], [userDeployment], []⟩
            staleSteps :=
  have hl : ∀ d ∈ [userDeployment], isControlledBy d kiamSource = true →
      ownedBy kiamSource d = true := by simp [userDeployment, isControlledBy]
  ⟨List.pairwise_singleton _ _, hl, staleSteps_same_source,
    run_duplicates_need_stale_reads testReconciler kiamSource staleSteps
      (List.pairwise_singleton _ _) hl staleSteps_same_source⟩

/-- The bound is reached: the second pass reads a stale view and adds the second adapter. -/
example : (Cluster.run testReconciler ⟨[], [], []⟩ staleSteps).store.countP
      (isControlledBy · kiamSource) = 2 ∧
    Cluster.staleReads testReconciler kiamSource ⟨[], [], []⟩ staleSteps = 1 := by
  decide

/-! ### A settled adapter -/

/-- The builder reads a Source's namespace, name and spec only. -/
theorem makeReceiveAdapter_of_sameSource {src' src : KinesisSource} (hid : SameSource src' src)
    (hspec : src'.spec = src.spec) (image u : String) :
    makeReceiveAdapter ⟨image, src', getLabels src', u⟩ =
      makeReceiveAdapter ⟨image, src, getLabels src, u⟩ := by
  simp [makeReceiveAdapter, makeDeploymentSpec, getLabels, hid.1, hid.2.1, hspec]

/-- A pass for the Source, against a view that lists first a Deployment `podSpecChanged`
accepts for the sink the pass resolves, writes nothing. -/
theorem reconcile_store_of_settled (r : Reconciler) {src' src : KinesisSource} (w : Answers)
    (a : Api) {u : String} {d : Deployment} (hid : SameSource src' src)
    (hspec : src'.spec = src.spec) (hsink : ∀ u', w.sinkURI = .ok u' → u' = u)
    (hf : findReceiveAdapter src a.view = some d)
    (hset : podSpecChanged d.spec.template.spec
      (makeReceiveAdapter ⟨r.receiveAdapterImage, src, getLabels src, u⟩).spec.template.spec =
        false) :
    (r.reconcile src' w a).api.store = a.store := by
  rcases hdel : src'.deletionTimestamp with _ | t
  · rcases hs : w.sinkURI with e | u'
    · simp [Reconciler.reconcile, hdel, hs]
    obtain rfl := hsink u' hs
    rw [reconcile_live r src' w a u' hdel hs]
    rcases hc : createReceiveAdapter r.receiveAdapterImage src' u' w (a.send .getSinkURI) with
      ⟨_ | d', a'⟩
    · exact createReceiveAdapter_error_store _ _ _ _ (a.send .getSinkURI) hc
    have hf' : findReceiveAdapter src' (a.send .getSinkURI).view = some d := by
      rwa [Api.send_view, findReceiveAdapter_of_sameSource hid]
    rcases createReceiveAdapter_ok _ _ _ _ _ hc with
      ⟨-, -, ⟨-, -, rfl⟩ | ⟨ra, hra, hch, -⟩ | ⟨hnone, -⟩⟩
    · rfl
    · rw [hf'] at hra
      cases hra
      rw [makeReceiveAdapter_of_sameSource hid hspec, hset] at hch
      cases hch
    · rw [hf'] at hnone
      cases hnone
  · rw [reconcile_of_deleted r src' w a (by simp [hdel])]

/-- `d` is the one Deployment of the store `src` owns. -/
def OnlyOwned (src : KinesisSource) (d : Deployment) (s : Store) : Prop :=
  d ∈ s ∧ ∀ e ∈ s, ownedBy src e = true → e = d

/-- A pass for a Source with another UID neither adds nor removes a Deployment `src` owns. -/
theorem Cluster.Coherent.owned_pass_other {c : Cluster} (h : c.Coherent) (r : Reconciler)
    {src' src : KinesisSource} (w : Answers) (huid : src'.uid ≠ src.uid) {e : Deployment}
    (hown : ownedBy src e = true) : e ∈ (c.pass r src' w).store ↔ e ∈ c.store := by
  have hnot : ∀ {x}, isControlledBy x src' = true → ownedBy src x ≠ true := fun hx hx' =>
    huid (uid_eq_of_isControlledBy (isControlledBy_of_ownedBy hx') hx)
  refine ⟨fun he => ?_, fun he => h.mem_pass r w he (Bool.eq_false_iff.mpr fun hc => hnot hc hown)⟩
  change e ∈ (r.reconcile src' w ⟨c.view, c.store, []⟩).api.store at he
  rcases reconcile_store r src' w ⟨c.view, c.store, []⟩ with
    hs | ⟨ra, p, hf, -, hs⟩ | ⟨-, d, hd, -, hs⟩ <;> rw [hs] at he
  · exact he
  · obtain ⟨e₀, he₀, rfl⟩ := List.mem_map.mp he
    by_cases hk : ra.sameKey e₀
    · simp only [hk, if_true, ownedBy_withPodSpec] at hown
      exact absurd hown (hnot (isControlledBy_of_ownedBy (findReceiveAdapter_some hf).2))
    · simpa [hk] using he₀
  · rcases List.mem_append.mp he with he | he
    · exact he
    · rw [List.mem_singleton.mp he] at hown
      exact absurd hown (hnot (isControlledBy_of_ownedBy hd))

section Settled

variable (r : Reconciler) (src : KinesisSource) (u : String) {d : Deployment}
  (hown : ownedBy src d = true)
  (hset : podSpecChanged d.spec.template.spec
    (makeReceiveAdapter ⟨r.receiveAdapterImage, src, getLabels src, u⟩).spec.template.spec =
      false)
include hown hset

/-- One pass keeps `d` the one Deployment `src` owns: a pass for a Source with another UID does
not touch what `src` owns, and a pass for `src` that reads a view listing the store, with its
spec and sink unchanged, finds `d` and writes nothing. -/
theorem Cluster.Coherent.onlyOwned_pass {c : Cluster} (h : c.Coherent) {src' : KinesisSource}
    (w : Answers) (hsrc : src'.uid = src.uid →
      SameSource src' src ∧ src'.spec = src.spec ∧ ∀ u', w.sinkURI = .ok u' → u' = u)
    (hview : src'.uid = src.uid → c.view.Perm c.store) (hd : OnlyOwned src d c.store) :
    OnlyOwned src d (c.pass r src' w).store := by
  by_cases huid : src'.uid = src.uid
  · obtain ⟨hid, hspec, hsink⟩ := hsrc huid
    have hs : (c.pass r src' w).store = c.store :=
      reconcile_store_of_settled r w _ hid hspec hsink
        (findReceiveAdapter_perm hd.1 hown hd.2 (hview huid)) hset
    rwa [hs]
  · have hmem := fun {e} (he : ownedBy src e = true) => h.owned_pass_other r w huid he
    exact ⟨(hmem hown).mpr hd.1, fun e he heo => hd.2 e ((hmem heo).mp he) heo⟩

/-- The run form: from any coherent cluster whose store holds `d` as the one Deployment `src`
owns. -/
theorem onlyOwned_run :
    ∀ (steps : List Step) {c : Cluster}, c.Coherent → OnlyOwned src d c.store →
      (∀ src' w, Step.pass src' w ∈ steps → src'.uid = src.uid →
        SameSource src' src ∧ src'.spec = src.spec ∧ ∀ u', w.sinkURI = .ok u' → u' = u) →
      c.staleReads r src steps = 0 → OnlyOwned src d (c.run r steps).store
  | [], _, _, hd, _, _ => hd
  | .pass src' w :: steps, c, hc, hd, hsteps, hstale => by
    simp only [staleReads] at hstale
    have hview : src'.uid = src.uid → c.view.Perm c.store := fun huid => by
      by_contra hv
      rw [if_pos ⟨huid, hv⟩] at hstale
      omega
    show OnlyOwned src d ((c.pass r src' w).run r steps).store
    exact onlyOwned_run steps (hc.pass r src' w)
      (hc.onlyOwned_pass r src u hown hset w (hsteps src' w (List.mem_cons_self _ _)) hview hd)
      (fun s w' hs => hsteps s w' (List.mem_cons_of_mem _ hs)) (by omega)
  | .catchUp :: steps, c, hc, hd, hsteps, hstale | .relist _ :: steps, c, hc, hd, hsteps, hstale =>
    onlyOwned_run steps (hc.step r _) (by simpa [Cluster.step] using hd)
      (fun s w' hs => hsteps s w' (List.mem_cons_of_mem _ hs)) hstale

end Settled

/-- **A settled adapter stays, whatever order `List` takes.**  After any run from a store with
unique names, let `src` own a Deployment `d` whose pod spec `podSpecChanged` accepts for the sink
`u`, and control no other.  Over any further interleaving of passes for any Sources, informer
catch-ups and re-listings, in which the passes for `src` (a Source with its UID being it) keep
its spec, see the sink resolve to `u` or fail, and read a view that lists the store in some
order, the lookup for `src` finds `d` however `List` enumerates the store. -/
theorem run_keeps_settled_adapter (r : Reconciler) (src : KinesisSource) (u : String)
    {s₀ : Store} (h₀ : s₀.Pairwise fun d e => d.sameKey e = false) (pre steps : List Step)
    {d : Deployment} (hd : d ∈ (Cluster.run r ⟨s₀, s₀, []⟩ pre).store)
    (hown : ownedBy src d = true)
    (hone : (Cluster.run r ⟨s₀, s₀, []⟩ pre).store.countP (isControlledBy · src) ≤ 1)
    (hset : podSpecChanged d.spec.template.spec
      (makeReceiveAdapter ⟨r.receiveAdapterImage, src, getLabels src, u⟩).spec.template.spec =
        false)
    (hsteps : ∀ src' w, Step.pass src' w ∈ steps → src'.uid = src.uid →
      SameSource src' src ∧ src'.spec = src.spec ∧ ∀ u', w.sinkURI = .ok u' → u' = u)
    (hstale : (Cluster.run r ⟨s₀, s₀, []⟩ pre).staleReads r src steps = 0) :
    ∀ v, v.Perm (Cluster.run r ⟨s₀, s₀, []⟩ (pre ++ steps)).store →
      findReceiveAdapter src v = some d := by
  have hrun := onlyOwned_run r src u hown hset steps ((coherent_init h₀).run r pre)
    ⟨hd, fun e he heo => eq_of_ownedBy hone hd hown he heo⟩ hsteps hstale
  rw [run_append]
  exact fun v => findReceiveAdapter_perm hrun.1 hown hrun.2

/-- Another Source in `kiamSource`'s namespace. -/
def otherSource : KinesisSource where
  name := "other-source"
  ns := "source-namespace"
  uid := "0987-6543-21"
  spec := { streamName := "other-stream", region := "us-west-2"
            kiamOptions := { kclIamRoleArn := "other-role-arn" } }

/-- `kiamSource`'s adapter, as a pass creates it. -/
def settledAdapter : Deployment :=
  (setControllerReference kiamSource kiamAdapter).withGeneratedName "abcde"

/-- The store after a pass for the other Source, listed in reverse. -/
def reversedView : Store :=
  (Cluster.run testReconciler ⟨[settledAdapter], [settledAdapter], []⟩
    [.pass otherSource testAnswers]).store.reverse

/-- A pass for the other Source, the view catching up and then listed in reverse, and a pass
for `kiamSource`. -/
def settledSteps : List Step :=
  [.pass otherSource testAnswers, .catchUp, .relist reversedView, .pass kiamSource testAnswers]

theorem settledSteps_keep_source :
    ∀ src' w, Step.pass src' w ∈ settledSteps → src'.uid = kiamSource.uid →
      SameSource src' kiamSource ∧ src'.spec = kiamSource.spec ∧
        ∀ u', w.sinkURI = .ok u' → u' = testSinkURI := by
  intro src' w hs huid
  simp only [settledSteps, List.mem_cons, Step.pass.injEq, reduceCtorEq, List.not_mem_nil,
    or_false, false_or] at hs
  rcases hs with ⟨rfl, rfl⟩ | ⟨rfl, rfl⟩
  · exact absurd huid (by decide)
  · exact ⟨⟨rfl, rfl, rfl⟩, rfl, fun u' h => by cases h; rfl⟩

theorem settled_adapter_survives_other_pass :
    [settledAdapter].Pairwise (fun d e => d.sameKey e = false) ∧
      settledAdapter ∈ (Cluster.run testReconciler
        ⟨[settledAdapter], [settledAdapter], []⟩ []).store ∧
      ownedBy kiamSource settledAdapter = true ∧
      (Cluster.run testReconciler ⟨[settledAdapter], [settledAdapter], []⟩ []).store.countP
        (isControlledBy · kiamSource) ≤ 1 ∧
      podSpecChanged settledAdapter.spec.template.spec (makeReceiveAdapter
        ⟨testReconciler.receiveAdapterImage, kiamSource, getLabels kiamSource,
          testSinkURI⟩).spec.template.spec = false ∧
      (Cluster.run testReconciler ⟨[settledAdapter], [settledAdapter], []⟩ []).staleReads
        testReconciler kiamSource settledSteps = 0 ∧
      ∀ v, v.Perm (Cluster.run testReconciler
        ⟨[settledAdapter], [settledAdapter], []⟩ ([] ++ settledSteps)).store →
          findReceiveAdapter kiamSource v = some settledAdapter :=
  have hown : ownedBy kiamSource settledAdapter = true := by decide
  have hone : (Cluster.run testReconciler ⟨[settledAdapter], [settledAdapter], []⟩ []).store.countP
      (isControlledBy · kiamSource) ≤ 1 := by decide
  have hset : podSpecChanged settledAdapter.spec.template.spec (makeReceiveAdapter
      ⟨testReconciler.receiveAdapterImage, kiamSource, getLabels kiamSource,
        testSinkURI⟩).spec.template.spec = false := by decide
  have hstale : (Cluster.run testReconciler ⟨[settledAdapter], [settledAdapter], []⟩ []).staleReads
      testReconciler kiamSource settledSteps = 0 := by decide
  ⟨List.pairwise_singleton _ _, List.mem_singleton_self _, hown, hone, hset, hstale,
    run_keeps_settled_adapter testReconciler kiamSource testSinkURI (List.pairwise_singleton _ _)
      [] settledSteps (List.mem_singleton_self _) hown hone hset settledSteps_keep_source
      hstale⟩

end KnativeKinesis
