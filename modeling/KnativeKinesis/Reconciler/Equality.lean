/-
`podSpecChanged`, and the apimachinery comparison it is made of.

`equality.Semantic.DeepDerivative(a1, a2)` walks `a1` and compares only what `a1` sets: an
empty string, an empty slice and a nil pointer are skipped, and a slice of `a1` is compared
element by element with the prefix of the same length in `a2`.  It is written out here for the
pod-spec types the model has, field by field, as the reflective walk visits them.  `DeepEqual`
on an env list is list equality.

So `podSpecChanged old new = false` says: every field `new` sets has that value in `old`, and
the containers line up one for one with the same env lists (`podSpecChanged_eq_false`).
-/
import KnativeKinesis.Resources.ReceiveAdapter

namespace KnativeKinesis

/-- `DeepDerivative` on strings: an empty `a1` is not compared. -/
def deriveString (a b : String) : Bool :=
  a.length == 0 || a == b

/-- `DeepDerivative` on a slice: an empty `a1` is not compared; otherwise `a2` is at least as
long and each element derives the one at the same place. -/
def deriveList {α : Type} (d : α → α → Bool) : List α → List α → Bool
  | [], _ => true
  | _ :: _, [] => false
  | a :: as, b :: bs => d a b && deriveList d as bs

/-- `DeepDerivative` on a pointer: a nil `a1` is not compared, a nil `a2` fails. -/
def deriveOption {α : Type} (d : α → α → Bool) : Option α → Option α → Bool
  | none, _ => true
  | some _, none => false
  | some a, some b => d a b

/-- `DeepDerivative` on `EnvVar`. -/
def EnvVar.derive (a b : EnvVar) : Bool :=
  deriveString a.name b.name && deriveString a.value b.value

/-- `DeepDerivative` on `VolumeMount`. -/
def VolumeMount.derive (a b : VolumeMount) : Bool :=
  deriveString a.name b.name && deriveString a.mountPath b.mountPath

/-- `DeepDerivative` on `Volume`. -/
def Volume.derive (a b : Volume) : Bool :=
  deriveString a.name b.name &&
    deriveOption (fun x y : SecretVolumeSource => deriveString x.secretName y.secretName)
      a.secret b.secret

/-- `DeepDerivative` on `Container`. -/
def Container.derive (a b : Container) : Bool :=
  deriveString a.name b.name && deriveString a.image b.image &&
    deriveList EnvVar.derive a.env b.env &&
    deriveList VolumeMount.derive a.volumeMounts b.volumeMounts

/-- `equality.Semantic.DeepDerivative` on `PodSpec`: `a` is derived by `b`. -/
def PodSpec.derive (a b : PodSpec) : Bool :=
  deriveList Volume.derive a.volumes b.volumes &&
    deriveList Container.derive a.containers b.containers &&
    deriveString a.serviceAccountName b.serviceAccountName

def podSpecChanged (oldPodSpec newPodSpec : PodSpec) : Bool :=
  !newPodSpec.derive oldPodSpec || oldPodSpec.containers.length != newPodSpec.containers.length ||
    (newPodSpec.containers.zip oldPodSpec.containers).any fun (n, o) => n.env != o.env

/-! ### Everything derives itself -/

theorem deriveString_refl (a : String) : deriveString a a = true := by
  simp [deriveString]

theorem deriveList_refl {α : Type} {d : α → α → Bool} (h : ∀ a, d a a = true) :
    ∀ l : List α, deriveList d l l = true
  | [] => rfl
  | a :: as => by simp [deriveList, h a, deriveList_refl h as]

theorem PodSpec.derive_refl (p : PodSpec) : p.derive p = true := by
  have hv : ∀ v : Volume, v.derive v = true := fun v => by
    rcases v with ⟨n, _ | s⟩ <;> simp [Volume.derive, deriveOption, deriveString_refl]
  have hc : ∀ c : Container, c.derive c = true := fun c => by
    simp [Container.derive, deriveString_refl, deriveList_refl,
      EnvVar.derive, VolumeMount.derive]
  simp [derive, deriveList_refl hv, deriveList_refl hc, deriveString_refl]

/-! ### What `podSpecChanged` checks -/

private theorem zip_any_ne_eq_false {α β : Type} [BEq β] [LawfulBEq β] (f : α → β) :
    ∀ {l₁ l₂ : List α}, l₁.length = l₂.length →
      (((l₁.zip l₂).any fun p => f p.1 != f p.2) = false ↔ l₁.map f = l₂.map f)
  | [], [], _ => by simp
  | x :: xs, y :: ys, h => by
    simp only [List.zip_cons_cons, List.any_cons, Bool.or_eq_false_iff, List.map_cons,
      List.cons.injEq, bne_eq_false_iff_eq]
    rw [zip_any_ne_eq_false f (by simpa using h)]

/-- `podSpecChanged` is false exactly when `new` is derived by `old` and the containers carry
the same env lists, one for one. -/
theorem podSpecChanged_eq_false (old new : PodSpec) :
    podSpecChanged old new = false ↔
      new.derive old = true ∧ new.containers.map (·.env) = old.containers.map (·.env) := by
  unfold podSpecChanged
  by_cases hlen : old.containers.length = new.containers.length
  · simp only [Bool.or_eq_false_iff, Bool.not_eq_false', bne_eq_false_iff_eq, hlen, and_true]
    rw [zip_any_ne_eq_false Container.env hlen.symm]
  · have : new.containers.map (·.env) ≠ old.containers.map (·.env) :=
      fun h => hlen (by simpa using (congrArg List.length h).symm)
    simp [hlen, this]

theorem podSpecChanged_self (p : PodSpec) : podSpecChanged p p = false :=
  (podSpecChanged_eq_false p p).2 ⟨p.derive_refl, rfl⟩

end KnativeKinesis
