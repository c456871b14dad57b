import Mathlib.Data.List.Forall2
import Mathlib.Data.List.Perm.Basic
import ServiceBinding.Object.Pod

/-!
Pods that are the same up to order. They have the same containers with the same mounts, and the
same volumes of the same sources; only the variables of a container and the items that a projected
volume takes from one secret may come in another order (`PodSpec.Permuted`).
-/
namespace ServiceBinding.Object

/-- Whether two objects give the same items in some order. -/
structure ObjectItems.Permuted (o o' : ObjectItems) : Prop where
  rest : o' = { o with items := o'.items }
  items : Option.Rel List.Perm o.items o'.items

/-- Whether two sources are the same but for the order of a secret's items. -/
structure ProjectedSource.Permuted (s s' : ProjectedSource) : Prop where
  rest : s' = { s with secret := s'.secret }
  secret : Option.Rel ObjectItems.Permuted s.secret s'.secret

/-- Whether two projected volumes have the same sources but for the order of items. -/
structure ProjectedVolume.Permuted (v v' : ProjectedVolume) : Prop where
  rest : v' = { v with sources := v'.sources }
  sources : Option.Rel (List.Forall₂ ProjectedSource.Permuted) v.sources v'.sources

/-- Whether two volumes are the same but for the order of projected items. -/
structure Volume.Permuted (v v' : Volume) : Prop where
  rest : v' = { v with projected := v'.projected }
  projected : Option.Rel ProjectedVolume.Permuted v.projected v'.projected

/-- Whether two containers are the same but for the order of their variables. -/
structure Container.Permuted (c c' : Container) : Prop where
  rest : c' = { c with env := c'.env }
  env : Option.Rel List.Perm c.env c'.env

/-- Whether two pods are the same but for the order of projected items and of variables. -/
structure PodSpec.Permuted (pod pod' : PodSpec) : Prop where
  rest : pod' = { pod with containers := pod'.containers, volumes := pod'.volumes }
  containers : List.Forall₂ Container.Permuted pod.containers pod'.containers
  volumes : Option.Rel (List.Forall₂ Volume.Permuted) pod.volumes pod'.volumes

theorem rel_refl {α : Type} {R : α → α → Prop} (h : ∀ a, R a a) : ∀ o : Option α, Option.Rel R o o
  | none => .none
  | some a => .some (h a)

theorem forall₂_refl {α : Type} {R : α → α → Prop} (h : ∀ a, R a a) (l : List α) :
    List.Forall₂ R l l :=
  List.forall₂_same.2 fun a _ => h a

theorem ObjectItems.Permuted.refl (o : ObjectItems) : o.Permuted o :=
  ⟨rfl, rel_refl .refl _⟩

theorem ProjectedSource.Permuted.refl (s : ProjectedSource) : s.Permuted s :=
  ⟨rfl, rel_refl .refl _⟩

theorem ProjectedVolume.Permuted.refl (v : ProjectedVolume) : v.Permuted v :=
  ⟨rfl, rel_refl (forall₂_refl .refl) _⟩

theorem Volume.Permuted.refl (v : Volume) : v.Permuted v := ⟨rfl, rel_refl .refl _⟩

theorem Container.Permuted.refl (c : Container) : c.Permuted c := ⟨rfl, rel_refl .refl _⟩

theorem PodSpec.Permuted.refl (pod : PodSpec) : pod.Permuted pod :=
  ⟨rfl, forall₂_refl .refl _, rel_refl (forall₂_refl .refl) _⟩

end ServiceBinding.Object
