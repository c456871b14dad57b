import ServiceBinding.Proofs.Binding.Planning
import ServiceBinding.Proofs.Binding.Plans

/-!
What a gathered plan consists of. What each projection keeps is kept by gathering them all
(`kept_of_gather`). So nothing is taken out of a plan again, and every projection has been realized
in it (`realized_of_gather`); the keys of its secret are those that some projection needs
(`needs_of_gather`, `put_of_gather`); and every file is taken from one of them (`backed_of_gather`).
-/
namespace ServiceBinding.Binding
open Crypto Object

/-- The keys of the secondary secret that a projection of a source needs. -/
inductive Needs (source : Source) (projection : Projection) : String → Prop
  | store {t : StoreTransform} (transforms : projection.transform = some t) :
    Needs source projection t.store
  | password {t : StoreTransform} (transforms : projection.transform = some t) :
    Needs source projection t.password
  | derived {selector env label key : String} {form : Json} (plain : projection.transform = none)
      (selects : Plan.selector? projection = some selector) (exposes : projection.env = some env)
      (isReference : projection.literal = false) (isStructured : source = .structured label form)
      (keyed : source.derivedKey selector = .ok key) : Needs source projection key
  | file {selector file key : String} (plain : projection.transform = none)
      (selects : Plan.selector? projection = some selector) (hidden : projection.env = none)
      (mounts : projection.mount = some file)
      (keyed : Plan.fileKey source selector file = .ok key) : Needs source projection key

namespace Plan
variable {P : Primitives} {kept : Dict Bytes}

/-! ### Induction -/

/-- What is kept by every projection of a source is kept by all of them. -/
theorem kept_of_realizeAll {motive : Plan → Prop} {draws : Nat → Draw} {source : Source}
    {projections : List Projection} {k : Nat} {p p' : Plan}
    (step : ∀ projection ∈ projections, ∀ r q q', Realized P kept r source q projection q' →
      motive q → motive q')
    (h : p.realizeAll P kept draws source k projections = .ok p') (start : motive p) :
    motive p' := by
  induction projections generalizing k p with
  | nil =>
    cases h
    exact start
  | cons projection rest ih =>
    obtain ⟨q, hq, h⟩ := bind_eq_ok.1 h
    rw [List.forall_mem_cons] at step
    exact ih step.2 h (step.1 _ _ _ (realize_eq_ok.1 hq) start)

/-- What is kept by every projection of every source is kept by gathering. -/
theorem kept_of_gather {motive : Plan → Prop} {draws : Nat → Draw}
    {sources : List (SourceRef × Source)} {k : Nat} {p p' : Plan}
    (step : ∀ s ∈ sources, ∀ projection ∈ s.1.projections, ∀ r q q',
      Realized P kept r s.2 q projection q' → motive q → motive q')
    (h : p.gather P kept draws k sources = .ok p') (start : motive p) : motive p' := by
  induction sources generalizing k p with
  | nil =>
    cases h
    exact start
  | cons source rest ih =>
    obtain ⟨q, hq, h⟩ := bind_eq_ok.1 h
    rw [List.forall_mem_cons] at step
    exact ih step.2 h (kept_of_realizeAll step.1 hq start)

/-! ### Growth -/

theorem grows_withStore {p : Plan} {t : StoreTransform} {store : Bytes} {password : String}
    (ha : p.Admits t.store store)
    (hb : (p.withKey t.store store).Admits t.password (Bytes.ofText password)) :
    p.Grows (p.withStore t store password) :=
  (((grows_withKey ha).trans (grows_withKey hb)).trans (grows_mount _ _ _)).trans
    (grows_addVariable _ _)

/-- A projection takes nothing out of a plan. -/
theorem Realized.grows {r : Draw} {source : Source} {p p' : Plan}
    {projection : Projection} (h : Realized P kept r source p projection p') : p.Grows p' := by
  cases h with
  | store _ h =>
    obtain ⟨_, _, _, _, _, _, _, _, ha, hb, rfl⟩ := addStore_eq_ok.1 h
    exact grows_withStore ha hb
  | literal => exact grows_addVariable _ _
  | reference => exact grows_addVariable _ _
  | derived _ _ _ _ _ _ _ ha => exact (grows_withKey ha).trans (grows_addVariable _ _)
  | file _ _ _ _ _ _ ha => exact (grows_withKey ha).trans (grows_mount _ _ _)

theorem grows_realizeAll {draws : Nat → Draw} {source : Source}
    {projections : List Projection} {k : Nat} {p p' : Plan}
    (h : p.realizeAll P kept draws source k projections = .ok p') : p.Grows p' :=
  kept_of_realizeAll (motive := (p.Grows ·)) (fun _ _ _ _ _ hreal hq => hq.trans hreal.grows) h
    (.refl p)

theorem grows_gather {draws : Nat → Draw}
    {sources : List (SourceRef × Source)} {k : Nat} {p p' : Plan}
    (h : p.gather P kept draws k sources = .ok p') : p.Grows p' :=
  kept_of_gather (motive := (p.Grows ·)) (fun _ _ _ _ _ _ _ hreal hq => hq.trans hreal.grows) h
    (.refl p)

/-! ### Parts -/

/-- Every projection of a source has been realized on the way to a plan. -/
theorem realized_of_realizeAll {draws : Nat → Draw} {source : Source}
    {projections : List Projection} {k : Nat} {p p' : Plan}
    (h : p.realizeAll P kept draws source k projections = .ok p') :
    ∀ projection ∈ projections, ∃ r q q', p.Grows q ∧ Realized P kept r source q projection q' ∧
      q'.Grows p' := by
  induction projections generalizing k p with
  | nil => exact fun _ h => nomatch h
  | cons projection rest ih =>
    obtain ⟨q, hq, h⟩ := bind_eq_ok.1 h
    rw [realize_eq_ok] at hq
    refine List.forall_mem_cons.2 ⟨⟨_, p, q, .refl p, hq, grows_realizeAll h⟩, fun other ho => ?_⟩
    obtain ⟨r, q₁, q₂, hgrows, hother, hlast⟩ := ih h other ho
    exact ⟨r, q₁, q₂, hq.grows.trans hgrows, hother, hlast⟩

theorem realized_of_gather {draws : Nat → Draw} {sources : List (SourceRef × Source)} {k : Nat}
    {p p' : Plan} (h : p.gather P kept draws k sources = .ok p') :
    ∀ s ∈ sources, ∀ projection ∈ s.1.projections, ∃ r q q', p.Grows q ∧
      Realized P kept r s.2 q projection q' ∧ q'.Grows p' := by
  induction sources generalizing k p with
  | nil => exact fun _ h => nomatch h
  | cons source rest ih =>
    obtain ⟨q, hq, h⟩ := bind_eq_ok.1 h
    refine List.forall_mem_cons.2 ⟨fun projection hp => ?_, fun s hs projection hp => ?_⟩
    · obtain ⟨r, q₁, q₂, hgrows, hreal, hlast⟩ := realized_of_realizeAll hq projection hp
      exact ⟨r, q₁, q₂, hgrows, hreal, hlast.trans (grows_gather h)⟩
    · obtain ⟨r, q₁, q₂, hgrows, hreal, hlast⟩ := ih h s hs projection hp
      exact ⟨r, q₁, q₂, (grows_realizeAll hq).trans hgrows, hreal, hlast⟩

/-! ### Keys -/

/-- The keys of a plan with one more key. -/
theorem get?_withKey {p : Plan} {key key' : String} {value value' : Bytes}
    (h : (p.withKey key value).content.get? key' = some value') :
    key' = key ∨ p.content.get? key' = some value' := by
  unfold withKey at h
  rw [Dict.get?_insert] at h
  split at h
  · next he => exact .inl he
  · exact .inr h

theorem Realized.needs {r : Draw} {source : Source} {p p' : Plan} {projection : Projection}
    (h : Realized P kept r source p projection p') {key : String} {value : Bytes}
    (hk : p'.content.get? key = some value) :
    p.content.get? key = some value ∨ Needs source projection key := by
  cases h with
  | store transforms h =>
    obtain ⟨_, _, _, _, _, _, _, _, _, _, rfl⟩ := addStore_eq_ok.1 h
    rcases get?_withKey hk with rfl | hk
    · exact .inr (.password transforms)
    · rcases get?_withKey hk with rfl | hk
      · exact .inr (.store transforms)
      · exact .inl hk
  | literal | reference => exact .inl hk
  | derived plain selects exposes isReference isStructured _ keyed =>
    rcases get?_withKey hk with rfl | hk
    · exact .inr (.derived plain selects exposes isReference isStructured keyed)
    · exact .inl hk
  | file plain selects hidden mounts _ keyed =>
    rcases get?_withKey hk with rfl | hk
    · exact .inr (.file plain selects hidden mounts keyed)
    · exact .inl hk

/-- A projection that has been realized has put every key that it needs. -/
theorem Realized.put {r : Draw} {source : Source} {p p' : Plan} {projection : Projection}
    (h : Realized P kept r source p projection p') {key : String}
    (needs : Needs source projection key) : ∃ value, p'.content.get? key = some value := by
  cases h with
  | store ht h =>
    obtain ⟨_, _, _, _, _, _, _, _, _, hb, rfl⟩ := addStore_eq_ok.1 h
    cases needs with
    | store ht' =>
      cases ht.symm.trans ht'
      exact ⟨_, (grows_withKey hb).content _ _ (get?_withKey_self _ _ _)⟩
    | password ht' =>
      cases ht.symm.trans ht'
      exact ⟨_, get?_withKey_self _ _ _⟩
    | derived ht' | file ht' => cases ht.symm.trans ht'
  | literal ht _ he hl =>
    cases needs with
    | store ht' | password ht' => cases ht.symm.trans ht'
    | derived _ _ _ hl' => cases hl.symm.trans hl'
    | file _ _ he' => cases he.symm.trans he'
  | reference ht _ he _ hkeyed =>
    cases needs with
    | store ht' | password ht' => cases ht.symm.trans ht'
    | derived _ _ _ _ hstructured => cases hkeyed.symm.trans hstructured
    | file _ _ he' => cases he.symm.trans he'
  | derived ht hs he _ _ _ hk =>
    cases needs with
    | store ht' | password ht' => cases ht.symm.trans ht'
    | derived _ hs' _ _ _ hk' =>
      cases hs.symm.trans hs'
      cases hk.symm.trans hk'
      exact ⟨_, get?_withKey_self _ _ _⟩
    | file _ _ he' => cases he.symm.trans he'
  | file ht hs he hm _ hk =>
    cases needs with
    | store ht' | password ht' => cases ht.symm.trans ht'
    | derived _ _ he' => cases he.symm.trans he'
    | file _ hs' _ hm' hk' =>
      cases hs.symm.trans hs'
      cases hm.symm.trans hm'
      cases hk.symm.trans hk'
      exact ⟨_, get?_withKey_self _ _ _⟩

/-- Every key of a gathered plan was there before, or some projection needs it. -/
theorem needs_of_gather {draws : Nat → Draw} {sources : List (SourceRef × Source)} {k : Nat}
    {p p' : Plan} (h : p.gather P kept draws k sources = .ok p') {key : String} {value : Bytes}
    (hk : p'.content.get? key = some value) :
    p.content.get? key = some value ∨
      ∃ s ∈ sources, ∃ projection ∈ s.1.projections, Needs s.2 projection key := by
  refine kept_of_gather (motive := fun q => q.content.get? key = some value →
    p.content.get? key = some value ∨
      ∃ s ∈ sources, ∃ projection ∈ s.1.projections, Needs s.2 projection key) ?_ h .inl hk
  intro s hs projection hp r q q' hreal ih hk
  rcases hreal.needs hk with hk | hneeds
  · exact ih hk
  · exact .inr ⟨s, hs, projection, hp, hneeds⟩

/-- A gathered plan has every key that some projection needs. -/
theorem put_of_gather {draws : Nat → Draw} {sources : List (SourceRef × Source)} {k : Nat}
    {p p' : Plan} (h : p.gather P kept draws k sources = .ok p') {s : SourceRef × Source}
    (hs : s ∈ sources) {projection : Projection} (hp : projection ∈ s.1.projections)
    {key : String} (needs : Needs s.2 projection key) :
    ∃ value, p'.content.get? key = some value := by
  obtain ⟨r, q, q', _, hreal, hlast⟩ := realized_of_gather h s hs projection hp
  obtain ⟨value, hk⟩ := hreal.put needs
  exact ⟨value, hlast.content _ _ hk⟩

/-! ### Files -/

/-- Whether every file is taken from a key that the secret has. -/
def Backed (p : Plan) : Prop :=
  ∀ item ∈ p.items, ∃ value, p.content.get? item.key = some value

theorem Backed.empty (secondary : String) : Backed { secondary := secondary } :=
  List.forall_mem_nil _

theorem Backed.withKey {p : Plan} (h : p.Backed) {key : String} {value : Bytes}
    (admits : p.Admits key value) : (p.withKey key value).Backed := by
  intro item hi
  obtain ⟨known, hk⟩ := h item hi
  exact ⟨known, (grows_withKey admits).content _ _ hk⟩

theorem Backed.mount {p : Plan} (h : p.Backed) {key file : String} {value : Bytes}
    (there : p.content.get? key = some value) : (p.mount key file).Backed := by
  intro item hi
  rcases List.mem_append.1 hi with hi | hi
  · exact h item hi
  · rw [List.mem_singleton.1 hi]
    exact ⟨value, there⟩

theorem Realized.backed {r : Draw} {source : Source} {p p' : Plan} {projection : Projection}
    (h : Realized P kept r source p projection p') (backed : p.Backed) : p'.Backed := by
  cases h with
  | store _ h =>
    obtain ⟨_, _, _, _, _, _, _, _, ha, hb, rfl⟩ := addStore_eq_ok.1 h
    exact ((backed.withKey ha).withKey hb).mount
      ((grows_withKey hb).content _ _ (get?_withKey_self _ _ _))
  | literal | reference => exact backed
  | derived _ _ _ _ _ _ _ ha => exact backed.withKey ha
  | file _ _ _ _ _ _ ha => exact (backed.withKey ha).mount (get?_withKey_self _ _ _)

/-- Every file of a gathered plan is taken from a key that was put into the secret. -/
theorem backed_of_gather {draws : Nat → Draw} {sources : List (SourceRef × Source)} {k : Nat}
    {p p' : Plan} (backed : p.Backed) (h : p.gather P kept draws k sources = .ok p') :
    p'.Backed :=
  kept_of_gather (fun _ _ _ _ _ _ _ hreal => hreal.backed) h backed

end Plan

end ServiceBinding.Binding
