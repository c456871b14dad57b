import ServiceBinding.Proofs.Binding.Gathering
import ServiceBinding.Proofs.Binding.Projecting
import ServiceBinding.Proofs.Convergence.Resting

/-!
Secondary secrets that have been settled. Settling that has succeeded leaves the secret at rest
(`Rested`): it keeps for its owner just the content that it was settled with, and settling it with
that content again does nothing. The content of a binding that has been drafted is what its
projections need.
-/
namespace ServiceBinding.Binding
open Cluster Convergence Object

/-- Whether a place is as settling a secondary secret leaves it. -/
inductive Rested (i : Instance) (binding uid : String) (content : Dict Bytes)
    (found : Option Secret) : Prop
  | removed (empty : content.isEmpty = true) (gone : Gone uid found)
  | ensured (filled : content.isEmpty = false) {wanted : Secret}
      (made : secondarySecret i binding content = .ok wanted)
      (rests : Rests compareSecret wanted found)

variable {faulty : Prop} {i : Instance} {binding uid : String} {content : Dict Bytes}
  {before after : Table Secret} {verbs : List Verb}

theorem secondarySecret_data {wanted : Secret}
    (made : secondarySecret i binding content = .ok wanted) : wanted.data = some content := by
  obtain ⟨owned, _, h⟩ := bind_eq_ok.1 made
  cases h
  rfl

theorem Settled.rested (h : Settled faulty i binding uid content before (.ok ()) verbs after) :
    Rested i binding uid content (after.get? (spaceOf i) (secondaryName i.name binding)) := by
  generalize hx : (Except.ok () : Result Unit) = x at h
  cases h with
  | removed empty h =>
    obtain ⟨o, rfl, _⟩ := map_eq_ok.1 hx.symm
    exact .removed empty h.gone
  | unmade => cases hx
  | ensured filled made h =>
    obtain ⟨o, rfl, _⟩ := map_eq_ok.1 hx.symm
    exact .ensured filled made (h.rests applies_compareSecret converges_compareSecret)

/-- An object at rest belongs to the owner it was made for. -/
theorem isOwnedBy_of_metaAgrees {wanted found : Meta} (made : IsMadeFor wanted uid)
    (agrees : metaAgrees wanted found = true) : found.isOwnedBy uid = true := by
  unfold metaAgrees at agrees
  rw [Bool.and_eq_true, beq_iff_eq, beq_iff_eq] at agrees
  have howned := isOwnedBy_applyMeta made found
  unfold Meta.isOwnedBy at howned ⊢
  rw [← agrees.2]
  exact howned

/-- What a secret at rest keeps is the content it was settled with. -/
theorem Rested.kept (identified : Workload.ownerUid i = .ok uid) {found : Option Secret}
    (h : Rested i binding uid content found) : keptFrom uid found = content := by
  cases h with
  | removed empty gone =>
    rw [Dict.isEmpty_iff.1 empty]
    cases found with
    | none => rfl
    | some a =>
      rw [keptFrom, show a.metadata.isOwnedBy uid = false from gone a rfl]
      rfl
  | ensured _ made rests =>
    obtain ⟨a, rfl, _, hequal⟩ := rests
    obtain ⟨hmeta, hdata, _⟩ := compareSecret_eq_equal.1 hequal
    have howned := isOwnedBy_of_metaAgrees (secondarySecret_isMadeFor identified made) hmeta
    unfold sameContent at hdata
    rw [beq_iff_eq, secondarySecret_data made] at hdata
    rw [keptFrom, show a.metadata.isOwnedBy uid = true from howned, if_pos rfl, ← hdata]
    rfl

/-- Whether the owner's secret holds a value under a key. -/
def Holds (uid : String) (found : Option Secret) (key : String) (value : Bytes) : Prop :=
  ∃ stored, found = some stored ∧ stored.metadata.isOwnedBy uid = true ∧
    (stored.data.getD {}).get? key = some value

theorem holds_iff_kept {found : Option Secret} {key : String} {value : Bytes} :
    Holds uid found key value ↔ (keptFrom uid found).get? key = some value := by
  cases found with
  | none => exact ⟨fun ⟨_, h, _⟩ => (nomatch h), fun h => (nomatch h)⟩
  | some stored =>
    rw [keptFrom]
    constructor
    · rintro ⟨_, ⟨⟩, howned, hkey⟩
      rw [if_pos howned]
      exact hkey
    · intro hkey
      split at hkey
      · next howned => exact ⟨stored, rfl, howned, hkey⟩
      · cases hkey

/-- A secret at rest holds just what it was settled with. -/
theorem Rested.holds_iff (identified : Workload.ownerUid i = .ok uid) {found : Option Secret}
    (h : Rested i binding uid content found) {key : String} {value : Bytes} :
    Holds uid found key value ↔ content.get? key = some value := by
  rw [holds_iff_kept, h.kept identified]

/-- A secret without content is none of the owner's. -/
theorem Rested.gone {found : Option Secret} (h : Rested i binding uid content found)
    (empty : content.isEmpty = true) : Gone uid found := by
  cases h with
  | removed _ gone => exact gone
  | ensured filled => cases empty.symm.trans filled

/-- A secret at rest is looked at and left alone. -/
theorem Settled.idle {x : Result Unit}
    (rested : Rested i binding uid content
      (before.get? (spaceOf i) (secondaryName i.name binding)))
    (h : Settled False i binding uid content before x verbs after) :
    x = .ok () ∧ verbs = [.get] ∧ after = before := by
  cases h with
  | removed empty h =>
    cases rested with
    | removed _ gone =>
      obtain ⟨⟨o, rfl⟩, rfl, rfl⟩ := h.idle gone
      exact ⟨rfl, rfl, rfl⟩
    | ensured filled => cases empty.symm.trans filled
  | unmade filled h =>
    cases rested with
    | removed empty => cases empty.symm.trans filled
    | ensured _ made => cases h.symm.trans made
  | ensured filled made h =>
    cases rested with
    | removed empty => cases empty.symm.trans filled
    | ensured _ made' rests =>
      cases made.symm.trans made'
      obtain ⟨rfl, rfl, rfl⟩ := h.idle rests
      exact ⟨rfl, rfl, rfl⟩

/-! ### Drafts -/

section Drafts
variable {ρ : Type} {E : Equipment ρ} {b : Binding} {pod : PodSpec} {found : Option Secret}
  {r r' : ρ} {d : Draft}

/-- What a plan has at some point is in the secret in the end. -/
theorem Drafted.holds {found' : Option Secret} (h : Drafted E i b found pod r uid d r')
    (rested : Rested i b.name uid d.plan.content found') {p : Plan} (grows : p.Grows d.plan)
    {key : String} {value : Bytes} (hk : p.content.get? key = some value) :
    Holds uid found' key value :=
  (rested.holds_iff h.identified).2 (grows.content _ _ hk)

/-- Every key of a plan is one that a projection needs. -/
theorem Drafted.needed (h : Drafted E i b found pod r uid d r') {key : String} {value : Bytes}
    (hk : d.plan.content.get? key = some value) :
    ∃ s ∈ d.sources, ∃ projection ∈ s.1.projections, Needs s.2 projection key := by
  rcases Plan.needs_of_gather h.gathered hk with hk | hneeds
  · cases hk
  · exact hneeds

theorem Drafted.unneeded (h : Drafted E i b found pod r uid d r')
    (hnone : ∀ s ∈ d.sources, ∀ projection ∈ s.1.projections, ∀ key, ¬ Needs s.2 projection key) :
    d.plan.content.isEmpty = true := by
  refine Dict.isEmpty_iff.2 (Dict.ext_get? fun key => ?_)
  cases hk : d.plan.content.get? key with
  | none => rfl
  | some value =>
    obtain ⟨s, hs, projection, hp, hneeds⟩ := h.needed hk
    exact absurd hneeds (hnone s hs projection hp key)

end Drafts

end ServiceBinding.Binding
