import ServiceBinding.Proofs.Binding.Gathering

/-!
Gathering request by request. The projections of all sources in a row, each with its source, are
what a plan is asked for, and gathering realizes them one after the other
(`gather_eq_realizeRequests`). So each is realized with the draw of its place
(`realized_of_realizeRequests`).
-/
namespace ServiceBinding.Binding
open Crypto Object

/-- A projection with the source it is of. -/
structure Request where
  source : Source
  projection : Projection

/-- The keys of the secondary secret that a request needs. -/
abbrev Request.Needs (s : Request) (key : String) : Prop := Binding.Needs s.source s.projection key

/-- The projections of some sources in their order. -/
def requests (sources : List (SourceRef × Source)) : List Request :=
  sources.flatMap fun s => s.1.projections.map fun projection => ⟨s.2, projection⟩

theorem mem_requests {sources : List (SourceRef × Source)} {s : Request} :
    s ∈ requests sources ↔ ∃ ref, (ref, s.source) ∈ sources ∧ s.projection ∈ ref.projections := by
  unfold requests
  rw [List.mem_flatMap]
  constructor
  · rintro ⟨⟨ref, source⟩, hmem, hs⟩
    obtain ⟨projection, hp, rfl⟩ := List.mem_map.1 hs
    exact ⟨ref, hmem, hp⟩
  · rintro ⟨ref, hmem, hp⟩
    exact ⟨_, hmem, List.mem_map.2 ⟨_, hp, rfl⟩⟩

namespace Plan
variable {P : Primitives} {kept : Dict Bytes} {draws : Nat → Draw}

/-- Adds what some requests ask for, the draws counted from `k` on. -/
def realizeRequests (P : Primitives) (kept : Dict Bytes) (draws : Nat → Draw) :
    Nat → Plan → List Request → Result Plan
  | _, p, [] => .ok p
  | k, p, s :: rest => do
    realizeRequests P kept draws (k + 1) (← p.realize P kept (draws k) s.source s.projection) rest

theorem realizeAll_eq_realizeRequests (source : Source) (k : Nat) (p : Plan)
    (projections : List Projection) :
    p.realizeAll P kept draws source k projections =
      p.realizeRequests P kept draws k (projections.map (⟨source, ·⟩)) := by
  induction projections generalizing k p with
  | nil => rfl
  | cons projection rest ih =>
    rw [realizeAll, List.map_cons, realizeRequests]
    exact bind_congr fun q => ih (k + 1) q

theorem realizeRequests_append (k : Nat) (p : Plan) (l l' : List Request) :
    p.realizeRequests P kept draws k (l ++ l') =
      (p.realizeRequests P kept draws k l >>= fun q =>
        q.realizeRequests P kept draws (k + l.length) l') := by
  induction l generalizing k p with
  | nil => rfl
  | cons s rest ih =>
    rw [List.cons_append, realizeRequests, realizeRequests, bind_assoc]
    refine bind_congr fun q => ?_
    rw [ih, List.length_cons, Nat.add_right_comm, Nat.add_assoc k]

/-- Gathering realizes the requests of its sources. -/
theorem gather_eq_realizeRequests (k : Nat) (p : Plan) (sources : List (SourceRef × Source)) :
    p.gather P kept draws k sources = p.realizeRequests P kept draws k (requests sources) := by
  induction sources generalizing k p with
  | nil => rfl
  | cons s rest ih =>
    obtain ⟨ref, source⟩ := s
    rw [gather, requests, List.flatMap_cons, realizeRequests_append, realizeAll_eq_realizeRequests,
      List.length_map]
    exact bind_congr fun q => ih _ q

theorem grows_realizeRequests {k : Nat} {p p' : Plan} {l : List Request}
    (h : p.realizeRequests P kept draws k l = .ok p') : p.Grows p' := by
  induction l generalizing k p with
  | nil =>
    cases h
    exact .refl _
  | cons s rest ih =>
    obtain ⟨q, hq, h⟩ := bind_eq_ok.1 h
    exact (realize_eq_ok.1 hq).grows.trans (ih h)

/-- Every request has been realized on the way to a plan, with the draw of its place. -/
theorem realized_of_realizeRequests {k : Nat} {p p' : Plan} {l : List Request}
    (h : p.realizeRequests P kept draws k l = .ok p') {n : Nat} {s : Request}
    (hs : l[n]? = some s) :
    ∃ q q', Realized P kept (draws (k + n)) s.source q s.projection q' ∧ q'.Grows p' := by
  induction l generalizing k p n with
  | nil => cases hs
  | cons first rest ih =>
    obtain ⟨q, hq, hrest⟩ := bind_eq_ok.1 h
    cases n with
    | zero =>
      cases hs
      exact ⟨p, q, realize_eq_ok.1 hq, grows_realizeRequests hrest⟩
    | succ n =>
      rw [List.getElem?_cons_succ] at hs
      obtain ⟨q₁, q₂, hreal, hgrows⟩ := ih hrest hs
      rw [Nat.add_right_comm, Nat.add_assoc] at hreal
      exact ⟨q₁, q₂, hreal, hgrows⟩

end Plan

end ServiceBinding.Binding
