import ServiceBinding.Proofs.Workload.Merging

/-!
Lists in which everything is registered once. An element that a list knows is left as it is, a new
one comes last, and one that clashes with an element of the list is refused (`Registers`). Items of
an object are registered like this, and so are the variables of a container. Whether some elements
can be registered depends on how each of them stands to the list and on the pairs among them, and
their order decides on nothing but the order of the result (`Registers.perm`).
-/
namespace ServiceBinding
open Object
variable {α β σ : Type}

/-! ### Registering -/

/-- Whether an element is in a list, as the first one of its key. -/
def Known (key : α → String) (l : List α) (a : α) : Prop := l.find? (key · == key a) = some a

/-- Whether an element clashes with none of a list. -/
def Unclaimed (Clash : α → α → Prop) (l : List α) (a : α) : Prop := ∀ x ∈ l, ¬ Clash x a

/-- Whether a merge registers elements in lists: it lets in those that are known or clash with
nothing, and no others. -/
structure Registers (add : List α → α → Merged (List α)) (key : α → String)
    (Clash : α → α → Prop) : Prop where
  symm : ∀ {a b}, Clash a b → Clash b a
  /-- Elements of one key clash. -/
  keyed : ∀ {a b}, key a = key b → Clash a b
  known : ∀ {l a}, Known key l a → (add l a).toResult = .ok l
  unclaimed : ∀ {l a}, Unclaimed Clash l a → (add l a).toResult = .ok (l ++ [a])
  cases : ∀ {l a l'}, (add l a).toResult = .ok l' → Known key l a ∨ Unclaimed Clash l a

/-- Whether some elements can be registered in a list. -/
structure Registrable (key : α → String) (Clash : α → α → Prop) (l added : List α) : Prop where
  each : ∀ a ∈ added, Known key l a ∨ Unclaimed Clash l a
  /-- Elements that clash and are both new are the same. -/
  pairs : ∀ a ∈ added, ∀ b ∈ added, Unclaimed Clash l a → Unclaimed Clash l b → Clash a b → a = b

theorem Registrable.perm {key : α → String} {Clash : α → α → Prop} {l added added' : List α}
    (h : Registrable key Clash l added) (perm : added.Perm added') :
    Registrable key Clash l added' :=
  ⟨fun a ha => h.each a (perm.mem_iff.2 ha), fun a ha b hb =>
    h.pairs a (perm.mem_iff.2 ha) b (perm.mem_iff.2 hb)⟩

namespace Registers
variable {add : List α → α → Merged (List α)} {key : α → String} {Clash : α → α → Prop}
  {l added out : List α} {a b : α}

theorem not_unclaimed_of_known (h : Registers add key Clash) (known : Known key l a) :
    ¬ Unclaimed Clash l a :=
  fun free => free a (List.mem_of_find?_eq_some known) (h.keyed rfl)

theorem unclaimed_append : Unclaimed Clash (l ++ [a]) b ↔ Unclaimed Clash l b ∧ ¬ Clash a b := by
  unfold Unclaimed
  rw [List.forall_mem_append, List.forall_mem_singleton]

/-- Behind a list that it clashes with nowhere, an element is all that becomes known. -/
theorem known_append (h : Registers add key Clash) (free : Unclaimed Clash l a) :
    Known key (l ++ [a]) b ↔ Known key l b ∨ b = a := by
  have hnone : l.find? (key · == key a) = none := by
    rw [List.find?_eq_none]
    exact fun x hx he => free x hx (h.keyed (beq_iff_eq.1 he))
  unfold Known
  rw [find?_append_new hnone]
  by_cases hk : key b = key a
  · rw [if_pos hk, hk, hnone, Option.some.injEq]
    exact ⟨fun he => .inr he.symm, fun he => he.elim (fun h => nomatch h) Eq.symm⟩
  · rw [if_neg hk]
    refine ⟨.inl, fun he => he.elim id ?_⟩
    rintro rfl
    exact absurd rfl hk

theorem registrable_known (h : Registers add key Clash) (known : Known key l a) :
    Registrable key Clash l (a :: added) ↔ Registrable key Clash l added := by
  constructor
  · exact fun ⟨each, pairs⟩ => ⟨fun b hb => each b (List.mem_cons_of_mem _ hb), fun b hb c hc =>
      pairs b (List.mem_cons_of_mem _ hb) c (List.mem_cons_of_mem _ hc)⟩
  · rintro ⟨each, pairs⟩
    have hne {b : α} (hb : b ∈ a :: added) (free : Unclaimed Clash l b) : b ∈ added := by
      rcases List.mem_cons.1 hb with rfl | hb
      · exact absurd free (h.not_unclaimed_of_known known)
      · exact hb
    exact ⟨List.forall_mem_cons.2 ⟨.inl known, each⟩, fun b hb c hc freeb freec =>
      pairs b (hne hb freeb) c (hne hc freec) freeb freec⟩

theorem registrable_unclaimed (h : Registers add key Clash) (free : Unclaimed Clash l a) :
    Registrable key Clash l (a :: added) ↔ Registrable key Clash (l ++ [a]) added := by
  constructor
  · rintro ⟨each, pairs⟩
    rw [List.forall_mem_cons] at each
    refine ⟨fun b hb => ?_, fun b hb c hc freeb freec => ?_⟩
    · rw [h.known_append free, unclaimed_append]
      rcases each.2 b hb with known | freeb
      · exact .inl (.inl known)
      · by_cases hclash : Clash a b
        · exact .inl (.inr
            (pairs a List.mem_cons_self b (List.mem_cons_of_mem _ hb) free freeb hclash).symm)
        · exact .inr ⟨freeb, hclash⟩
    · exact pairs b (List.mem_cons_of_mem _ hb) c (List.mem_cons_of_mem _ hc)
        (unclaimed_append.1 freeb).1 (unclaimed_append.1 freec).1
  · rintro ⟨each, pairs⟩
    -- A new element is the one in front, or is still new behind it.
    have hnew {b : α} (hb : b ∈ added) (freeb : Unclaimed Clash l b) :
        b = a ∨ Unclaimed Clash (l ++ [a]) b := by
      rcases each b hb with known | freeb
      · rcases (h.known_append free).1 known with known | rfl
        · exact absurd freeb (h.not_unclaimed_of_known known)
        · exact .inl rfl
      · exact .inr freeb
    have hfront {b : α} (hb : b ∈ added) (freeb : Unclaimed Clash l b) (clash : Clash a b) :
        a = b := by
      rcases hnew hb freeb with rfl | freeb
      · rfl
      · exact absurd clash (unclaimed_append.1 freeb).2
    refine ⟨List.forall_mem_cons.2 ⟨.inr free, fun b hb => ?_⟩, ?_⟩
    · rcases each b hb with known | freeb
      · rcases (h.known_append free).1 known with known | rfl
        · exact .inl known
        · exact .inr free
      · exact .inr (unclaimed_append.1 freeb).1
    rw [List.forall_mem_cons]
    constructor
    · exact List.forall_mem_cons.2 ⟨fun _ _ _ => rfl, fun c hc _ freec => hfront hc freec⟩
    intro b hb
    refine List.forall_mem_cons.2 ⟨fun freeb _ clash => (hfront hb freeb (h.symm clash)).symm,
      fun c hc freeb freec clash => ?_⟩
    rcases hnew hb freeb with rfl | freeb'
    · exact hfront hc freec clash
    rcases hnew hc freec with rfl | freec'
    · exact (hfront hb freeb (h.symm clash)).symm
    · exact pairs b hb c hc freeb' freec' clash

/-- Registrable elements can be registered, all of them in a row. -/
theorem exists_of_registrable (h : Registers add key Clash)
    (registrable : Registrable key Clash l added) :
    ∃ out, (Merged.forEach add l added).toResult = .ok out := by
  induction added generalizing l with
  | nil => exact ⟨l, rfl⟩
  | cons a rest ih =>
    rcases registrable.each a List.mem_cons_self with known | free
    · obtain ⟨out, hout⟩ := ih ((h.registrable_known known).1 registrable)
      exact ⟨out, Merged.forEach_cons_eq_ok.2 ⟨l, h.known known, hout⟩⟩
    · obtain ⟨out, hout⟩ := ih ((h.registrable_unclaimed free).1 registrable)
      exact ⟨out, Merged.forEach_cons_eq_ok.2 ⟨l ++ [a], h.unclaimed free, hout⟩⟩

/-- Elements that have been registered could be, and those of them that were new stand once each
behind the others. -/
theorem of_forEach (h : Registers add key Clash)
    (hout : (Merged.forEach add l added).toResult = .ok out) :
    Registrable key Clash l added ∧ ∃ new, out = l ++ new ∧ new.Nodup ∧
      ∀ a, a ∈ new ↔ a ∈ added ∧ Unclaimed Clash l a := by
  induction added generalizing l with
  | nil =>
    cases hout
    exact ⟨⟨nofun, nofun⟩, [], (List.append_nil l).symm, List.nodup_nil, fun a => by simp⟩
  | cons a rest ih =>
    obtain ⟨mid, hmid, hout⟩ := Merged.forEach_cons_eq_ok.1 hout
    rcases h.cases hmid with known | free
    · obtain rfl : l = mid := Except.ok.inj ((h.known known).symm.trans hmid)
      obtain ⟨registrable, new, rfl, nodup, hmem⟩ := ih hout
      refine ⟨(h.registrable_known known).2 registrable, new, rfl, nodup, fun b => ?_⟩
      rw [hmem, List.mem_cons]
      refine ⟨fun ⟨hb, free⟩ => ⟨.inr hb, free⟩, fun ⟨hb, free⟩ => ⟨hb.resolve_left ?_, free⟩⟩
      rintro rfl
      exact h.not_unclaimed_of_known known free
    · obtain rfl : l ++ [a] = mid := Except.ok.inj ((h.unclaimed free).symm.trans hmid)
      obtain ⟨registrable, new, rfl, nodup, hmem⟩ := ih hout
      have registrable := (h.registrable_unclaimed free).2 registrable
      refine ⟨registrable, a :: new, List.append_assoc l [a] new,
        List.nodup_cons.2 ⟨fun ha => ?_, nodup⟩, fun b => ?_⟩
      · exact (unclaimed_append.1 ((hmem a).1 ha).2).2 (h.keyed rfl)
      · rw [List.mem_cons, List.mem_cons, hmem, unclaimed_append]
        constructor
        · rintro (rfl | ⟨hb, freeb, -⟩)
          · exact ⟨.inl rfl, free⟩
          · exact ⟨.inr hb, freeb⟩
        · rintro ⟨rfl | hb, freeb⟩
          · exact .inl rfl
          · by_cases hclash : Clash a b
            · exact .inl (registrable.pairs a List.mem_cons_self b (List.mem_cons_of_mem _ hb)
                free freeb hclash).symm
            · exact .inr ⟨hb, freeb, hclash⟩

/-- **The order of registration does not matter**: in another order the same elements can be
registered as well, and what comes of it is the same up to order. -/
theorem perm (h : Registers add key Clash) {added' : List α} (perm : added.Perm added')
    (hout : (Merged.forEach add l added).toResult = .ok out) :
    ∃ out', (Merged.forEach add l added').toResult = .ok out' ∧ out.Perm out' := by
  obtain ⟨registrable, new, rfl, nodup, hmem⟩ := h.of_forEach hout
  obtain ⟨out', hout'⟩ := h.exists_of_registrable (registrable.perm perm)
  obtain ⟨-, new', rfl, nodup', hmem'⟩ := h.of_forEach hout'
  refine ⟨_, hout', .append_left l ((List.perm_ext_iff_of_nodup nodup nodup').2 fun a => ?_)⟩
  rw [hmem, hmem', perm.mem_iff]

end Registers

namespace Workload

/-- Items clash if they have the same key or become the same file. -/
theorem registers_addItem (context : String) : Registers (addItem context) (·.key)
    fun x y => x.key = y.key ∨ x.path = y.path where
  symm := fun h => h.imp Eq.symm Eq.symm
  keyed := .inl
  known := fun known => addItem_cases.2 (.inl ⟨known, rfl⟩)
  unclaimed := by
    intro l a free
    refine addItem_cases.2 (.inr ⟨List.find?_eq_none.2 fun x hx he => ?_,
      List.find?_eq_none.2 fun x hx he => ?_, rfl⟩)
    · exact free x hx (.inl (beq_iff_eq.1 he))
    · exact free x hx (.inr (beq_iff_eq.1 he))
  cases := by
    intro l a l' h
    rcases addItem_cases.1 h with ⟨known, -⟩ | ⟨hkey, hpath, -⟩
    · exact .inl known
    · refine .inr fun x hx clash => clash.elim (fun he => ?_) fun he => ?_
      · exact List.find?_eq_none.1 hkey x hx (beq_iff_eq.2 he)
      · exact List.find?_eq_none.1 hpath x hx (beq_iff_eq.2 he)

/-- Adds a variable to those of a container, without a delimiter. -/
def addVariable (context : String) (env : List EnvVar) (var : EnvVar) : Merged (List EnvVar) :=
  match env.find? (·.name == var.name) with
  | some known =>
    (mergeVariable context none known var).within fun merged =>
      replaceFirst (·.name == var.name) merged env
  | none => .done (env ++ [var])

/-- Variables clash if they have the same name. -/
theorem registers_addVariable (context : String) : Registers (addVariable context) (·.name)
    fun x y => x.name = y.name where
  symm := Eq.symm
  keyed := id
  known := by
    intro l a known
    unfold addVariable
    rw [show l.find? (·.name == a.name) = some a from known]
    dsimp only
    rw [mergeVariable, if_pos rfl]
    exact congrArg _ (replaceFirst_self known)
  unclaimed := by
    intro l a free
    have hname : l.find? (·.name == a.name) = none :=
      List.find?_eq_none.2 fun x hx he => free x hx (beq_iff_eq.1 he)
    unfold addVariable
    rw [hname]
    rfl
  cases := by
    intro l a l' h
    unfold addVariable at h
    cases hname : l.find? (·.name == a.name) with
    | none => exact .inr fun x hx he => List.find?_eq_none.1 hname x hx (beq_iff_eq.2 he)
    | some known =>
      rw [hname] at h
      dsimp only at h
      rw [Merged.toResult_within, map_eq_ok] at h
      obtain ⟨merged, hmerged, -⟩ := h
      obtain ⟨rfl, -⟩ := (mergeVariable_eq_ok hmerged).2 rfl
      exact .inl hname

end Workload

end ServiceBinding
