import Mathlib.Data.List.Forall2

/-!
Results that are values. A sequence gives a value if each of its parts does, which is how every
pure function of the project is taken apart in proofs.
-/
namespace ServiceBinding
variable {ε ε' α β : Type}

theorem mapError_eq_ok {f : ε → ε'} {r : Except ε α} {a : α} :
    r.mapError f = .ok a ↔ r = .ok a := by
  cases r <;> simp [Except.mapError]

theorem bind_eq_ok {r : Except ε α} {f : α → Except ε β} {b : β} :
    (r >>= f) = .ok b ↔ ∃ a, r = .ok a ∧ f a = .ok b := by
  cases r <;> simp [Bind.bind, Except.bind]

theorem bind_eq_error {r : Except ε α} {f : α → Except ε β} {e : ε} :
    (r >>= f) = .error e ↔ r = .error e ∨ ∃ a, r = .ok a ∧ f a = .error e := by
  cases r <;> simp [Bind.bind, Except.bind]

theorem mapError_eq_error {f : ε → ε'} {r : Except ε α} {e' : ε'} :
    r.mapError f = .error e' ↔ ∃ e, r = .error e ∧ f e = e' := by
  cases r <;> simp [Except.mapError]

theorem exists_bind_pure {r : Except ε α} {f : α → β} :
    (∃ b, (do return f (← r)) = Except.ok (ε := ε) b) ↔ ∃ a, r = .ok a := by
  cases r <;> simp [Bind.bind, Except.bind, pure, Except.pure]

/-- A sequence gives a value just if its first part does and the rest does after any value. -/
theorem exists_bind {r : Except ε α} {f : α → Except ε β} {p : Prop}
    (h : ∀ a, (∃ b, f a = .ok b) ↔ p) :
    (∃ b, (r >>= f) = .ok b) ↔ (∃ a, r = .ok a) ∧ p := by
  constructor
  · rintro ⟨b, hb⟩
    obtain ⟨a, ha, hb⟩ := bind_eq_ok.1 hb
    exact ⟨⟨a, ha⟩, (h a).1 ⟨b, hb⟩⟩
  · rintro ⟨⟨a, ha⟩, hp⟩
    obtain ⟨b, hb⟩ := (h a).2 hp
    exact ⟨b, bind_eq_ok.2 ⟨a, ha, hb⟩⟩

theorem map_eq_ok {r : Except ε α} {f : α → β} {b : β} :
    r.map f = .ok b ↔ ∃ a, r = .ok a ∧ f a = b := by
  cases r <;> simp [Except.map]

theorem map_eq_error {r : Except ε α} {f : α → β} {e : ε} :
    r.map f = .error e ↔ r = .error e := by
  cases r <;> simp [Except.map]

theorem forM_eq_ok {f : α → Except ε Unit} {l : List α} :
    l.forM f = .ok () ↔ ∀ a ∈ l, f a = .ok () := by
  induction l with
  | nil => simp [List.forM, pure, Except.pure]
  | cons a rest ih =>
    rw [List.forall_mem_cons]
    show (f a >>= fun _ => rest.forM f) = _ ↔ _
    rw [bind_eq_ok]
    constructor
    · rintro ⟨_, ha, h⟩
      exact ⟨ha, ih.1 h⟩
    · rintro ⟨ha, h⟩
      exact ⟨(), ha, ih.2 h⟩

/-- Results of a list are the results of its items, one by one. -/
theorem mapM_eq_ok {f : α → Except ε β} {l : List α} {l' : List β} :
    l.mapM f = .ok l' ↔ List.Forall₂ (fun a b => f a = .ok b) l l' := by
  induction l generalizing l' with
  | nil =>
    rw [List.mapM_nil, List.forall₂_nil_left_iff]
    exact ⟨fun h => (Except.ok.inj h).symm, fun h => h ▸ rfl⟩
  | cons a rest ih =>
    rw [List.mapM_cons, bind_eq_ok, List.forall₂_cons_left_iff]
    constructor
    · rintro ⟨b, hb, h⟩
      obtain ⟨bs, hbs, h⟩ := bind_eq_ok.1 h
      exact ⟨b, bs, hb, ih.1 hbs, (Except.ok.inj h).symm⟩
    · rintro ⟨b, bs, hb, hbs, rfl⟩
      exact ⟨b, hb, bind_eq_ok.2 ⟨bs, ih.2 hbs, rfl⟩⟩

/-- Related lists have the same images where related elements do. -/
theorem map_eq_of_forall₂ {α β γ : Type} {R : α → β → Prop} {f : α → γ} {g : β → γ} {l : List α}
    {l' : List β} (same : ∀ {a b}, R a b → f a = g b) (h : List.Forall₂ R l l') :
    l.map f = l'.map g := by
  induction h with
  | nil => rfl
  | cons hfirst _ ih => rw [List.map_cons, List.map_cons, same hfirst, ih]

/-- Every element of the second of two related lists is related to one of the first. -/
theorem exists_of_forall₂ {α β : Type} {R : α → β → Prop} {l : List α} {l' : List β}
    (h : List.Forall₂ R l l') : ∀ b ∈ l', ∃ a ∈ l, R a b := by
  induction h with
  | nil => exact List.forall_mem_nil _
  | @cons a _ _ _ hfirst _ ih =>
    refine List.forall_mem_cons.2 ⟨⟨a, List.mem_cons_self, hfirst⟩, fun b hb => ?_⟩
    obtain ⟨a', ha', hr⟩ := ih b hb
    exact ⟨a', List.mem_cons_of_mem _ ha', hr⟩

/-- Related lists have related elements in each place. -/
theorem getElem?_of_forall₂ {α β : Type} {R : α → β → Prop} {l : List α} {l' : List β}
    (h : List.Forall₂ R l l') {i : Nat} {a : α} (there : l[i]? = some a) :
    ∃ b, l'[i]? = some b ∧ R a b := by
  induction h generalizing i with
  | nil => simp at there
  | @cons _ b _ _ hfirst _ ih =>
    cases i with
    | zero =>
      obtain rfl : _ = a := Option.some.inj there
      exact ⟨b, rfl, hfirst⟩
    | succ i => exact ih there

/-- Two related lists stay related when one element is set just if it is related to its
counterpart. -/
theorem forall₂_set_iff {α β : Type} {R : α → β → Prop} {l : List α} {l' : List β}
    (h : List.Forall₂ R l l') {i : Nat} {a : α} (there : l[i]? = some a) (b : β) :
    List.Forall₂ R l (l'.set i b) ↔ R a b := by
  induction h generalizing i with
  | nil => simp at there
  | cons hfirst hrest ih =>
    cases i with
    | zero =>
      obtain rfl : _ = a := Option.some.inj there
      simp [hrest]
    | succ i => simp [hfirst, ih there]

end ServiceBinding
