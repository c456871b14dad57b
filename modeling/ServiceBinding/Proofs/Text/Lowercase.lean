import ServiceBinding.Text.Lowercase

/-!
Lower-casing ASCII. Of all the runs of capitals only the first one reaches ASCII characters, and
none of these is a sigma or a dotted letter, so that an ASCII text is lowered character by character
(`lowercase_of_ascii`).
-/
namespace ServiceBinding.Text

/-- The capitals of ASCII. -/
def latinRun : CaseRun := ⟨0x41, 0x5A, 1, 32⟩

theorem contains_latinRun (n : Nat) : latinRun.contains n = true ↔ 0x41 ≤ n ∧ n ≤ 0x5A := by
  show (decide (0x41 ≤ n) && decide (n ≤ 0x5A) && (n - 0x41) % 1 == 0) = true ↔ _
  simp [Nat.mod_one]

theorem find?_caseRuns {n : Nat} (ascii : n < 128) :
    caseRuns.find? (·.contains n) = if 0x41 ≤ n ∧ n ≤ 0x5A then some latinRun else none := by
  have hruns : caseRuns = latinRun :: caseRuns.tail := rfl
  have hbeyond : caseRuns.tail.find? (·.contains n) = none := by
    have hfirst : ∀ r ∈ caseRuns.tail, 128 ≤ r.first := by decide +kernel
    rw [List.find?_eq_none]
    intro r hr hcontains
    have := hfirst r hr
    simp only [CaseRun.contains, Bool.and_eq_true, decide_eq_true_eq] at hcontains
    omega
  rw [hruns, List.find?_cons, hbeyond]
  split
  · next h => rw [if_pos ((contains_latinRun n).1 h)]
  · next h => rw [if_neg fun h' => by simp [(contains_latinRun n).2 h'] at h]

theorem lowerChar_of_ascii {c : Char} (ascii : c.toNat < 128) : lowerChar c = c.toLower := by
  have hcapital : (c.val ≥ 'A'.val ∧ c.val ≤ 'Z'.val) ↔ 0x41 ≤ c.toNat ∧ c.toNat ≤ 0x5A := by
    simp only [ge_iff_le, UInt32.le_iff_toNat_le]
    rfl
  unfold lowerChar Char.toLower
  rw [find?_caseRuns ascii]
  by_cases h : 0x41 ≤ c.toNat ∧ c.toNat ≤ 0x5A
  · rw [if_pos h, dif_pos (hcapital.2 h)]
    have hval : (c.val + ('a'.val - 'A'.val)).toNat = c.toNat + 32 := by
      have hdistance : ('a'.val - 'A'.val).toNat = 32 := rfl
      have hsmall : c.val.toNat < 128 := ascii
      rw [UInt32.toNat_add, hdistance]
      exact Nat.mod_eq_of_lt (by omega)
    rw [← Char.ofNat_toNat (Char.mk _ _)]
    exact congrArg Char.ofNat hval.symm
  · rw [if_neg h, dif_neg (mt hcapital.1 h)]

theorem lowerFrom_of_ascii {l : List Char} (ascii : ∀ c ∈ l, c.toNat < 128) (before : List Char) :
    lowerFrom before l = l.map Char.toLower := by
  induction l generalizing before with
  | nil => rfl
  | cons c rest ih =>
    obtain ⟨hc, hrest⟩ := List.forall_mem_cons.1 ascii
    have hne (d : Char) (hd : 128 ≤ d.toNat) : ¬ (c == d) = true := by
      rw [beq_iff_eq]
      rintro rfl
      omega
    rw [lowerFrom, ih hrest, List.map_cons, if_neg (hne _ (by decide)), if_neg (hne _ (by decide)),
      lowerChar_of_ascii hc]
    rfl

/-- An ASCII text is lowered character by character. -/
theorem lowercase_of_ascii {s : String} (ascii : ∀ c ∈ s.toList, c.toNat < 128) :
    (lowercase s).toList = s.toList.map Char.toLower := by
  rw [lowercase, lowerFrom_of_ascii ascii, String.toList_ofList]

end ServiceBinding.Text
