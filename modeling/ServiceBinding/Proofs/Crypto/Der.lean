import ServiceBinding.Crypto.Der
import ServiceBinding.Proofs.Bytes

/-!
DER elements as a relation between tags, contents and octets. Reading follows it exactly, whatever
comes behind (`read?_eq_some_iff`), and writing keeps to it for contents of up to `2^64` octets
(`isElement_element`). A written length has just the octets that it needs
(`length_minimal_le_iff`).
-/
namespace ServiceBinding.Crypto.Der

theorem value_minimal {n : Nat} (h : n < 256 ^ 8) : Bytes.value (minimal n) = n := by
  rw [minimal, Bytes.value_dropWhile_zero, Bytes.value_word h]

theorem length_minimal_le (n : Nat) : (minimal n).length ≤ 8 := by
  unfold minimal
  exact ((List.dropWhile_sublist _).length_le).trans (Bytes.length_word 8 n).le

/-- A long length takes between one octet and eight. -/
theorem minimal_ne_nil {n : Nat} (h : n < 256 ^ 8) (pos : n ≠ 0) : minimal n ≠ [] := by
  intro he
  have hv := value_minimal h
  rw [he] at hv
  exact pos hv.symm

/-- What is left after dropping zeros begins with another digit. -/
theorem pow_le_value_dropWhile {x : UInt8} {b rest : Bytes}
    (h : b.dropWhile (· == 0) = x :: rest) : 256 ^ rest.length ≤ Bytes.value (x :: rest) := by
  have hx : x ≠ 0 := by
    have hne : b.dropWhile (· == 0) ≠ [] := h ▸ List.cons_ne_nil x rest
    simpa [h] using List.head_dropWhile_not (· == 0) hne
  have hpos : 0 < x.toNat := Nat.pos_of_ne_zero fun h0 => hx (UInt8.toNat_inj.1 h0)
  rw [Bytes.value_cons]
  exact (Nat.le_mul_of_pos_left _ hpos).trans (Nat.le_add_right _ _)

/-- A number is written in as few octets as can count it. -/
theorem length_minimal_le_iff {n k : Nat} (h : n < 256 ^ 8) :
    (minimal n).length ≤ k ↔ n < 256 ^ k := by
  have hv := value_minimal h
  constructor
  · intro hk
    rw [← hv]
    exact (Bytes.value_lt _).trans_le (Nat.pow_le_pow_right (by decide) hk)
  · intro hn
    cases hm : minimal n with
    | nil => exact Nat.zero_le k
    | cons x rest =>
      have hle := pow_le_value_dropWhile hm
      rw [← hm, hv] at hle
      have := (Nat.pow_lt_pow_iff_right (by decide : 1 < 256)).1 (hle.trans_lt hn)
      rw [List.length_cons]
      omega

/-- A length of up to four octets takes one more. -/
theorem length_lengthOctets_le {n : Nat} (h : n < 256 ^ 4) : (lengthOctets n).length ≤ 5 := by
  have hm := (length_minimal_le_iff (h.trans (by decide))).2 h
  unfold lengthOctets
  split
  · exact Nat.le_add_left 1 4
  · exact Nat.succ_le_succ hm

/-- A length of more than three octets takes five. -/
theorem le_length_lengthOctets {n : Nat} (least : 256 ^ 3 ≤ n) (h : n < 256 ^ 8) :
    5 ≤ (lengthOctets n).length := by
  have hm : ¬ (minimal n).length ≤ 3 := fun hle =>
    absurd ((length_minimal_le_iff h).1 hle) (Nat.not_lt.2 least)
  unfold lengthOctets
  rw [if_neg (by omega), List.length_cons]
  omega

theorem length_element (tag : UInt8) (content : Bytes) : (element tag content).length =
    1 + (lengthOctets content.length).length + content.length := by
  rw [element, List.length_cons, List.length_append]
  omega

theorem length_element_le (tag : UInt8) (content : Bytes) :
    content.length ≤ (element tag content).length := by
  rw [length_element]
  omega

/-! ### Layout -/

/-- The length fields of a number. Long ones may begin with zeros. -/
inductive IsLength : Nat → Bytes → Prop
  | short {n : UInt8} (small : n < 0x80) : IsLength n.toNat [n]
  | long {count : UInt8} {octets : Bytes} (least : 1 ≤ octets.length) (most : octets.length ≤ 8)
    (counts : count.toNat = 0x80 + octets.length) : IsLength (Bytes.value octets) (count :: octets)

/-- The elements of a tag and a content. -/
inductive IsElement (tag : UInt8) (content : Bytes) : Bytes → Prop
  | intro {field : Bytes} (length : IsLength content.length field) :
    IsElement tag content (tag :: (field ++ content))

theorem readLength?_eq_some_iff {b rest : Bytes} {n : Nat} :
    readLength? b = some (n, rest) ↔ ∃ field, IsLength n field ∧ b = field ++ rest := by
  constructor
  · intro h
    cases b with
    | nil => cases h
    | cons first tail =>
      rw [readLength?] at h
      by_cases small : first < 0x80
      · rw [if_pos small] at h
        obtain ⟨rfl, rfl⟩ := Prod.mk.inj (Option.some.inj h)
        exact ⟨[first], .short small, rfl⟩
      · rw [if_neg small] at h
        dsimp only at h
        split at h
        · cases h
        · next hcount =>
          obtain ⟨rfl, rfl⟩ := Prod.mk.inj (Option.some.inj h)
          rw [UInt8.lt_iff_toNat_lt] at small
          have hlen : (tail.take (first.toNat - 0x80)).length = first.toNat - 0x80 := by
            rw [List.length_take]
            omega
          have hbase : (0x80 : UInt8).toNat = 0x80 := rfl
          refine ⟨first :: tail.take (first.toNat - 0x80), .long ?_ ?_ ?_, ?_⟩
          · omega
          · omega
          · omega
          · rw [List.cons_append, List.take_append_drop]
  · rintro ⟨field, hfield, rfl⟩
    cases hfield with
    | short small => rw [List.singleton_append, readLength?, if_pos small]
    | @long count octets least most counts =>
      have large : ¬ count < 0x80 := by
        rw [UInt8.lt_iff_toNat_lt, counts]
        exact Nat.not_lt.2 (Nat.le_add_right _ _)
      rw [List.cons_append, readLength?, if_neg large, counts, Nat.add_sub_cancel_left]
      dsimp only
      rw [if_neg (by rw [List.length_append]; omega), List.take_left, List.drop_left]

theorem read?_eq_some_iff {b : Bytes} {e : Element} :
    read? b = some e ↔ ∃ front, IsElement e.tag e.content front ∧ b = front ++ e.rest := by
  obtain ⟨tag, content, rest⟩ := e
  constructor
  · intro h
    cases b with
    | nil => cases h
    | cons first tail =>
      rw [read?, Option.bind_eq_bind, Option.bind_eq_some_iff] at h
      obtain ⟨⟨length, after⟩, hlength, h⟩ := h
      obtain ⟨field, hfield, rfl⟩ := readLength?_eq_some_iff.1 hlength
      dsimp only at h
      split at h
      · cases h
      · next hlen =>
        cases h
        have hcontent : (after.take length).length = length := by
          rw [List.length_take]
          omega
        refine ⟨tag :: (field ++ after.take length), .intro (by rwa [hcontent]), ?_⟩
        rw [List.cons_append, List.append_assoc, List.take_append_drop]
  · rintro ⟨front, ⟨hfield⟩, rfl⟩
    rw [List.cons_append, List.append_assoc, read?, Option.bind_eq_bind,
      readLength?_eq_some_iff.2 ⟨_, hfield, rfl⟩]
    show (if (content ++ rest).length < content.length then none else _) = _
    rw [if_neg (by rw [List.length_append]; omega), List.take_left, List.drop_left]
    rfl

theorem isLength_lengthOctets {n : Nat} (h : n < 256 ^ 8) : IsLength n (lengthOctets n) := by
  unfold lengthOctets
  by_cases hs : n < 0x80
  · have hnat : (UInt8.ofNat n).toNat = n := UInt8.toNat_ofNat_of_lt' (by rw [UInt8.size]; omega)
    have hsmall : UInt8.ofNat n < 0x80 := by
      rw [UInt8.lt_iff_toNat_lt, hnat]
      exact hs
    rw [if_pos hs]
    have hshort := IsLength.short hsmall
    rwa [hnat] at hshort
  · have hlen := length_minimal_le n
    have hpos : 0 < (minimal n).length := List.length_pos_iff.2 (minimal_ne_nil h (by omega))
    have hcount : (UInt8.ofNat (0x80 + (minimal n).length)).toNat = 0x80 + (minimal n).length :=
      UInt8.toNat_ofNat_of_lt' (by rw [UInt8.size]; omega)
    rw [if_neg hs]
    have hlong := IsLength.long hpos hlen hcount
    rwa [value_minimal h] at hlong

theorem isElement_element (tag : UInt8) {content : Bytes} (h : content.length < 256 ^ 8) :
    IsElement tag content (element tag content) :=
  .intro (isLength_lengthOctets h)

end ServiceBinding.Crypto.Der
