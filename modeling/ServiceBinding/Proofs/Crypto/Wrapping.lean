import ServiceBinding.Crypto.Material
import ServiceBinding.Proofs.Crypto.Der

/-!
Elements are read back from whatever stands behind them, none of a tag and content is shorter than
the one that is written (`length_element_le_of_isElement`), and what has been read is all that there
is. So a wrapped RSA key, three elements in a row inside one, reads as just these
(`elements_read_back`).
-/
namespace ServiceBinding.Crypto

namespace Der

/-! ### Written elements -/

theorem read?_element (tag : UInt8) {content : Bytes} (rest : Bytes)
    (h : content.length < 256 ^ 8) :
    read? (element tag content ++ rest) = some ⟨tag, content, rest⟩ :=
  read?_eq_some_iff.2 ⟨_, isElement_element tag h, rfl⟩

/-- No length field of a number is shorter than the one that is written. -/
theorem length_lengthOctets_le_of_isLength {n : Nat} {field : Bytes} (h : IsLength n field) :
    (lengthOctets n).length ≤ field.length := by
  cases h with
  | @short n small =>
    have hnat : n.toNat < 0x80 := UInt8.lt_iff_toNat_lt.1 small
    rw [lengthOctets, if_pos hnat]
    exact Nat.le_refl 1
  | @long count octets least most =>
    have hlt := Bytes.value_lt octets
    have hword := hlt.trans_le (Nat.pow_le_pow_right (by decide : 0 < 256) most)
    unfold lengthOctets
    split
    · exact Nat.le_add_left 1 _
    · exact Nat.succ_le_succ ((length_minimal_le_iff hword).2 hlt)

theorem length_element_le_of_isElement {tag : UInt8} {content front : Bytes}
    (h : IsElement tag content front) : (element tag content).length ≤ front.length := by
  obtain ⟨length⟩ := h
  have := length_lengthOctets_le_of_isLength length
  rw [length_element, List.length_cons, List.length_append]
  omega

theorem length_element_le_add (tag : UInt8) (content : Bytes) :
    (element tag content).length ≤ content.length + 10 := by
  have hfield : (lengthOctets content.length).length ≤ 9 := by
    unfold lengthOctets
    split
    · exact Nat.le_add_left 1 8
    · exact Nat.succ_le_succ (length_minimal_le _)
  rw [length_element]
  omega

/-! ### Elements in a row -/

/-- What reading finds in some octets up to their end: elements of these tags and contents, one
after the other. -/
inductive Holds : List (UInt8 × Bytes) → Bytes → Prop
  | nil : Holds [] []
  | cons {e : Element} {elements : List (UInt8 × Bytes)} {b : Bytes} (first : read? b = some e)
    (others : Holds elements e.rest) : Holds ((e.tag, e.content) :: elements) b

theorem Holds.element (tag : UInt8) {content rest : Bytes} {elements : List (UInt8 × Bytes)}
    (h : content.length < 256 ^ 8) (others : Holds elements rest) :
    Holds ((tag, content) :: elements) (Der.element tag content ++ rest) :=
  .cons (read?_element tag rest h) others

theorem Holds.last (tag : UInt8) {content : Bytes} (h : content.length < 256 ^ 8) :
    Holds [(tag, content)] (Der.element tag content) := by
  have hlast := Holds.element tag h .nil
  rwa [List.append_nil] at hlast

/-! ### Object identifiers -/

/-- The numbers that some octets write after the digits of value `n`: seven bits an octet, the most
significant ones first, every octet of a number marked but its last one. -/
def numbersFrom (n : Nat) : Bytes → List Nat
  | [] => []
  | octet :: rest =>
    let n := n * 128 + octet.toNat % 128
    if 128 ≤ octet.toNat then numbersFrom n rest else n :: numbersFrom 0 rest

/-- The arcs of an object identifier. The first number stands for two of them. -/
def arcs (content : Bytes) : List Nat :=
  match numbersFrom 0 content with
  | [] => []
  | n :: rest => min (n / 40) 2 :: (n - 40 * min (n / 40) 2) :: rest

end Der

/-! ### Wrapped keys -/

namespace Material

/-- The octets of the identifier of RSA keys. -/
def rsaIdentifier : Bytes := [0x2A, 0x86, 0x48, 0x86, 0xF7, 0x0D, 0x01, 0x01, 0x01]

/-- What the octets that name the algorithm of RSA keys have in them. -/
def rsaNaming : Bytes := Der.element 0x06 rsaIdentifier ++ Der.element 0x05 []

theorem rsaAlgorithm_eq : rsaAlgorithm = Der.element Der.sequence rsaNaming := by decide

/-- What is around a key takes less room than a length field can count. -/
theorem length_content_lt {key : Bytes} (h : key.length < 2 ^ 63) :
    (Der.element Der.integer [0] ++ rsaAlgorithm ++ Der.element Der.octetString key).length <
      256 ^ 8 := by
  have hkey := Der.length_element_le_add Der.octetString key
  have hfront : (Der.element Der.integer [0] ++ rsaAlgorithm).length = 18 := by decide
  rw [List.length_append, hfront]
  omega

/-- A wrapped key is one element with three elements in it. -/
theorem holds_wrapRsa {key : Bytes} (h : key.length < 2 ^ 63) :
    ∃ content, Der.Holds [(Der.sequence, content)] (wrapRsa key) ∧
      Der.Holds [(Der.integer, [0]), (Der.sequence, rsaNaming), (Der.octetString, key)]
        content := by
  refine ⟨_, .last _ (length_content_lt h), ?_⟩
  rw [rsaAlgorithm_eq, List.append_assoc]
  exact .element _ (by decide) (.element _ (by decide) (.last _ (by omega)))

/-- The name of the algorithm of RSA keys is an object identifier without parameters. -/
theorem holds_rsaNaming : Der.Holds [(0x06, rsaIdentifier), (0x05, [])] rsaNaming :=
  .element 0x06 (by decide) (.last 0x05 (by decide))

end Material

/-- **Elements are read back**: for every tag, every content shorter than `2 ^ 64` octets and
whatever stands behind them, the element that is written is read as that tag and content, with the
rest left over, and no other element of them is shorter. An element is read from some octets just if
these are its tag, a field of one octet or of two to nine for the length of its content, the content
and the rest. And every RSA key shorter than `2 ^ 63` octets is wrapped in one sequence with nothing
behind it, in which there are the integer 0, a sequence of the identifier 1.2.840.113549.1.1.1 and
no parameters, an octet string with the key, and nothing else. -/
theorem elements_read_back :
    (∀ (tag : UInt8) (content rest : Bytes), content.length < 2 ^ 64 →
      Der.read? (Der.element tag content ++ rest) = some ⟨tag, content, rest⟩ ∧
        ∀ other, Der.IsElement tag content other →
          (Der.element tag content).length ≤ other.length) ∧
    (∀ (b : Bytes) (e : Der.Element), Der.read? b = some e ↔
      ∃ field, Der.IsLength e.content.length field ∧
        b = e.tag :: (field ++ e.content ++ e.rest)) ∧
    ∀ key : Bytes, key.length < 2 ^ 63 →
      ∃ content algorithm identifier,
        Der.Holds [(0x30, content)] (Material.wrapRsa key) ∧
        Der.Holds [(0x02, [0]), (0x30, algorithm), (0x04, key)] content ∧
        Der.Holds [(0x06, identifier), (0x05, [])] algorithm ∧
        Der.arcs identifier = [1, 2, 840, 113549, 1, 1, 1] := by
  refine ⟨fun tag content rest h => ⟨?_, fun _ => Der.length_element_le_of_isElement⟩,
    fun b e => ?_, fun key h => ?_⟩
  · exact Der.read?_element tag rest (by omega)
  · rw [Der.read?_eq_some_iff]
    constructor
    · rintro ⟨_, ⟨length⟩, rfl⟩
      exact ⟨_, length, rfl⟩
    · rintro ⟨field, length, rfl⟩
      exact ⟨_, .intro length, rfl⟩
  · obtain ⟨content, hwhole, hparts⟩ := Material.holds_wrapRsa h
    exact ⟨content, _, _, hwhole, hparts, Material.holds_rsaNaming, by decide⟩

/-- The first length in the long form, a length field with a leading zero, and a key. -/
theorem elements_read_back_longForm :
    let content : Bytes := List.replicate 128 9
    let padded : Bytes := [0x04, 0x82, 0, 1, 7, 8]
    let key : Bytes := [0x30, 0]
    content.length < 2 ^ 64 ∧
      Der.read? (Der.element 0x04 content ++ [7]) = some ⟨0x04, content, [7]⟩ ∧
      Der.IsElement 0x04 [7] [0x04, 0x82, 0, 1, 7] ∧
      (Der.element 0x04 [7]).length ≤ 5 ∧
      (∃ field, Der.IsLength 1 field ∧ padded = 0x04 :: (field ++ [7] ++ [8])) ∧
      key.length < 2 ^ 63 ∧ ∃ content, Der.Holds [(0x30, content)] (Material.wrapRsa key) := by
  intro content padded key
  have hcontent : content.length < 2 ^ 64 := List.length_replicate.trans_lt (by decide)
  have hkey : key.length < 2 ^ 63 := by decide
  have hfield : Der.IsLength 1 [0x82, 0, 1] :=
    @Der.IsLength.long 0x82 [0, 1] (by decide) (by decide) (by decide)
  have helement : Der.IsElement 0x04 [7] [0x04, 0x82, 0, 1, 7] :=
    @Der.IsElement.intro 0x04 [7] _ hfield
  obtain ⟨written, reads, wraps⟩ := elements_read_back
  obtain ⟨inner, _, _, hwhole, -⟩ := wraps key hkey
  exact ⟨hcontent, (written 0x04 content [7] hcontent).1, helement,
    (written 0x04 [7] [] (by decide)).2 _ helement,
    (reads padded ⟨0x04, [7], [8]⟩).1 (by decide), hkey, inner, hwhole⟩

end ServiceBinding.Crypto
