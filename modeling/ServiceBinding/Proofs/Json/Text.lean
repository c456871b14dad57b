import ServiceBinding.Proofs.Json.Records
import ServiceBinding.Proofs.Json.Tokens

/-!
Reading a text gives back the value that it was written for (`ofText?_render`), if the numbers of
the value are integers that fit and its objects list their keys in order (`Exact`), as all
declarations do when they are written.
-/
namespace ServiceBinding.Json

/-- A value whose numbers are integers of 64 bits, signed or unsigned, and whose objects list their
keys in increasing order. -/
inductive Exact : Json → Prop
  | null : Exact .null
  | bool (b : Bool) : Exact (.bool b)
  | natural {n : Nat} (fits : n < UInt64.size) : Exact (.num (.int n))
  | negative {n : Nat} (pos : 0 < n) (fits : n ≤ Int64.minValue.toInt.natAbs) :
    Exact (.num (.int (-n)))
  | str (s : String) : Exact (.str s)
  | arr {items : List Json} (each : ∀ j ∈ items, Exact j) : Exact (.arr items)
  | obj {members : List (String × Json)} (keys : members.Pairwise (fun a b => a.1 < b.1))
      (each : ∀ m ∈ members, Exact m.2) : Exact (.obj members)

namespace Reader

/-! ### One step of a reading -/

/-- Whether a character is neither white space nor the end of an array. -/
def Starts (c : Char) : Prop := c ∉ [' ', '\n', '\t', '\r', ']']

instance (c : Char) : Decidable (Starts c) := inferInstanceAs (Decidable (_ ∉ _))

theorem skip_of_starts {c : Char} (h : Starts c) (rest : Rest) : skip (c :: rest) = c :: rest := by
  simp only [Starts, List.mem_cons, List.not_mem_nil, or_false, not_or] at h
  simp [skip, h]

theorem starts_of_isDigit {c : Char} (h : c.isDigit = true) : Starts c := by
  intro hmem
  have hnone : ∀ c ∈ [' ', '\n', '\t', '\r', ']'], c.isDigit = false := by simp
  exact Bool.false_ne_true ((hnone c hmem).symm.trans h)

section Steps
variable (fuel : Nat) (rest : Rest)

theorem read?_string : read? (fuel + 1) .value ('"' :: rest) =
    (string? fuel [] rest).map fun r => (.str r.1, r.2) := by
  rw [read?, skip_of_starts (by decide), Option.map_eq_bind]
  rfl

theorem read?_minus : read? (fuel + 1) .value ('-' :: rest) =
    (number? true rest).map fun r => (.num r.1, r.2) := by
  rw [read?, skip_of_starts (by decide), Option.map_eq_bind]
  rfl

theorem read?_digit {c : Char} (digit : c.isDigit = true) :
    read? (fuel + 1) .value (c :: rest) =
      (number? false (c :: rest)).map fun r => (.num r.1, r.2) := by
  rw [read?, skip_of_starts (starts_of_isDigit digit), Option.map_eq_bind]
  split
  all_goals try
    -- The other values start with characters that are no digits.
    rename_i heq
    obtain ⟨rfl, -⟩ := List.cons.inj heq
    cases digit
  rfl

theorem read?_array {c : Char} (hc : Starts c) : read? (fuel + 1) .value ('[' :: c :: rest) =
    (read? fuel .value (c :: rest)).bind fun r => read? fuel (.items [r.1]) r.2 := by
  have hne : c ≠ ']' := by
    rintro rfl
    exact absurd hc (by decide)
  rw [read?, skip_of_starts (by decide)]
  simp [skip_of_starts hc, hne]

theorem read?_items_comma (read : List Json) : read? (fuel + 1) (.items read) (',' :: rest) =
    (read? fuel .value rest).bind fun r => read? fuel (.items (r.1 :: read)) r.2 := by
  rw [read?, skip_of_starts (by decide)]
  rfl

theorem read?_items_close (read : List Json) :
    read? (fuel + 1) (.items read) (']' :: rest) = some (.arr read.reverse, rest) := by
  have hskip : skip (']' :: rest) = ']' :: rest := rfl
  rw [read?, hskip]
  rfl

theorem read?_object : read? (fuel + 1) .value ('{' :: '"' :: rest) =
    read?.member fuel [] ('"' :: rest) := by
  rw [read?, skip_of_starts (by decide)]
  simp [skip_of_starts (by decide : Starts '"')]

theorem read?_members_comma (read : List (String × Json)) :
    read? (fuel + 1) (.members read) (',' :: rest) = read?.member fuel read rest := by
  rw [read?, skip_of_starts (by decide)]
  rfl

theorem read?_members_close (read : List (String × Json)) :
    read? (fuel + 1) (.members read) ('}' :: rest) = some (ofMembers read.reverse, rest) := by
  rw [read?, skip_of_starts (by decide)]
  rfl

theorem read?_member_colon (read : List (String × Json)) {key : String} {text : Rest}
    (h : string? fuel [] text = some (key, ':' :: rest)) :
    read?.member fuel read ('"' :: text) =
      (read? fuel .value rest).bind fun r => read? fuel (.members ((key, r.1) :: read)) r.2 := by
  rw [read?.member, skip_of_starts (by decide)]
  simp [h, skip_of_starts (by decide : Starts ':')]

end Steps

/-! ### Scalars -/

/-- Whether a value is read back in front of anything that can follow a value. -/
def ReadsBack (j : Json) : Prop :=
  ∀ fuel rest, (write j).length ≤ fuel → Ends rest →
    read? (fuel + 1) .value (write j ++ rest) = some (j, rest)

theorem toText_natural (n : Nat) : (Number.int n).toText.toList = Nat.toDigits 10 n := by
  show (toString n).toList = _
  rw [Nat.toString_eq_ofList_toDigits, String.toList_ofList]

theorem toText_negative {n : Nat} (pos : 0 < n) :
    (Number.int (-n)).toText.toList = '-' :: Nat.toDigits 10 n := by
  obtain ⟨n, rfl⟩ := Nat.exists_eq_add_one.2 pos
  show ("-" ++ toString (n + 1)).toList = _
  rw [Nat.toString_eq_ofList_toDigits, String.toList_append, String.toList_ofList,
    String.toList_ofList]
  rfl

theorem readsBack_null : ReadsBack .null := by
  intro fuel rest _ _
  show read? (fuel + 1) .value ('n' :: 'u' :: 'l' :: 'l' :: rest) = _
  rw [read?, skip_of_starts (by decide)]
  rfl

theorem readsBack_bool (b : Bool) : ReadsBack (.bool b) := by
  intro fuel rest _ _
  cases b with
  | false =>
    show read? (fuel + 1) .value ('f' :: 'a' :: 'l' :: 's' :: 'e' :: rest) = _
    rw [read?, skip_of_starts (by decide)]
    rfl
  | true =>
    show read? (fuel + 1) .value ('t' :: 'r' :: 'u' :: 'e' :: rest) = _
    rw [read?, skip_of_starts (by decide)]
    rfl

theorem readsBack_natural {n : Nat} (fits : n < UInt64.size) : ReadsBack (.num (.int n)) := by
  intro fuel rest _ ends
  have hread := number?_toDigits false fits ends
  obtain ⟨c, more, hdigits, hdigit, -⟩ := Text.leading_toDigits n
  rw [write, toText_natural]
  rw [hdigits, List.cons_append] at hread ⊢
  rw [read?_digit fuel _ hdigit, hread]
  rfl

theorem readsBack_negative {n : Nat} (pos : 0 < n) (fits : n ≤ Int64.minValue.toInt.natAbs) :
    ReadsBack (.num (.int (-n))) := by
  intro fuel rest _ ends
  have hword : n < UInt64.size := Nat.lt_of_le_of_lt fits (by decide)
  rw [write, toText_negative pos, List.cons_append, read?_minus, number?_toDigits true hword ends,
    toInteger?_negative pos fits]
  rfl

theorem string?_writeText (s : String) (fuel : Nat) (rest : Rest)
    (h : (writeText s).length ≤ fuel) :
    string? fuel [] (s.toList.flatMap writeChar ++ '"' :: rest) = some (s, rest) := by
  have hlength : (writeText s).length = (s.toList.flatMap writeChar).length + 2 := by
    rw [writeText, List.length_append, List.length_cons, List.length_singleton]
  rw [string?_written [] rest (by omega), List.reverse_nil, List.nil_append, String.ofList_toList]

theorem writeText_append (s : String) (rest : Rest) :
    writeText s ++ rest = '"' :: (s.toList.flatMap writeChar ++ '"' :: rest) := by
  rw [writeText, List.append_assoc]
  rfl

theorem readsBack_str (s : String) : ReadsBack (.str s) := by
  intro fuel rest hfuel _
  rw [write, writeText_append, read?_string, string?_writeText s fuel rest hfuel]
  rfl

/-! ### Arrays -/

/-- A value says with its first character that it is one. -/
theorem write_starts {j : Json} (h : j.Exact) : ∃ c rest, write j = c :: rest ∧ Starts c := by
  cases h with
  | null => exact ⟨_, _, rfl, by decide⟩
  | bool b => cases b <;> exact ⟨_, _, rfl, by decide⟩
  | @natural n =>
    obtain ⟨c, more, hdigits, hdigit, -⟩ := Text.leading_toDigits n
    exact ⟨c, more, (toText_natural n).trans hdigits, starts_of_isDigit hdigit⟩
  | negative pos => exact ⟨_, _, toText_negative pos, by decide⟩
  | str s => exact ⟨_, _, rfl, by decide⟩
  | arr => exact ⟨_, _, rfl, by decide⟩
  | obj => exact ⟨_, _, rfl, by decide⟩

theorem writeItems_cons (j : Json) (rest : List Json) :
    writeItems (j :: rest) = write j ++ rest.flatMap (',' :: write ·) := by
  induction rest generalizing j with
  | nil => exact (List.append_nil _).symm
  | cons k rest ih =>
    rw [writeItems, ih, List.flatMap_cons]
    · rfl
    · exact List.cons_ne_nil k rest

/-- What follows a value among others. -/
theorem ends_flatMap {α : Type} (f : α → List Char) (l : List α) {c : Char} (rest : Rest)
    (h : c = ']' ∨ c = '}') : Ends (l.flatMap (',' :: f ·) ++ c :: rest) := by
  cases l with
  | nil => exact fun _ hd => Option.mem_some_iff.1 hd ▸ .inr h
  | cons a more => exact fun _ hd => .inl (Option.mem_some_iff.1 hd).symm

/-- The items of an array after the first ones. -/
theorem read?_items {items : List Json} (each : ∀ j ∈ items, ReadsBack j) {fuel : Nat}
    (read : List Json) (rest : Rest)
    (hfuel : (items.flatMap (',' :: write ·)).length < fuel) :
    read? fuel (.items read) (items.flatMap (',' :: write ·) ++ ']' :: rest) =
      some (.arr (read.reverse ++ items), rest) := by
  induction items generalizing read fuel with
  | nil =>
    obtain ⟨fuel, rfl⟩ := Nat.exists_eq_add_one.2 hfuel
    rw [List.flatMap_nil, List.nil_append, read?_items_close, List.append_nil]
  | cons j more ih =>
    obtain ⟨hj, hmore⟩ := List.forall_mem_cons.1 each
    rw [List.flatMap_cons, List.length_append, List.length_cons] at hfuel
    obtain ⟨fuel, rfl⟩ : ∃ k, fuel = k + 2 := ⟨fuel - 2, by omega⟩
    rw [List.flatMap_cons, List.cons_append, List.cons_append, List.append_assoc,
      read?_items_comma, hj fuel _ (by omega) (ends_flatMap write more rest (.inl rfl)),
      Option.bind_some, ih hmore (j :: read) (by omega), List.reverse_cons, List.append_assoc,
      List.singleton_append]

theorem readsBack_arr {items : List Json} (exact : ∀ j ∈ items, Exact j)
    (each : ∀ j ∈ items, ReadsBack j) : ReadsBack (.arr items) := by
  intro fuel rest hfuel _
  rw [write, List.length_append, List.length_cons] at hfuel
  rw [write, List.append_assoc, List.cons_append, List.singleton_append]
  cases items with
  | nil =>
    rw [read?, skip_of_starts (by decide)]
    rfl
  | cons j more =>
    obtain ⟨hj, hmore⟩ := List.forall_mem_cons.1 each
    rw [writeItems_cons, List.length_append] at hfuel
    obtain ⟨fuel, rfl⟩ : ∃ k, fuel = k + 1 := ⟨fuel - 1, by omega⟩
    obtain ⟨c, text, htext, hc⟩ := write_starts (exact j List.mem_cons_self)
    have hitem := hj fuel _ (by omega) (ends_flatMap write more rest (.inl rfl))
    rw [writeItems_cons, List.append_assoc]
    rw [htext, List.cons_append] at hitem ⊢
    rw [read?_array _ _ hc, hitem, Option.bind_some, read?_items hmore [j] rest (by omega)]
    rfl

/-! ### Objects -/

/-- A member of an object. -/
def writeMember (m : String × Json) : List Char := writeText m.1 ++ ':' :: write m.2

theorem writeMembers_cons (m : String × Json) (rest : List (String × Json)) :
    writeMembers (m :: rest) = writeMember m ++ rest.flatMap (',' :: writeMember ·) := by
  induction rest generalizing m with
  | nil => exact (List.append_nil _).symm
  | cons n rest ih =>
    rw [writeMembers, ih, List.flatMap_cons]
    · rfl
    · exact List.cons_ne_nil n rest

/-- One member of an object, after the first ones. -/
theorem read?_member {m : String × Json} (h : ReadsBack m.2) (fuel : Nat)
    (read : List (String × Json)) {rest : Rest} (hfuel : (writeMember m).length ≤ fuel)
    (ends : Ends rest) :
    read?.member fuel read (writeMember m ++ rest) = read? fuel (.members (m :: read)) rest := by
  rw [writeMember, List.length_append, List.length_cons] at hfuel
  obtain ⟨fuel, rfl⟩ : ∃ k, fuel = k + 1 := ⟨fuel - 1, by omega⟩
  have hkey := string?_writeText m.1 (fuel + 1) (':' :: (write m.2 ++ rest)) (by omega)
  rw [writeMember, List.append_assoc, List.cons_append, writeText_append,
    read?_member_colon _ _ _ hkey, h fuel rest (by omega) ends]
  rfl

/-- The members of an object after the first ones. -/
theorem read?_members {members : List (String × Json)} (each : ∀ m ∈ members, ReadsBack m.2)
    {fuel : Nat} (read : List (String × Json)) (rest : Rest)
    (hfuel : (members.flatMap (',' :: writeMember ·)).length < fuel) :
    read? fuel (.members read) (members.flatMap (',' :: writeMember ·) ++ '}' :: rest) =
      some (ofMembers (read.reverse ++ members), rest) := by
  induction members generalizing read fuel with
  | nil =>
    obtain ⟨fuel, rfl⟩ := Nat.exists_eq_add_one.2 hfuel
    rw [List.flatMap_nil, List.nil_append, read?_members_close, List.append_nil]
  | cons m more ih =>
    obtain ⟨hm, hmore⟩ := List.forall_mem_cons.1 each
    obtain ⟨fuel, rfl⟩ := Nat.exists_eq_add_one.2 (Nat.zero_lt_of_lt hfuel)
    rw [List.flatMap_cons, List.length_append, List.length_cons] at hfuel
    rw [List.flatMap_cons, List.cons_append, List.cons_append, List.append_assoc,
      read?_members_comma,
      read?_member hm fuel read (by omega) (ends_flatMap writeMember more rest (.inr rfl)),
      ih hmore (m :: read) (by omega), List.reverse_cons, List.append_assoc,
      List.singleton_append]

theorem ofMembers_sorted {members : List (String × Json)}
    (keys : members.Pairwise (fun a b => a.1 < b.1)) : ofMembers members = .obj members :=
  congrArg (fun d : Dict Json => obj d.entries) (Dict.ofList_entries ⟨members, keys⟩)

theorem readsBack_obj {members : List (String × Json)}
    (keys : members.Pairwise (fun a b => a.1 < b.1)) (each : ∀ m ∈ members, ReadsBack m.2) :
    ReadsBack (.obj members) := by
  intro fuel rest hfuel _
  rw [write, List.length_append, List.length_cons] at hfuel
  rw [write, List.append_assoc, List.cons_append, List.singleton_append]
  cases members with
  | nil =>
    rw [read?, skip_of_starts (by decide)]
    rfl
  | cons m more =>
    obtain ⟨hm, hmore⟩ := List.forall_mem_cons.1 each
    rw [writeMembers_cons, List.length_append] at hfuel
    have hmember := read?_member hm fuel [] (by omega)
      (ends_flatMap writeMember more rest (.inr rfl))
    rw [writeMembers_cons, List.append_assoc]
    rw [writeMember, List.append_assoc, writeText_append] at hmember ⊢
    rw [read?_object, hmember, read?_members hmore [m] rest (by omega)]
    exact congrArg (fun j => some (j, rest)) (ofMembers_sorted keys)

/-! ### Whole texts -/

theorem readsBack_of_exact {j : Json} (h : j.Exact) : ReadsBack j := by
  induction h with
  | null => exact readsBack_null
  | bool b => exact readsBack_bool b
  | natural fits => exact readsBack_natural fits
  | negative pos fits => exact readsBack_negative pos fits
  | str s => exact readsBack_str s
  | arr exact ih => exact readsBack_arr exact ih
  | obj keys _ ih => exact readsBack_obj keys ih

/-- Reading the text of an exact value gives back the value. -/
theorem ofText?_render {j : Json} (h : j.Exact) : ofText? j.render = some j := by
  have hlength : j.render.length = (write j).length := String.length_ofList
  have hread := readsBack_of_exact h j.render.length [] hlength.ge nofun
  rw [List.append_nil] at hread
  have hlist : j.render.toList = write j := String.toList_ofList
  unfold ofText?
  rw [hlist, hread]
  rfl

end Reader

/-! ### What is written exactly -/

attribute [simp] Exact.bool Exact.str

/-- An optional member that is exact if it is there. -/
def MemberExact (member : Option Json) : Prop := ∀ j, member = some j → j.Exact

@[simp] theorem memberExact_some {j : Json} : MemberExact (some j) ↔ j.Exact := by
  simp [MemberExact]

@[simp] theorem memberExact_map {α : Type} {write : α → Json} (each : ∀ a, (write a).Exact)
    (member : Option α) : MemberExact (member.map write) := by
  intro j hj
  obtain ⟨a, _, rfl⟩ := Option.map_eq_some_iff.1 hj
  exact each a

@[simp] theorem memberExact_none : MemberExact none := nofun

@[simp] theorem memberExact_ite {p : Prop} [Decidable p] {a b : Option Json} (ha : MemberExact a)
    (hb : MemberExact b) : MemberExact (if p then a else b) := by
  split
  · exact ha
  · exact hb

theorem exact_record {members : List (String × Option Json)}
    (keys : (members.map (·.1)).Pairwise (· < ·)) (each : ∀ m ∈ members, MemberExact m.2) :
    (record members).Exact := by
  refine .obj ((List.pairwise_map.1 keys).filterMap _ ?_)
    fun m hm => each _ (mem_filterMap_iff.1 hm) m.2 rfl
  rintro a b hlt _ ha _ hb
  obtain ⟨_, -, rfl⟩ := Option.map_eq_some_iff.1 ha
  obtain ⟨_, -, rfl⟩ := Option.map_eq_some_iff.1 hb
  exact hlt

@[simp] theorem exact_ofList {α : Type} {write : α → Json} (each : ∀ a, (write a).Exact)
    (l : List α) : (ofList write l).Exact := by
  refine .arr fun j hj => ?_
  obtain ⟨a, _, rfl⟩ := List.mem_map.1 hj
  exact each a

@[simp] theorem exact_textDict (d : Dict String) : (textDict d).Exact := by
  refine .obj (List.pairwise_map.2 d.sorted) fun m hm => ?_
  obtain ⟨e, _, rfl⟩ := List.mem_map.1 hm
  exact .str e.2

@[simp] theorem exact_int32 (n : Int32) : (int32 n).Exact := by
  have hlower : Int32.minValue.toInt ≤ n.toInt := n.minValue_le_toInt
  have hupper : n.toInt ≤ Int32.maxValue.toInt := n.toInt_le
  unfold int32 int
  obtain ⟨m, hm | hm⟩ := n.toInt.eq_nat_or_neg
  · rw [hm] at hupper ⊢
    have hmax : Int32.maxValue.toInt.toNat < UInt64.size := by decide
    exact .natural (by omega)
  · rw [hm] at hlower ⊢
    have hmin : Int32.minValue.toInt.natAbs ≤ Int64.minValue.toInt.natAbs := by decide
    obtain rfl | hpos := Nat.eq_zero_or_pos m
    · exact .natural (n := 0) (by decide)
    · exact .negative hpos (by omega)

end ServiceBinding.Json
