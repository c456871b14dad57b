import ServiceBinding.Proofs.Bytes
import ServiceBinding.Proofs.Text.Base64
import ServiceBinding.Proofs.Text.Splitting
import ServiceBinding.Text.Pem

/-!
PEM text is read back as it was written (`read?_writeAll`). Each mark is found where it stands,
because no hyphen comes before it; nothing that is written has an empty line, so that no payload
has headers; and the characters of a payload are those of its Base64 once the line breaks are left
out.
-/
namespace ServiceBinding.Text.Pem

/-- The octet of the hyphen, with which every mark begins. -/
def hyphen : UInt8 := 0x2D

/-- The octet of the line break. -/
def newline : UInt8 := 0x0A

/-! ### Searching -/

section Searching
variable {mark before rest seen : Bytes}

/-- A search goes on over octets none of which begins the mark. -/
theorem searchFrom_of_clear {first : UInt8} (begins : mark.head? = some first)
    (clear : first ∉ before) :
    searchFrom mark 0 seen (before ++ rest) = searchFrom mark 0 (before.reverse ++ seen) rest := by
  obtain ⟨tail, rfl⟩ := List.head?_eq_some_iff.1 begins
  induction before generalizing seen with
  | nil => rfl
  | cons b before ih =>
    rw [List.mem_cons, not_or] at clear
    rw [List.cons_append, searchFrom]
    have hb : ((first :: tail)[0]? == some b) = false := by simpa using clear.1
    rw [hb, if_neg Bool.false_ne_true, if_neg (by simp), ih clear.2, List.reverse_cons,
      List.append_assoc]
    rfl

/-- A search whose mark has been seen in part finds it when the other part follows. -/
theorem searchFrom_of_part (front : Bytes) {back : Bytes} (split : mark = front ++ back)
    (ne : back ≠ []) :
    searchFrom mark front.length (front.reverse ++ seen) (back ++ rest) =
      some (seen.reverse, rest) := by
  induction back generalizing front with
  | nil => exact absurd rfl ne
  | cons b back ih =>
    have hb : mark[front.length]? = some b := by simp [split]
    have hseen : b :: (front.reverse ++ seen) = (front ++ [b]).reverse ++ seen := by simp
    rw [List.cons_append, searchFrom]
    rw [hb, beq_self_eq_true, if_pos rfl, hseen]
    by_cases hback : back = []
    · subst hback
      rw [if_pos (by simp [split]), List.nil_append]
      simp
    · rw [if_neg, ← List.length_singleton (a := b), ← List.length_append]
      · exact ih _ (by simp [split]) hback
      · have := List.length_pos_of_ne_nil hback
        simp only [split, List.length_append, List.length_cons]
        omega

/-- A mark is found behind octets none of which begins it. -/
theorem search_append {mark : String} (begins : (Bytes.ofText mark).head? = some hyphen)
    (clear : hyphen ∉ before) (rest : Bytes) :
    search mark (before ++ (Bytes.ofText mark ++ rest)) = some (before, rest) := by
  have hne : Bytes.ofText mark ≠ [] := fun h => by rw [h] at begins; cases begins
  unfold search
  rw [searchFrom_of_clear begins clear]
  refine (searchFrom_of_part [] rfl hne).trans ?_
  simp

end Searching

/-! ### Lines of Base64 -/

/-- The octet of an ASCII character. -/
def octet (c : Char) : UInt8 := UInt8.ofNat c.toNat

/-- The octets that a search skips after a line. -/
def blanks : Bytes := [0x20, 0x09, 0x0D, 0x0A]

theorem octet_of_isPlain {c : Char} (h : Base64.IsPlain c) :
    octet c ≠ hyphen ∧ octet c ∉ blanks := by
  have hall : ∀ n < 128, Base64.IsPlain (Char.ofNat n) →
      octet (Char.ofNat n) ≠ hyphen ∧ octet (Char.ofNat n) ∉ blanks := by decide
  have := hall c.toNat h.2.2
  rw [Char.ofNat_toNat] at this
  exact this h

theorem mem_wrap {n : Nat} {s : List Char} {c : Char} (h : c ∈ wrap n s) : c ∈ s ∨ c = '\n' := by
  induction n generalizing s with
  | zero => cases h
  | succ n ih =>
    rw [wrap] at h
    split at h
    · cases h
    · rcases List.mem_append.1 h with h | h
      · exact .inl (List.mem_of_mem_take h)
      · rcases List.mem_cons.1 h with rfl | h
        · exact .inr rfl
        · exact (ih h).imp_left List.mem_of_mem_drop

/-- Without white space the lines are the characters that have been wrapped. -/
theorem filter_wrap {n : Nat} {s : List Char} (fits : s.length ≤ n)
    (plain : ∀ c ∈ s, Base64.IsPlain c) : (wrap n s).filter (!isBlank ·) = s := by
  have hself : ∀ {l : List Char}, (∀ c ∈ l, Base64.IsPlain c) → l.filter (!isBlank ·) = l :=
    fun h => List.filter_eq_self.2 fun c hc => by rw [(h c hc).1]; rfl
  induction n generalizing s with
  | zero =>
    obtain rfl := List.length_eq_zero_iff.1 (Nat.le_zero.1 fits)
    rfl
  | succ n ih =>
    rw [wrap]
    split
    · next hempty =>
      rw [List.isEmpty_iff.1 hempty]
      rfl
    · next hfilled =>
      have hrest : (s.drop 64).length ≤ n := by
        have := List.length_pos_of_ne_nil (mt List.isEmpty_iff.2 hfilled)
        rw [List.length_drop]
        omega
      rw [List.filter_append, hself fun c hc => plain c (List.mem_of_mem_take hc),
        List.filter_cons_of_neg (by decide), ih hrest fun c hc => plain c (List.mem_of_mem_drop hc),
        List.take_append_drop]

/-- No line that has been wrapped is empty. -/
theorem searchFrom_emptyLine {n found : Nat} {s : List Char} {seen : Bytes} (hf : found < 2)
    (plain : ∀ c ∈ s, Base64.IsPlain c) :
    searchFrom [newline, newline] found seen ((wrap n s).map octet) = none := by
  have hne : ∀ {l : List Char}, (∀ c ∈ l, Base64.IsPlain c) → newline ∉ l.map octet := by
    intro l hl h
    obtain ⟨c, hc, he⟩ := List.mem_map.1 h
    exact (octet_of_isPlain (hl c hc)).2 (he ▸ by decide)
  induction n generalizing s found seen with
  | zero => rfl
  | succ n ih =>
    rw [wrap]
    cases s with
    | nil => rfl
    | cons c s =>
      rw [List.forall_mem_cons] at plain
      have hc : ([newline, newline][found]? == some (octet c)) = false := by
        have hne' : newline ≠ octet c := fun h => (octet_of_isPlain plain.1).2 (h ▸ by decide)
        rcases found with _ | _ | found
        · simpa using hne'
        · simpa using hne'
        · omega
      have hline : newline ∉ (s.take 63).map octet :=
        hne fun c hc => plain.2 c (List.mem_of_mem_take hc)
      rw [if_neg (by simp), List.take_succ_cons, List.cons_append, List.map_cons, searchFrom, hc,
        if_neg Bool.false_ne_true, if_neg (by simp), List.map_append,
        searchFrom_of_clear rfl hline, List.map_cons, searchFrom]
      exact ih (by decide) fun c hc => plain.2 c (List.mem_of_mem_drop (i := 63) hc)

/-! ### Payloads -/

/-- The characters between the lines of a block. -/
def bodyChars (content : Bytes) : List Char :=
  wrap (Base64.encodeChars content).length (Base64.encodeChars content)

/-- The octets between the lines of a block. -/
def body (content : Bytes) : Bytes := (bodyChars content).map octet

section Payloads
variable {content : Bytes}

theorem mem_bodyChars {c : Char} (h : c ∈ bodyChars content) : Base64.IsPlain c ∨ c = '\n' :=
  (mem_wrap h).imp_left (Base64.isPlain_of_mem c)

theorem ofText_bodyChars : Bytes.ofText (String.ofList (bodyChars content)) = body content := by
  rw [Bytes.ofText_of_ascii, String.toList_ofList]
  · rfl
  · intro c hc
    rw [String.toList_ofList] at hc
    rcases mem_bodyChars hc with h | rfl
    · exact h.2.2
    · decide

theorem toText?_body : (body content).toText? = some (String.ofList (bodyChars content)) := by
  rw [← ofText_bodyChars]
  exact Bytes.toText?_ofText _

/-- Between the lines of a block are the octets of Base64 and line breaks. -/
theorem mem_body {a : UInt8} (h : a ∈ body content) : (a ≠ hyphen ∧ a ∉ blanks) ∨ a = newline := by
  obtain ⟨c, hc, rfl⟩ := List.mem_map.1 h
  rcases mem_bodyChars hc with hplain | rfl
  · exact .inl (octet_of_isPlain hplain)
  · exact .inr rfl

theorem hyphen_notMem_body : hyphen ∉ body content := by
  intro h
  rcases mem_body h with h | h
  · exact h.1 rfl
  · cases h

/-- A payload is all data. -/
theorem splitPayload_body : splitPayload (body content) = ([], body content) := by
  have hlines : search "\n\n" (body content) = none :=
    searchFrom_emptyLine (by decide) Base64.isPlain_of_mem
  have hreturns : search "\r\n\r\n" (body content) = none := by
    have hclear : (0x0D : UInt8) ∉ body content := by
      intro h
      rcases mem_body h with h | h
      · exact h.2 (by decide)
      · cases h
    have hbegins : (Bytes.ofText "\r\n\r\n").head? = some 0x0D := by decide
    unfold search
    rw [← List.append_nil (body content), searchFrom_of_clear hbegins hclear]
    rfl
  unfold splitPayload
  rw [hlines, hreturns]
  rfl

theorem areHeaders_empty : areHeaders "" = true := by
  decide +kernel

/-- Whether a text can be the label of a block: it is not empty and has no hyphen. -/
def IsLabel (label : String) : Prop := label ≠ "" ∧ hyphen ∉ Bytes.ofText label

instance (label : String) : Decidable (IsLabel label) := instDecidableAnd

/-- A block that is found as it was written is the block that was written. -/
theorem block?_body {label : String} (h : IsLabel label) :
    Found.block? ⟨Bytes.ofText label, body content, Bytes.ofText label⟩ =
      some ⟨label, content⟩ := by
  have hchars : (bodyChars content).filter (!isBlank ·) = Base64.encodeChars content :=
    filter_wrap (Nat.le_refl _) Base64.isPlain_of_mem
  have hempty : Bytes.toText? [] = some "" := Bytes.toText?_ofText ""
  unfold Found.block?
  rw [Bytes.toText?_ofText, splitPayload_body]
  simp [hempty, toText?_body, hchars, Base64.decodeChars?_encodeChars, areHeaders_empty, h.1]

end Payloads

/-! ### Blocks -/

theorem skipBlanks_newline (b : Bytes) : skipBlanks (newline :: b) = skipBlanks b :=
  List.dropWhile_cons_of_pos rfl

theorem skipBlanks_of_head {b : Bytes} (first : UInt8) (begins : b.head? = some first)
    (filled : first ∉ blanks) : skipBlanks b = b := by
  obtain ⟨tail, rfl⟩ := List.head?_eq_some_iff.1 begins
  refine List.dropWhile_cons_of_neg ?_
  simpa [blanks, not_or, and_assoc] using filled

/-- The octets of a block as it is written. -/
theorem ofText_write (label : String) (content : Bytes) :
    Bytes.ofText (write label content) =
      Bytes.ofText "-----BEGIN " ++ (Bytes.ofText label ++ (Bytes.ofText "-----" ++
        (newline :: (body content ++ (Bytes.ofText "-----END " ++ (Bytes.ofText label ++
          (Bytes.ofText "-----" ++ [newline]))))))) := by
  have hline : Bytes.ofText "-----\n" = Bytes.ofText "-----" ++ [newline] := by decide
  unfold write
  simp only [Bytes.ofText_append, hline, List.append_assoc, List.singleton_append]
  rw [← ofText_bodyChars]
  rfl

/-- What stands between the lines of a block does not begin with a blank. -/
theorem skipBlanks_body (content rest : Bytes) :
    skipBlanks (body content ++ (Bytes.ofText "-----END " ++ rest)) =
      body content ++ (Bytes.ofText "-----END " ++ rest) := by
  cases hchars : Base64.encodeChars content with
  | nil =>
    have hbody : body content = [] := by
      unfold body bodyChars
      rw [hchars]
      rfl
    rw [hbody]
    exact skipBlanks_of_head hyphen rfl (by decide)
  | cons c s =>
    have hbody : (body content).head? = some (octet c) := by
      unfold body bodyChars
      rw [hchars]
      rfl
    have hplain : Base64.IsPlain c :=
      Base64.isPlain_of_mem (b := content) c (hchars ▸ List.mem_cons_self)
    refine skipBlanks_of_head (octet c) ?_ (octet_of_isPlain hplain).2
    rw [List.head?_append, hbody]
    rfl

/-- The first block of a text is the one that is written first. -/
theorem findBlock_write {label : String} (h : IsLabel label) (content rest : Bytes) :
    findBlock (Bytes.ofText (write label content) ++ rest) =
      some (⟨Bytes.ofText label, body content, Bytes.ofText label⟩, skipBlanks rest) := by
  have hbegin (b : Bytes) : search "-----BEGIN " (Bytes.ofText "-----BEGIN " ++ b) = some ([], b) :=
    search_append (by decide) (List.not_mem_nil : hyphen ∉ ([] : Bytes)) b
  have hlabel (b : Bytes) : search "-----" (Bytes.ofText label ++ (Bytes.ofText "-----" ++ b)) =
      some (Bytes.ofText label, b) := search_append (by decide) h.2 b
  have hend (b : Bytes) : search "-----END " (body content ++ (Bytes.ofText "-----END " ++ b)) =
      some (body content, b) := search_append (by decide) hyphen_notMem_body b
  unfold findBlock
  rw [ofText_write]
  simp only [List.append_assoc, List.cons_append, List.nil_append, hbegin, hlabel,
    skipBlanks_newline, skipBlanks_body, hend, Option.bind_eq_bind, Option.bind_some,
    Option.pure_def]

/-- The octets of some blocks, one after the other. -/
def writeAll (blocks : List Block) : Bytes :=
  blocks.flatMap fun block => Bytes.ofText (write block.label block.content)

theorem skipBlanks_writeAll (blocks : List Block) :
    skipBlanks (writeAll blocks) = writeAll blocks := by
  cases blocks with
  | nil => rfl
  | cons block rest =>
    refine skipBlanks_of_head hyphen ?_ (by decide)
    unfold writeAll
    rw [List.flatMap_cons, ofText_write]
    rfl

/-- All blocks are found that are written. -/
theorem findBlocks_writeAll {blocks : List Block} (h : ∀ block ∈ blocks, IsLabel block.label)
    {n : Nat} (enough : blocks.length ≤ n) :
    findBlocks n (writeAll blocks) = blocks.map fun block =>
      ⟨Bytes.ofText block.label, body block.content, Bytes.ofText block.label⟩ := by
  induction blocks generalizing n with
  | nil => cases n <;> rfl
  | cons block rest ih =>
    obtain ⟨n, rfl⟩ := Nat.exists_eq_succ_of_ne_zero (Nat.ne_of_gt (Nat.lt_of_lt_of_le
      (Nat.succ_pos _) enough))
    rw [List.forall_mem_cons] at h
    have hfirst : findBlock (writeAll (block :: rest)) = some
        (⟨Bytes.ofText block.label, body block.content, Bytes.ofText block.label⟩,
          writeAll rest) := by
      unfold writeAll
      rw [List.flatMap_cons, findBlock_write h.1]
      exact congrArg (fun b => some (_, b)) (skipBlanks_writeAll rest)
    rw [findBlocks, hfirst, List.map_cons]
    dsimp only
    rw [ih h.2 (Nat.le_of_succ_le_succ enough)]

/-- A text has at least as many octets as blocks. -/
theorem length_le_writeAll (blocks : List Block) : blocks.length ≤ (writeAll blocks).length := by
  induction blocks with
  | nil => exact Nat.zero_le _
  | cons block rest ih =>
    unfold writeAll at ih ⊢
    rw [List.flatMap_cons, List.length_append, List.length_cons, ofText_write, List.length_append]
    have : (Bytes.ofText "-----BEGIN ").length = 11 := by decide
    omega

/-- **PEM loses nothing**: blocks with labels that are not empty and have no hyphen are read back as
they were written, whatever their octets are. -/
theorem read?_writeAll {blocks : List Block} (h : ∀ block ∈ blocks, IsLabel block.label) :
    read? (writeAll blocks) = some blocks := by
  unfold read?
  rw [findBlocks_writeAll h (length_le_writeAll blocks)]
  induction blocks with
  | nil => rfl
  | cons block rest ih =>
    rw [List.forall_mem_cons] at h
    rw [List.map_cons, List.mapM_cons, block?_body h.1, ih h.2]
    rfl

end ServiceBinding.Text.Pem
