import Mathlib.Data.List.Chain
import ServiceBinding.Binding.Path
import ServiceBinding.Proofs.Results
import ServiceBinding.Proofs.Text.Numeral
import ServiceBinding.Proofs.Text.Splitting

/-!
The grammar of path expressions. A body is a sequence of fields, bracket groups and dots, each dot
behind a field or a group and none at the end (`Arranged`); fields and groups write one step each
(`Writes`). The reader looks at one character at a time and never back, and it accepts just these
bodies, with just these steps (`steps?_eq_ok_iff`). Braces and the leading dot make no difference,
and all steps that can be written at all can be written in brackets (`parse_grammar`).
-/
namespace ServiceBinding.Binding.Path
open Text

/-! ### Bodies -/

/-- A part of a body. -/
inductive Part where
  | field (name : List Char)
  | brackets (content : List Char)
  | dot
deriving DecidableEq, Repr

/-- A part as it is written. -/
def Part.text : Part → List Char
  | .field name => name
  | .brackets content => '[' :: content ++ [']']
  | .dot => ['.']

/-- Parts as they are written, one behind the other. -/
def written (parts : List Part) : List Char := parts.flatMap Part.text

/-- The characters of which fields are made. -/
def IsPlain (c : Char) : Prop := c ≠ '.' ∧ c ≠ '[' ∧ c ≠ ']'

/-- Whether the content of a pair of brackets writes a step: but for white space at its ends it is
an index, or a name in quotes. -/
inductive Denotes (content : List Char) : Step → Prop
  | index {i : Nat} (numeral : IsNumeral UInt64.size (trimWhere isBlank content) i) :
    Denotes content (.index i)
  | name {quote : Char} {name : List Char} (mark : quote = '\'' ∨ quote = '"') (ne : name ≠ [])
      (quoted : trimWhere isBlank content = quote :: name ++ [quote]) :
    Denotes content (.field (String.ofList name))

/-- Whether parts write some steps, in their order. -/
inductive Writes : List Part → List Step → Prop
  | nil : Writes [] []
  | field {name : List Char} {parts : List Part} {steps : List Step} (ne : name ≠ [])
      (plain : ∀ c ∈ name, IsPlain c) (rest : Writes parts steps) :
    Writes (.field name :: parts) (.field (String.ofList name) :: steps)
  | brackets {content : List Char} {step : Step} {parts : List Part} {steps : List Step}
      (closed : ']' ∉ content) (denotes : Denotes content step) (rest : Writes parts steps) :
    Writes (.brackets content :: parts) (step :: steps)
  | dot {parts : List Part} {steps : List Step} (rest : Writes parts steps) :
    Writes (.dot :: parts) steps

/-- Whether a part may stand directly before another: fields are as long as they can be, and a dot
is behind a field or a bracket group. -/
def Part.MayPrecede : Part → Part → Prop
  | .field _, .field _ => False
  | .dot, .dot => False
  | _, _ => True

/-- Whether parts make up a body. -/
structure Arranged (parts : List Part) : Prop where
  nonempty : parts ≠ []
  apart : parts.IsChain Part.MayPrecede
  start : parts.head? ≠ some .dot
  finish : parts.getLast? ≠ some .dot

/-- Whether a text is a body in braces, or one that has none at its ends. -/
def Encloses (text body : List Char) : Prop :=
  text = '{' :: body ++ ['}'] ∨
    text = body ∧ body.head? ≠ some '{' ∧ body.getLast? ≠ some '}'

/-- Whether a body asks for a single value. -/
def IsSingleValued (body : List Char) : Prop :=
  ¬ ['.', '.'] <:+: body ∧ '*' ∉ body ∧ '?' ∉ body

/-- A body without a dot that it starts with. -/
def undotted : List Char → List Char
  | '.' :: rest => rest
  | body => body

/-- Whether a text is a path expression of some steps. -/
def Expresses (raw : List Char) (steps : List Step) : Prop :=
  ∃ body parts, Encloses (trimWhere isBlank raw) body ∧ IsSingleValued body ∧
    undotted body = written parts ∧ Arranged parts ∧ Writes parts steps

/-! ### Bracket groups -/

section Brackets
variable {content name inner : List Char} {quote : Char} {step : Step}

theorem unquote?_eq_some_iff :
    unquote? quote inner = some name ↔ inner = quote :: name ++ [quote] := by
  cases inner with
  | nil => simp [unquote?]
  | cons first rest =>
    rw [unquote?, List.cons_append, List.cons.injEq]
    by_cases h : first = quote ∧ rest.getLast? = some quote
    · rw [if_pos h, and_iff_right h.1, Option.some_inj]
      obtain ⟨init, rfl⟩ := List.getLast?_eq_some_iff.1 h.2
      rw [List.dropLast_concat, List.append_left_inj]
    · rw [if_neg h]
      refine iff_of_false nofun ?_
      rintro ⟨rfl, rfl⟩
      exact h ⟨rfl, List.getLast?_concat⟩

/-- A name in quotes is no numeral. -/
theorem not_isNumeral_of_quoted {bound i : Nat} (mark : quote = '\'' ∨ quote = '"')
    (numeral : IsNumeral bound (quote :: inner) i) : False := by
  obtain ⟨digits, -, hdigits, h | h, -, -⟩ := numeral
  · have hquote := hdigits quote (h ▸ List.mem_cons_self)
    rcases mark with rfl | rfl <;> revert hquote <;> decide
  · have hsign := (List.cons.inj h).1
    rcases mark with rfl | rfl <;> revert hsign <;> decide

/-- The content of brackets is read as the step that it writes. -/
theorem bracket?_eq_some_iff : bracket? content = some step ↔ Denotes content step := by
  unfold bracket?
  dsimp only
  constructor
  · intro h
    split at h
    · next i hi =>
      cases h
      exact .index (numeral?_eq_some_iff.1 hi)
    · split at h
      · cases h
      · next name ne hname =>
        cases h
        rcases Option.or_eq_some_iff.1 hname with hname | ⟨-, hname⟩
        · exact .name (.inl rfl) ne (unquote?_eq_some_iff.1 hname)
        · exact .name (.inr rfl) ne (unquote?_eq_some_iff.1 hname)
      · cases h
  · intro h
    cases h with
    | index numeral => rw [numeral?_eq_some_iff.2 numeral]
    | @name quote name mark ne quoted =>
      have hnumeral : numeral? UInt64.size (trimWhere isBlank content) = none := by
        rw [Option.eq_none_iff_forall_ne_some]
        intro i hi
        rw [quoted] at hi
        exact not_isNumeral_of_quoted mark (numeral?_eq_some_iff.1 hi)
      have hname : (unquote? '\'' (trimWhere isBlank content)).or
          (unquote? '"' (trimWhere isBlank content)) = some name := by
        rcases mark with rfl | rfl
        · rw [unquote?_eq_some_iff.2 quoted, Option.some_or]
        · have hsingle : unquote? '\'' (trimWhere isBlank content) = none := by
            rw [Option.eq_none_iff_forall_ne_some]
            intro other hother
            have hmark := (List.cons.inj (quoted.symm.trans (unquote?_eq_some_iff.1 hother))).1
            exact absurd hmark (by decide)
          rw [hsingle, Option.none_or, unquote?_eq_some_iff.2 quoted]
      rw [hnumeral, hname]
      cases name with
      | nil => exact absurd rfl ne
      | cons c rest => rfl

end Brackets

/-! ### Reading parts -/

section Scanning
variable {field inner content rest : List Char} {afterBracket : Bool} {parts : List Part}
  {steps : List Step}

theorem written_cons (part : Part) (parts : List Part) :
    written (part :: parts) = part.text ++ written parts := List.flatMap_cons

/-- The part that ends where a field does, if anything has been read of it. -/
def finished (field : List Char) : List Part := if field.isEmpty then [] else [.field field]

theorem writes_finished (plain : ∀ c ∈ field, IsPlain c) (rest : Writes parts steps) :
    Writes (finished field ++ parts) (finish field ++ steps) := by
  cases field with
  | nil => exact rest
  | cons c field => exact .field (List.cons_ne_nil c field) plain rest

theorem written_finished (field : List Char) (parts : List Part) :
    written (finished field ++ parts) = field ++ written parts := by
  cases field <;> rfl

/-- A field stands before dots and bracket groups, and nothing else changes at the end. -/
theorem isChain_finished {part : Part} (h : (part :: parts).IsChain Part.MayPrecede)
    (other : ∀ name, part ≠ .field name) :
    (finished field ++ part :: parts).IsChain Part.MayPrecede := by
  cases field with
  | nil => exact h
  | cons c field =>
    refine List.isChain_cons_cons.2 ⟨?_, h⟩
    cases part with
    | field name => exact absurd rfl (other name)
    | brackets => trivial
    | dot => trivial

theorem getLast?_finished {part : Part} :
    (finished field ++ part :: parts).getLast? = (part :: parts).getLast? := by
  cases field <;> rfl

/-- A text that begins with a plain character does not begin with a dot. -/
theorem head?_ne_dot {c : Char} (plain : IsPlain c) (h : c :: rest = written parts) :
    parts.head? ≠ some .dot := by
  cases parts with
  | nil => exact nofun
  | cons part parts =>
    intro hpart
    obtain rfl : part = .dot := Option.some.inj hpart
    exact plain.1 (List.cons.inj h).1

/-- Whether parts are such that their steps can be what is read from a position on. -/
def Follows : Position → List Char → List Part → Prop
  | .outside field afterBracket, s, parts =>
    field ++ s = written parts ∧ parts.IsChain Part.MayPrecede ∧ parts.getLast? ≠ some .dot ∧
      (field = [] → afterBracket = false → parts.head? ≠ some .dot)
  | .inside inner, s, parts =>
    '[' :: inner ++ s = written parts ∧ parts.IsChain Part.MayPrecede ∧
      parts.getLast? ≠ some .dot ∧ ∃ content, parts.head? = some (.brackets content)

/-- Whether what has been read at a position can be the beginning of a part. -/
def Begun : Position → Prop
  | .outside field _ => ∀ c ∈ field, IsPlain c
  | .inside inner => ']' ∉ inner

/-- What is read are the steps that the parts of a text write. -/
theorem exists_parts_of_scan {pos : Position} {s : List Char} (begun : Begun pos)
    (h : scan pos s = .ok steps) : ∃ parts, Writes parts steps ∧ Follows pos s parts := by
  fun_induction scan pos s generalizing steps with
  | case1 field afterBracket =>
    cases h
    refine ⟨finished field ++ [], ?_, ?_, ?_, ?_, ?_⟩
    · rw [← List.append_nil (finish field)]
      exact writes_finished begun .nil
    · exact (written_finished field []).symm
    all_goals cases field <;> simp [finished]
  | case2 | case3 | case4 | case7 | case9 => cases h
  | case5 field afterBracket rest behind more ih =>
    obtain ⟨others, hrest, hsteps⟩ := bind_eq_ok.1 h
    cases hsteps
    obtain ⟨parts, hwrites, hwritten, hchain, hlast, hhead⟩ :=
      ih (List.forall_mem_nil _) hrest
    obtain ⟨part, parts, rfl⟩ : ∃ part parts', parts = part :: parts' := by
      refine List.exists_cons_of_ne_nil ?_
      rintro rfl
      exact more (List.isEmpty_iff.2 hwritten)
    have hpart : part ≠ .dot := fun h => hhead rfl rfl (congrArg some h)
    have hdot : (Part.dot :: part :: parts).IsChain Part.MayPrecede := by
      refine List.isChain_cons_cons.2 ⟨?_, hchain⟩
      cases part with
      | dot => exact absurd rfl hpart
      | field | brackets => trivial
    refine ⟨finished field ++ .dot :: part :: parts, writes_finished begun (.dot hwrites), ?_,
      isChain_finished hdot nofun, ?_, ?_⟩
    · rw [written_finished, written_cons, ← hwritten]
      rfl
    · rw [getLast?_finished, List.getLast?_cons_cons]
      exact hlast
    · rintro rfl rfl
      exact absurd rfl behind
  | case6 field afterBracket rest _ ih =>
    obtain ⟨others, hrest, hsteps⟩ := bind_eq_ok.1 h
    cases hsteps
    obtain ⟨parts, hwrites, hwritten, hchain, hlast, content, hhead⟩ :=
      ih List.not_mem_nil hrest
    obtain ⟨parts, rfl⟩ := List.head?_eq_some_iff.1 hhead
    refine ⟨finished field ++ .brackets content :: parts, writes_finished begun hwrites, ?_,
      isChain_finished hchain nofun, ?_, ?_⟩
    · rw [written_finished, ← hwritten]
      rfl
    · rw [getLast?_finished]
      exact hlast
    · rintro rfl -
      exact nofun
  | case8 field afterBracket c rest hdot hopen hclose ih =>
    have plain : IsPlain c := ⟨hdot, hopen, hclose⟩
    have begun' : Begun (.outside (field ++ [c]) false) := by
      intro c' hc'
      rcases List.mem_append.1 hc' with hc' | hc'
      · exact begun c' hc'
      · rw [List.mem_singleton.1 hc']
        exact plain
    obtain ⟨parts, hwrites, hwritten, hchain, hlast, -⟩ := ih begun' h
    rw [List.append_assoc] at hwritten
    refine ⟨parts, hwrites, hwritten, hchain, hlast, ?_⟩
    rintro rfl -
    exact head?_ne_dot plain hwritten
  | case10 inner rest step hstep ih =>
    obtain ⟨others, hrest, hsteps⟩ := bind_eq_ok.1 h
    cases hsteps
    obtain ⟨parts, hwrites, hwritten, hchain, hlast, -⟩ :=
      ih (List.forall_mem_nil _) hrest
    refine ⟨.brackets inner :: parts, .brackets begun (bracket?_eq_some_iff.1 hstep) hwrites, ?_,
      ?_, ?_, inner, rfl⟩
    · rw [written_cons, ← hwritten]
      simp [Part.text]
    · refine List.isChain_cons.2 ⟨fun part _ => ?_, hchain⟩
      cases part <;> trivial
    · cases parts with
      | nil => exact nofun
      | cons part parts =>
        rw [List.getLast?_cons_cons]
        exact hlast
  | case11 inner c rest hclose ih =>
    have begun' : Begun (.inside (inner ++ [c])) := by
      rw [Begun, List.mem_append, List.mem_singleton, not_or]
      exact ⟨begun, Ne.symm hclose⟩
    obtain ⟨parts, hwrites, hwritten, hchain, hlast, hhead⟩ := ih begun' h
    refine ⟨parts, hwrites, ?_, hchain, hlast, hhead⟩
    rw [← hwritten]
    simp

/-- Plain characters are read into the field. -/
theorem scan_plain {run : List Char} (ne : run ≠ []) (plain : ∀ c ∈ run, IsPlain c) :
    scan (.outside field afterBracket) (run ++ rest) =
      scan (.outside (field ++ run) false) rest := by
  induction run generalizing field afterBracket with
  | nil => exact absurd rfl ne
  | cons c run ih =>
    obtain ⟨⟨hdot, hopen, hclose⟩, hrun⟩ := List.forall_mem_cons.1 plain
    rw [List.cons_append, scan, if_neg hdot, if_neg hopen, if_neg hclose]
    by_cases hne : run = []
    · rw [hne, List.nil_append]
    · rw [ih hne hrun, List.append_assoc, List.singleton_append]

/-- A field ends where no plain character follows, which is as good a place for a dot as the end of
a bracket group. -/
theorem scan_field_end (ne : field ≠ []) (ends : ∀ c ∈ rest.head?, ¬ IsPlain c) :
    scan (.outside field afterBracket) rest =
      (do return finish field ++ (← scan (.outside [] true) rest)) := by
  have hfield : field.isEmpty = false := List.isEmpty_eq_false_iff.2 ne
  cases rest with
  | nil =>
    rw [scan, scan]
    exact congrArg Except.ok (List.append_nil _).symm
  | cons c rest =>
    by_cases hdot : c = '.'
    · subst hdot
      simp [scan, hfield, finish]
      split <;> rfl
    by_cases hopen : c = '['
    · subst hopen
      simp [scan, finish]
    by_cases hclose : c = ']'
    · subst hclose
      simp [scan]
    · exact absurd ⟨hdot, hopen, hclose⟩ (ends c rfl)

/-- The content of a bracket group ends at the first closing bracket. -/
theorem scan_content (inner rest : List Char) (closed : ']' ∉ content) :
    scan (.inside inner) (content ++ ']' :: rest) =
      match bracket? (inner ++ content) with
      | none => .error .badBracket
      | some step => do return step :: (← scan (.outside [] true) rest) := by
  induction content generalizing inner with
  | nil =>
    rw [List.append_nil]
    exact if_pos rfl
  | cons c content ih =>
    rw [List.mem_cons, not_or] at closed
    rw [List.cons_append, scan, if_neg (Ne.symm closed.1), ih _ closed.2, List.append_assoc,
      List.singleton_append]

theorem getLast?_of_cons {part : Part} (last : (part :: parts).getLast? ≠ some .dot) :
    parts.getLast? ≠ some .dot := by
  cases parts with
  | nil => exact nofun
  | cons other parts => rwa [List.getLast?_cons_cons] at last

theorem written_ne_nil (writes : Writes parts steps) (ne : parts ≠ []) : written parts ≠ [] := by
  cases writes with
  | nil => exact absurd rfl ne
  | field hname =>
    rw [written_cons]
    exact List.append_ne_nil_of_left_ne_nil hname _
  | brackets | dot => exact List.cons_ne_nil _ _

theorem head?_written_not_plain (chain : (Part.field field :: parts).IsChain Part.MayPrecede) :
    ∀ c ∈ (written parts).head?, ¬ IsPlain c := by
  cases parts with
  | nil => exact nofun
  | cons part parts =>
    have hpart := (List.isChain_cons_cons.1 chain).1
    cases part with
    | field => exact absurd hpart id
    | brackets =>
      rintro c ⟨⟩ hplain
      exact hplain.2.1 rfl
    | dot =>
      rintro c ⟨⟩ hplain
      exact hplain.1 rfl

/-- The steps that the parts of a text write are read from it. -/
theorem scan_written (writes : Writes parts steps) (chain : parts.IsChain Part.MayPrecede)
    (last : parts.getLast? ≠ some .dot) (first : afterBracket = false → parts.head? ≠ some .dot) :
    scan (.outside [] afterBracket) (written parts) = .ok steps := by
  induction writes generalizing afterBracket with
  | nil => rfl
  | @field name parts steps ne plain hrest ih =>
    have hsteps : scan (.outside [] true) (written parts) = .ok steps :=
      ih chain.tail (getLast?_of_cons last) nofun
    rw [written_cons]
    show scan _ (name ++ written parts) = _
    rw [scan_plain ne plain, List.nil_append, scan_field_end ne (head?_written_not_plain chain),
      hsteps, finish, if_neg (by rwa [List.isEmpty_iff])]
    rfl
  | @brackets content step parts steps closed denotes hrest ih =>
    have hsteps : scan (.outside [] true) (written parts) = .ok steps :=
      ih chain.tail (getLast?_of_cons last) nofun
    have hcontent := scan_content [] (written parts) closed
    rw [List.nil_append, bracket?_eq_some_iff.2 denotes, hsteps] at hcontent
    have hwritten : written (.brackets content :: parts) =
        '[' :: (content ++ ']' :: written parts) := by
      rw [written_cons, Part.text]
      simp
    rw [hwritten, scan, if_neg (by decide), if_pos rfl, hcontent]
    rfl
  | @dot parts steps hrest ih =>
    cases parts with
    | nil => exact absurd rfl last
    | cons part parts =>
      have hpart : part ≠ .dot := by
        rintro rfl
        exact (List.isChain_cons_cons.1 chain).1
      have hsteps : scan (.outside [] false) (written (part :: parts)) = .ok steps :=
        ih chain.tail (getLast?_of_cons last) fun _ h => hpart (Option.some.inj h)
      have hmore : ¬ (written (part :: parts)).isEmpty = true :=
        mt List.isEmpty_iff.1 (written_ne_nil hrest (List.cons_ne_nil _ _))
      cases afterBracket with
      | false => exact absurd rfl (first rfl)
      | true =>
        rw [written_cons]
        show scan _ ('.' :: written (part :: parts)) = _
        rw [scan, if_pos rfl, if_neg (by simp), if_neg hmore, hsteps]
        rfl

end Scanning

/-! ### Reading bodies -/

section Bodies
variable {raw text body : List Char} {parts : List Part} {steps : List Step}

theorem body?_eq_some_iff : body? text = some body ↔ Encloses text body := by
  unfold body?
  constructor
  · intro h
    split at h
    · next hopen hclose =>
      obtain ⟨rest, rfl⟩ := List.head?_eq_some_iff.1 (beq_iff_eq.1 hopen)
      obtain ⟨init, hinit⟩ := List.getLast?_eq_some_iff.1 (beq_iff_eq.1 hclose)
      cases init with
      | nil => cases hinit
      | cons c init =>
        obtain rfl : rest = init ++ ['}'] := (List.cons.inj hinit).2
        cases h
        rw [List.tail_cons, List.dropLast_concat]
        exact .inl rfl
    · next hopen hclose =>
      cases h
      exact .inr ⟨rfl, beq_eq_false_iff_ne.1 hopen, beq_eq_false_iff_ne.1 hclose⟩
    · cases h
  · rintro (rfl | ⟨rfl, hopen, hclose⟩)
    · have hclose : ('{' :: body ++ ['}']).getLast? = some '}' := List.getLast?_concat
      rw [hclose]
      exact congrArg some List.dropLast_concat
    · rw [beq_eq_false_iff_ne.2 hopen, beq_eq_false_iff_ne.2 hclose]

theorem isSingleValued_iff :
    (occurs ['.', '.'] body || body.contains '*' || body.contains '?') = false ↔
      IsSingleValued body := by
  have hdots : occurs ['.', '.'] body = false ↔ ¬ ['.', '.'] <:+: body := by
    rw [occurs, Option.isSome_eq_false_iff, Option.isNone_iff_eq_none, cut?_eq_none]
  simp [IsSingleValued, hdots, and_assoc]

theorem undotted_eq : (after? ['.'] body).getD body = undotted body := by
  unfold undotted
  split
  · rfl
  · next undot =>
    cases body with
    | nil => rfl
    | cons c rest =>
      have hc : ¬ ('.' == c) = true := fun h => undot rest (by rw [beq_iff_eq.1 h])
      rw [after?, if_neg hc, Option.getD_none]

theorem steps_ne_nil (writes : Writes parts steps) (ne : parts ≠ [])
    (start : parts.head? ≠ some .dot) : steps ≠ [] := by
  cases writes with
  | nil => exact absurd rfl ne
  | field | brackets => exact List.cons_ne_nil _ _
  | dot => exact absurd rfl start

/-- The steps of a text depend on its body alone, and there on no dot in front. -/
theorem steps?_of_encloses (h : Encloses (trimWhere isBlank raw) body) :
    steps? raw =
      if occurs ['.', '.'] body || body.contains '*' || body.contains '?' then .error .manyValued
      else do
        let steps ← scan (.outside [] false) (undotted body)
        if steps.isEmpty then .error .empty else return steps := by
  unfold steps?
  rw [body?_eq_some_iff.2 h]
  dsimp only
  rw [undotted_eq]

/-- A text is read as the steps that it expresses, and refused if it expresses none. -/
theorem steps?_eq_ok_iff : steps? raw = .ok steps ↔ Expresses raw steps := by
  constructor
  · intro h
    cases hbody : body? (trimWhere isBlank raw) with
    | none =>
      unfold steps? at h
      rw [hbody] at h
      cases h
    | some body =>
      have hencloses := body?_eq_some_iff.1 hbody
      rw [steps?_of_encloses hencloses] at h
      split at h
      · cases h
      next hsingle =>
      obtain ⟨found, hscan, h⟩ := bind_eq_ok.1 h
      split at h
      · cases h
      next hfound =>
      cases h
      obtain ⟨parts, hwrites, hwritten, hchain, hlast, hhead⟩ :=
        exists_parts_of_scan (show Begun (.outside [] false) from List.forall_mem_nil _) hscan
      refine ⟨body, parts, hencloses, isSingleValued_iff.1 (Bool.not_eq_true _ ▸ hsingle),
        hwritten, ⟨?_, hchain, hhead rfl rfl, hlast⟩, hwrites⟩
      rintro rfl
      cases hwrites
      exact hfound rfl
  · rintro ⟨body, parts, hencloses, hsingle, hwritten, ⟨hne, hchain, hstart, hlast⟩, hwrites⟩
    rw [steps?_of_encloses hencloses, isSingleValued_iff.2 hsingle, if_neg Bool.false_ne_true,
      hwritten, scan_written hwrites hchain hlast fun _ => hstart]
    exact if_neg (mt List.isEmpty_iff.1 (steps_ne_nil hwrites hne hstart))

end Bodies

/-! ### Spellings -/

section Spellings
variable {raw raw' body body' l l' : List Char} {steps : List Step}

/-- Whether a body has no white space, brace or dot at its ends. -/
structure Bare (body : List Char) : Prop where
  first : ∀ c ∈ body.head?, isBlank c = false ∧ c ≠ '{' ∧ c ≠ '.'
  last : ∀ c ∈ body.getLast?, isBlank c = false ∧ c ≠ '}' ∧ c ≠ '.'

/-- A body with and without braces around it and a dot in front. -/
def spellings (body : String) : List String :=
  [body, "." ++ body, "\x7b" ++ body ++ "\x7d", "\x7b." ++ body ++ "\x7d"]

theorem dropWhile_eq_self {drop : Char → Bool} (first : ∀ c ∈ l.head?, drop c = false) :
    l.dropWhile drop = l := by
  cases l with
  | nil => rfl
  | cons c rest => exact List.dropWhile_cons_of_neg (by simp [first c rfl])

/-- Nothing is trimmed where neither end is to be dropped. -/
theorem trimWhere_eq_self {drop : Char → Bool} (first : ∀ c ∈ l.head?, drop c = false)
    (last : ∀ c ∈ l.getLast?, drop c = false) : trimWhere drop l = l := by
  have hlast : ∀ c ∈ l.reverse.head?, drop c = false := by
    rw [List.head?_reverse]
    exact last
  rw [trimWhere, dropWhile_eq_self first, dropWhile_eq_self hlast, List.reverse_reverse]

theorem encloses_braces (body : List Char) :
    Encloses (trimWhere isBlank ('{' :: body ++ ['}'])) body := by
  rw [trimWhere_eq_self]
  · exact .inl rfl
  · rintro c ⟨⟩
    decide
  · rw [List.getLast?_concat]
    rintro c ⟨⟩
    decide

theorem Bare.encloses (bare : Bare body) : Encloses (trimWhere isBlank body) body := by
  rw [trimWhere_eq_self (fun c hc => (bare.first c hc).1) fun c hc => (bare.last c hc).1]
  exact .inr ⟨rfl, fun h => (bare.first _ h).2.1 rfl, fun h => (bare.last _ h).2.1 rfl⟩

theorem Bare.encloses_dot (bare : Bare body) :
    Encloses (trimWhere isBlank ('.' :: body)) ('.' :: body) := by
  have last : ∀ c ∈ ('.' :: body).getLast?, isBlank c = false ∧ c ≠ '}' := by
    rw [List.getLast?_cons]
    rintro c ⟨⟩
    cases hlast : body.getLast? with
    | none => decide
    | some c => exact ⟨(bare.last c hlast).1, (bare.last c hlast).2.1⟩
  rw [trimWhere_eq_self (by rintro c ⟨⟩; decide) fun c hc => (last c hc).1]
  exact .inr ⟨rfl, nofun, fun h => (last _ h).2 rfl⟩

theorem Bare.undotted_self (bare : Bare body) : undotted body = body := by
  unfold undotted
  split
  · exact absurd rfl (bare.first '.' rfl).2.2
  · rfl

theorem Bare.isSingleValued_dot (bare : Bare body) :
    IsSingleValued ('.' :: body) ↔ IsSingleValued body := by
  have hdots : ['.', '.'] <:+: '.' :: body ↔ ['.', '.'] <:+: body := by
    rw [List.infix_cons_iff, or_iff_right]
    rintro ⟨rest, h⟩
    obtain rfl : '.' :: rest = body := (List.cons.inj h).2
    exact (bare.first '.' rfl).2.2 rfl
  simp [IsSingleValued, hdots]

/-- Texts whose bodies differ in a dot in front are read alike. -/
theorem steps?_congr (h : Encloses (trimWhere isBlank raw) body)
    (h' : Encloses (trimWhere isBlank raw') body') (same : undotted body = undotted body')
    (single : IsSingleValued body ↔ IsSingleValued body') : steps? raw = steps? raw' := by
  have hflags := isSingleValued_iff.trans (single.trans isSingleValued_iff.symm)
  rw [← Bool.not_eq_true, ← Bool.not_eq_true, not_iff_not, ← Bool.eq_iff_iff] at hflags
  rw [steps?_of_encloses h, steps?_of_encloses h', hflags, same]

/-- Braces around a body and a dot in front of it make no difference. -/
theorem Bare.steps?_eq {body raw : String} (bare : Bare body.toList) (h : raw ∈ spellings body) :
    steps? raw.toList = steps? body.toList := by
  have dotted : undotted ('.' :: body.toList) = undotted body.toList := bare.undotted_self.symm
  have hbraces : ("\x7b" ++ body ++ "\x7d").toList = '{' :: body.toList ++ ['}'] := by simp
  have hboth : ("\x7b." ++ body ++ "\x7d").toList = '{' :: ('.' :: body.toList) ++ ['}'] := by simp
  have hdot : ("." ++ body).toList = '.' :: body.toList := by simp
  simp only [spellings, List.mem_cons, List.not_mem_nil, or_false] at h
  rcases h with rfl | rfl | rfl | rfl
  · rfl
  · rw [hdot]
    exact steps?_congr bare.encloses_dot bare.encloses dotted bare.isSingleValued_dot
  · rw [hbraces]
    exact steps?_congr (encloses_braces _) bare.encloses rfl Iff.rfl
  · rw [hboth]
    exact steps?_congr (encloses_braces _) bare.encloses dotted bare.isSingleValued_dot

/-- Whether a step can be written: its index fits a word, or its name is not empty and holds neither
a closing bracket nor what asks for many values. -/
def IsSpellable : Step → Prop
  | .index i => i < UInt64.size
  | .field name => name ≠ "" ∧ ']' ∉ name.toList ∧ IsSingleValued name.toList

/-- A step as it is written in brackets. -/
def spelled : Step → List Char
  | .index i => Nat.toDigits 10 i
  | .field name => '\'' :: name.toList ++ ['\'']

theorem not_infix_dots_iff :
    ¬ ['.', '.'] <:+: l ↔ l.IsChain fun a b => ¬ (a = '.' ∧ b = '.') := by
  constructor
  · intro h
    refine (List.isChain_isInfix l).imp ?_
    rintro a b hab ⟨rfl, rfl⟩
    exact h hab
  · intro h hdots
    have := h.infix hdots
    simp at this

theorem IsSingleValued.append (h : IsSingleValued l) (h' : IsSingleValued l')
    (seam : l.getLast? ≠ some '.' ∨ l'.head? ≠ some '.') : IsSingleValued (l ++ l') := by
  obtain ⟨hdots, hstar, hmark⟩ := h
  obtain ⟨hdots', hstar', hmark'⟩ := h'
  refine ⟨?_, by simp [hstar, hstar'], by simp [hmark, hmark']⟩
  rw [not_infix_dots_iff] at *
  refine List.isChain_append.2 ⟨hdots, hdots', ?_⟩
  rintro a ha b hb ⟨rfl, rfl⟩
  exact seam.elim (fun h => h ha) fun h => h hb

theorem isSingleValued_singleton {c : Char} (star : c ≠ '*') (mark : c ≠ '?') :
    IsSingleValued [c] := by
  refine ⟨?_, by simpa using Ne.symm star, by simpa using Ne.symm mark⟩
  rw [not_infix_dots_iff]
  exact .singleton c

/-- A text between two characters that mean nothing asks for as many values as it does alone. -/
theorem IsSingleValued.between {a b : Char} (h : IsSingleValued l)
    (first : a ≠ '.' ∧ a ≠ '*' ∧ a ≠ '?') (last : b ≠ '.' ∧ b ≠ '*' ∧ b ≠ '?') :
    IsSingleValued (a :: l ++ [b]) := by
  have ha : IsSingleValued [a] := isSingleValued_singleton first.2.1 first.2.2
  have hb : IsSingleValued [b] := isSingleValued_singleton last.2.1 last.2.2
  exact (ha.append h (.inl (by simpa using first.1))).append hb (.inr (by simpa using last.1))

theorem isBlank_of_isDigit {c : Char} (h : c.isDigit = true) : isBlank c = false := by
  unfold Char.isDigit at h
  rw [Bool.and_eq_true, decide_eq_true_eq, decide_eq_true_eq, ge_iff_le, UInt32.le_iff_toNat_le,
    UInt32.le_iff_toNat_le] at h
  have low : 48 ≤ c.toNat := h.1
  have high : c.toNat ≤ 57 := h.2
  simp only [isBlank, Bool.or_eq_false_iff, Bool.and_eq_false_iff, decide_eq_false_iff_not,
    beq_eq_false_iff_ne]
  omega

/-- What a spellable step is written as in brackets asks for a single value, ends at no closing
bracket of its own and denotes the step. -/
theorem spelled_spec {step : Step} (spellable : IsSpellable step) :
    IsSingleValued (spelled step) ∧ ']' ∉ spelled step ∧ Denotes (spelled step) step := by
  cases step with
  | index i =>
    have digits : ∀ c ∈ Nat.toDigits 10 i, c.isDigit = true := fun _ hc =>
      Nat.isDigit_of_mem_toDigits (by decide) (by decide) hc
    have no {c : Char} (other : c.isDigit = false) : c ∉ Nat.toDigits 10 i := fun hc =>
      Bool.false_ne_true (other.symm.trans (digits c hc))
    have blank (c : Char) (hc : c ∈ Nat.toDigits 10 i) : isBlank c = false :=
      isBlank_of_isDigit (digits c hc)
    refine ⟨⟨?_, no (by decide), no (by decide)⟩, no (by decide), .index ?_⟩
    · exact fun hdots => no (c := '.') (by decide) (hdots.subset List.mem_cons_self)
    · rw [spelled, trimWhere_eq_self (fun c hc => blank c (List.mem_of_mem_head? hc))
        fun c hc => blank c (List.mem_of_mem_getLast? hc)]
      exact numeral?_eq_some_iff.1 (numeral?_toDigits spellable)
  | field name =>
    obtain ⟨ne, closed, single⟩ := spellable
    refine ⟨single.between (by decide) (by decide), ?_, ?_⟩
    · simpa [spelled] using closed
    · rw [← String.ofList_toList (s := name)]
      refine .name (.inl rfl) (mt String.toList_eq_nil_iff.1 ne) ?_
      rw [String.ofList_toList]
      refine trimWhere_eq_self ?_ ?_
      · rintro c ⟨⟩
        decide
      · rw [spelled, List.getLast?_concat]
        rintro c ⟨⟩
        decide

/-- Steps as they are written in brackets, one group behind the other. -/
def groups (steps : List Step) : List Part := steps.map fun step => .brackets (spelled step)

theorem isSingleValued_groups (spellable : ∀ step ∈ steps, IsSpellable step) :
    IsSingleValued (written (groups steps)) := by
  induction steps with
  | nil => exact ⟨by simp [groups, written], List.not_mem_nil, List.not_mem_nil⟩
  | cons step steps ih =>
    obtain ⟨hstep, hsteps⟩ := List.forall_mem_cons.1 spellable
    have hgroup := (spelled_spec hstep).1.between (a := '[') (b := ']') (by decide) (by decide)
    refine hgroup.append (ih hsteps) (.inl ?_)
    rw [List.getLast?_concat]
    exact nofun

theorem writes_groups (spellable : ∀ step ∈ steps, IsSpellable step) :
    Writes (groups steps) steps := by
  induction steps with
  | nil => exact .nil
  | cons step steps ih =>
    obtain ⟨hstep, hsteps⟩ := List.forall_mem_cons.1 spellable
    exact .brackets (spelled_spec hstep).2.1 (spelled_spec hstep).2.2 (ih hsteps)

theorem arranged_groups (ne : steps ≠ []) : Arranged (groups steps) := by
  have brackets : ∀ part ∈ groups steps, part ≠ .dot := by
    intro part hpart
    obtain ⟨step, -, rfl⟩ := List.mem_map.1 hpart
    exact nofun
  refine ⟨mt List.map_eq_nil_iff.1 ne, ?_, fun h => brackets _ (List.mem_of_mem_head? h) rfl,
    fun h => brackets _ (List.mem_of_mem_getLast? h) rfl⟩
  unfold groups
  exact (List.isChain_map _).2 (List.pairwise_of_forall fun _ _ => trivial).isChain

/-- Steps in brackets are an expression of themselves. -/
theorem expresses_groups (ne : steps ≠ []) (spellable : ∀ step ∈ steps, IsSpellable step) :
    Expresses ('{' :: written (groups steps) ++ ['}']) steps := by
  refine ⟨_, _, encloses_braces _, isSingleValued_groups spellable, ?_, arranged_groups ne,
    writes_groups spellable⟩
  cases steps with
  | nil => exact absurd rfl ne
  | cons step steps => rfl

end Spellings

theorem parse_eq_ok_iff {raw : String} {path : Path} :
    parse raw = .ok path ↔ path.raw = raw ∧ steps? raw.toList = .ok path.steps := by
  obtain ⟨text, steps⟩ := path
  unfold parse
  cases steps? raw.toList with
  | error fault => simp
  | ok found => simp [eq_comm]

/-- **The grammar of path expressions**: for every text, reading it gives a path just if, between
its braces if it has any, it is a body that asks for a single value, and the steps are those that
the fields and bracket groups of the body write, in their order. A body that has no white space,
brace or dot at its ends is read alike with braces and without, with a dot in front and without,
and all indexes that fit a word and all names that hold neither a closing bracket nor what asks for
many values can be written. -/
theorem parse_grammar :
    (∀ raw path, parse raw = .ok path ↔ path.raw = raw ∧ Expresses raw.toList path.steps) ∧
    (∀ body : String, Bare body.toList → ∀ raw ∈ spellings body,
      steps? raw.toList = steps? body.toList) ∧
    ∀ steps, steps ≠ [] → (∀ step ∈ steps, IsSpellable step) →
      ∃ raw, parse raw = .ok ⟨raw, steps⟩ := by
  refine ⟨fun raw path => ?_, fun body bare raw h => bare.steps?_eq h, fun steps ne spellable => ?_⟩
  · rw [parse_eq_ok_iff, steps?_eq_ok_iff]
  · refine ⟨String.ofList ('{' :: written (groups steps) ++ ['}']), parse_eq_ok_iff.2 ⟨rfl, ?_⟩⟩
    rw [String.toList_ofList]
    exact steps?_eq_ok_iff.2 (expresses_groups ne spellable)

/-- A port of a service, in four spellings, and a member with a dot in its name. -/
theorem parse_grammar_targetPort :
    let port : List Step := [.field "spec", .field "ports", .index 0, .field "targetPort"]
    (∀ raw ∈ spellings "spec.ports[0].targetPort",
      parse raw = .ok ⟨raw, port⟩ ∧ Expresses raw.toList port) ∧
    ∃ raw, parse raw = .ok ⟨raw, [.field "data", .field "tls.crt"]⟩ := by
  intro port
  obtain ⟨hgrammar, hspellings, hwritten⟩ := parse_grammar
  have bare : Bare "spec.ports[0].targetPort".toList := by
    have hfirst : "spec.ports[0].targetPort".toList.head? = some 's' := by decide +kernel
    have hlast : "spec.ports[0].targetPort".toList.getLast? = some 't' := by decide +kernel
    constructor
    · rw [hfirst]
      rintro c ⟨⟩
      decide
    · rw [hlast]
      rintro c ⟨⟩
      decide
  have read : steps? "spec.ports[0].targetPort".toList = .ok port := by decide +kernel
  refine ⟨fun raw h => ?_, hwritten _ (List.cons_ne_nil _ _) ?_⟩
  · have hsteps : steps? raw.toList = .ok port := (hspellings _ bare raw h).trans read
    have hparse : parse raw = .ok ⟨raw, port⟩ := parse_eq_ok_iff.2 ⟨rfl, hsteps⟩
    exact ⟨hparse, ((hgrammar raw ⟨raw, port⟩).1 hparse).2⟩
  · intro step hstep
    simp only [List.mem_cons, List.not_mem_nil, or_false] at hstep
    rcases hstep with rfl | rfl
    · exact ⟨by decide, by decide, not_infix_dots_iff.2 (by decide), by decide, by decide⟩
    · exact ⟨by decide, by decide, not_infix_dots_iff.2 (by decide), by decide, by decide⟩

end ServiceBinding.Binding.Path
