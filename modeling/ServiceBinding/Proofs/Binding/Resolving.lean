import ServiceBinding.Binding.Catalog
import ServiceBinding.Proofs.Text.Lowercase
import ServiceBinding.Proofs.Text.Splitting

/-!
What the catalog answers. Secrets and config maps of the core group are read by key, whatever has
been registered; any other kind is the one registered last under its names, or a new one with a
guessed plural (`resolve_registered`). The guess follows the rule of English plurals (`IsPlural`)
but for words in `y`: the vowels that keep it are only `a` and `e` (`isPlural_pluralize_iff`).
-/
namespace ServiceBinding.Binding

/-! ### Plurals -/

/-- Whether a word has an ending that takes a syllable more. -/
def Hisses (word : List Char) : Prop :=
  ∃ ending ∈ ["s", "ch", "sh", "x"], ending.toList <:+ word

/-- Whether a letter in lower case is a consonant. -/
def IsConsonant (c : Char) : Prop := c.isLower = true ∧ c ∉ ['a', 'e', 'i', 'o', 'u']

/-- The plurals of words in lower case. -/
inductive IsPlural : List Char → List Char → Prop
  | hissing {word : List Char} (hisses : Hisses word) : IsPlural word (word ++ ['e', 's'])
  | turned {stem : List Char} {c : Char} (consonant : IsConsonant c) :
    IsPlural (stem ++ [c, 'y']) (stem ++ [c, 'i', 'e', 's'])
  | plain {word : List Char} (soft : ¬ Hisses word)
    (kept : ∀ stem c, word = stem ++ [c, 'y'] → ¬ IsConsonant c) : IsPlural word (word ++ ['s'])

/-- Whether the guess turns the last letter of a word. -/
def Turns (word : List Char) : Prop :=
  ['y'] <:+ word ∧ ¬ ['a', 'y'] <:+ word ∧ ¬ ['e', 'y'] <:+ word

/-- What the guess does with a word. -/
theorem pluralize_cases (kind : String) :
    let word := (Text.lowercase kind).toList
    Hisses word ∧ (pluralize kind).toList = word ++ ['e', 's'] ∨
    ¬ Hisses word ∧ Turns word ∧ (pluralize kind).toList = word.dropLast ++ ['i', 'e', 's'] ∨
    ¬ Hisses word ∧ ¬ Turns word ∧ (pluralize kind).toList = word ++ ['s'] := by
  unfold pluralize
  generalize Text.lowercase kind = lower
  intro word
  dsimp only
  have hhiss : (Text.endsWith lower "s" || Text.endsWith lower "ch" ||
      Text.endsWith lower "sh" || Text.endsWith lower "x") = true ↔ Hisses word := by
    simp [Text.endsWith_eq_true, Hisses, word, or_assoc]
  have hturn : (Text.endsWith lower "y" && !Text.endsWith lower "ay" &&
      !Text.endsWith lower "ey") = true ↔ Turns word := by
    simp [← Bool.not_eq_true, Text.endsWith_eq_true, Turns, word, and_assoc]
  by_cases h : Hisses word
  · rw [if_pos (hhiss.2 h)]
    exact .inl ⟨h, String.toList_append⟩
  · rw [if_neg (mt hhiss.1 h)]
    by_cases ht : Turns word
    · rw [if_pos (hturn.2 ht)]
      exact .inr (.inl ⟨h, ht, by rw [String.toList_append, String.toList_ofList]; rfl⟩)
    · rw [if_neg (mt hturn.1 ht)]
      exact .inr (.inr ⟨h, ht, String.toList_append⟩)

theorem not_hisses_of_y (stem : List Char) : ¬ Hisses (stem ++ ['y']) := by
  rintro ⟨ending, hending, hends⟩
  have hlast : ∀ ending ∈ ["s", "ch", "sh", "x"],
      ending.toList ≠ [] ∧ ending.toList.getLast? ≠ some 'y' := by decide
  obtain hnil | ⟨front, hfront, -⟩ := List.suffix_concat_iff.1 hends
  · exact (hlast ending hending).1 hnil
  · exact (hlast ending hending).2 (hfront ▸ List.getLast?_concat)

theorem turns_iff {stem : List Char} :
    Turns (stem ++ ['y']) ↔ ¬ ∃ front c, stem = front ++ [c] ∧ (c = 'a' ∨ c = 'e') := by
  have hvowel (c : Char) : [c, 'y'] <:+ stem ++ ['y'] ↔ ∃ front, stem = front ++ [c] := by
    rw [List.suffix_concat_iff]
    constructor
    · rintro (hnil | ⟨start, hstart, front, rfl⟩)
      · cases hnil
      · have hstart : [c] ++ ['y'] = start ++ ['y'] := hstart
        obtain rfl : [c] = start := List.append_cancel_right hstart
        exact ⟨front, rfl⟩
    · rintro ⟨front, rfl⟩
      exact .inr ⟨[c], rfl, List.suffix_append _ _⟩
  rw [Turns, hvowel, hvowel, and_iff_right (List.suffix_append _ _), ← not_or]
  refine not_congr ⟨?_, ?_⟩
  · rintro (⟨front, rfl⟩ | ⟨front, rfl⟩)
    · exact ⟨front, 'a', rfl, .inl rfl⟩
    · exact ⟨front, 'e', rfl, .inr rfl⟩
  · rintro ⟨front, c, rfl, rfl | rfl⟩
    · exact .inl ⟨front, rfl⟩
    · exact .inr ⟨front, rfl⟩

theorem eq_of_append_y {stem front : List Char} {c : Char}
    (h : stem ++ ['y'] = front ++ [c, 'y']) : stem = front ++ [c] := by
  rw [List.append_cons front c ['y']] at h
  exact List.append_cancel_right h

/-- The last letter of a word is turned after consonants only. -/
theorem IsPlural.consonant_of_turned {stem : List Char}
    (h : IsPlural (stem ++ ['y']) (stem ++ ['i', 'e', 's'])) :
    ∃ front c, stem = front ++ [c] ∧ IsConsonant c := by
  generalize hword : stem ++ ['y'] = word at h
  generalize hplural : stem ++ ['i', 'e', 's'] = plural at h
  cases h with
  | hissing hisses => exact absurd (hword ▸ hisses) (not_hisses_of_y stem)
  | turned consonant => exact ⟨_, _, eq_of_append_y hword, consonant⟩
  | plain =>
    have hlength := congrArg List.length hplural
    simp [← hword] at hlength

/-- Whether a word that ends in `y` has a consonant before it, or one of the vowels that the guess
knows of. -/
def Foreseen (word : List Char) : Prop :=
  ∀ stem, word = stem ++ ['y'] →
    ∃ front c, stem = front ++ [c] ∧ (IsConsonant c ∨ c = 'a' ∨ c = 'e')

theorem Foreseen.of_hisses {word : List Char} (hisses : Hisses word) : Foreseen word := by
  rintro stem rfl
  exact absurd hisses (not_hisses_of_y stem)

/-- A word that the guess does not turn stands behind an `a` or an `e` if it is a `y`. -/
theorem exists_of_not_turns {word stem : List Char} (stays : ¬ Turns word)
    (h : word = stem ++ ['y']) : ∃ front c, stem = front ++ [c] ∧ (c = 'a' ∨ c = 'e') :=
  not_not.1 (mt turns_iff.2 (h ▸ stays))

theorem Foreseen.of_not_turns {word : List Char} (stays : ¬ Turns word) : Foreseen word := by
  intro stem hstem
  obtain ⟨front, c, hfront, known⟩ := exists_of_not_turns stays hstem
  exact ⟨front, c, hfront, .inr known⟩

/-- The guess is the plural of the word in lower case, just if its ending is foreseen. -/
theorem isPlural_pluralize_iff {kind : String} :
    IsPlural (Text.lowercase kind).toList (pluralize kind).toList ↔
      Foreseen (Text.lowercase kind).toList := by
  obtain ⟨hisses, hplural⟩ | ⟨soft, turns, hplural⟩ | ⟨soft, stays, hplural⟩ :=
    pluralize_cases kind
  all_goals
    rw [hplural]
    generalize (Text.lowercase kind).toList = word at *
  · exact iff_of_true (.hissing hisses) (.of_hisses hisses)
  · obtain ⟨stem, rfl⟩ := turns.1
    have hvowel := turns_iff.1 turns
    rw [List.dropLast_concat]
    constructor
    · rintro h _ hstem
      obtain ⟨front, c, hfront, consonant⟩ := h.consonant_of_turned
      exact ⟨front, c, List.append_cancel_right hstem ▸ hfront, .inl consonant⟩
    · intro h
      obtain ⟨front, c, rfl, consonant | known⟩ := h stem rfl
      · rw [List.append_assoc, List.append_assoc]
        exact .turned consonant
      · exact absurd ⟨front, c, rfl, known⟩ hvowel
  · refine iff_of_true (.plain soft fun stem c hword => ?_) (.of_not_turns stays)
    obtain ⟨front, d, hfront, known⟩ :=
      exists_of_not_turns stays (hword.trans (List.append_cons stem c ['y']))
    obtain rfl : c = d := List.singleton_inj.1 (List.append_inj' hfront rfl).2
    rintro ⟨-, consonant⟩
    rcases known with rfl | rfl <;> exact consonant (by decide)

/-- A `y` whose place is not foreseen is turned as well. -/
theorem pluralize_of_not_foreseen {kind : String}
    (h : ¬ Foreseen (Text.lowercase kind).toList) :
    ∃ stem, (Text.lowercase kind).toList = stem ++ ['y'] ∧
      (pluralize kind).toList = stem ++ ['i', 'e', 's'] := by
  obtain ⟨hisses, -⟩ | ⟨-, turns, hplural⟩ | ⟨-, stays, -⟩ := pluralize_cases kind
  · exact absurd (.of_hisses hisses) h
  · obtain ⟨stem, hstem⟩ := turns.1
    exact ⟨stem, hstem.symm, by rw [hplural, ← hstem, List.dropLast_concat]⟩
  · exact absurd (.of_not_turns stays) h

/-! ### Registrations -/

/-- Whether a kind has a group, a version and a name. -/
def ApiKind.IsNamed (k : ApiKind) (group version kind : String) : Prop :=
  k.group = group ∧ k.version = version ∧ k.kind = kind

instance (k : ApiKind) (group version kind : String) : Decidable (k.IsNamed group version kind) :=
  inferInstanceAs (Decidable (_ ∧ _ ∧ _))

/-- Whether a kind is the last one of a group, a version and a name. -/
def IsLatest (kinds : List ApiKind) (group version kind : String) (k : ApiKind) : Prop :=
  k.IsNamed group version kind ∧ ∃ earlier later, kinds = earlier ++ k :: later ∧
    ∀ other ∈ later, ¬ other.IsNamed group version kind

namespace Catalog

/-- The catalog after some registrations. -/
def after (c : Catalog) (kinds : List ApiKind) : Catalog := kinds.foldl register c

/-- The registered kinds, in their order. -/
def registered (c : Catalog) : List ApiKind := c.kinds.reverse

theorem registered_after (c : Catalog) (kinds : List ApiKind) :
    (c.after kinds).registered = c.registered ++ kinds := by
  induction kinds generalizing c with
  | nil => rw [List.append_nil]; rfl
  | cons k rest ih =>
    have hstep : (c.register k).registered = c.registered ++ [k] := List.reverse_cons
    rw [after, List.foldl_cons, ← after, ih, hstep, List.append_assoc]
    rfl

variable {c : Catalog} {group version kind : String}

theorem isNamed_iff {k : ApiKind} :
    (k.group == group && k.version == version && k.kind == kind) = true ↔
      k.IsNamed group version kind := by
  simp [ApiKind.IsNamed, and_assoc]

theorem find?_eq_some_iff {k : ApiKind} :
    c.find? group version kind = some k ↔ IsLatest c.registered group version kind k := by
  have hnot (other : ApiKind) :
      (!(other.group == group && other.version == version && other.kind == kind)) = true ↔
        ¬ other.IsNamed group version kind := by
    rw [← isNamed_iff, Bool.not_eq_true', Bool.not_eq_true]
  rw [find?, List.find?_eq_some_iff_append, isNamed_iff, IsLatest, registered]
  simp only [hnot]
  refine and_congr_right fun _ => ⟨?_, ?_⟩
  · rintro ⟨later, earlier, hkinds, hlater⟩
    refine ⟨earlier.reverse, later.reverse, ?_, fun other h => hlater other (List.mem_reverse.1 h)⟩
    rw [hkinds, List.reverse_append, List.reverse_cons, List.append_assoc, List.singleton_append]
  · rintro ⟨earlier, later, hkinds, hlater⟩
    refine ⟨later.reverse, earlier.reverse, ?_, fun other h => hlater other (List.mem_reverse.1 h)⟩
    rw [List.reverse_eq_iff.1 hkinds, List.reverse_append, List.reverse_cons, List.append_assoc,
      List.singleton_append]

theorem find?_eq_none_iff :
    c.find? group version kind = none ↔
      ∀ k ∈ c.registered, ¬ k.IsNamed group version kind := by
  rw [find?, List.find?_eq_none]
  simp only [isNamed_iff, registered, List.mem_reverse]

theorem keyed?_eq_some_iff {keyed : KeyedKind} :
    keyed? group version kind = some keyed ↔
      group = "" ∧ version = "v1" ∧ kind = keyed.name := by
  unfold keyed?
  split
  · next hcore =>
    rw [and_iff_right hcore.1, and_iff_right hcore.2]
    cases keyed <;> grind [KeyedKind.name]
  · next hcore => exact iff_of_false nofun fun h => hcore ⟨h.1, h.2.1⟩

theorem keyed?_eq_none_iff :
    keyed? group version kind = none ↔
      ¬ (group = "" ∧ version = "v1" ∧ (kind = "Secret" ∨ kind = "ConfigMap")) := by
  unfold keyed?
  grind

theorem resolve_eq_error_iff {e : Error} :
    c.resolve group version kind = .error e ↔ (version = "" ∨ kind = "") ∧
      e = .unattributed ("resource reference needs a version and a kind, got version '" ++
        version ++ "' kind '" ++ kind ++ "'") := by
  unfold resolve
  split
  · next hempty => rw [and_iff_right hempty, Except.error.injEq, eq_comm]
  · next hempty => exact iff_of_false (by split <;> exact nofun) fun h => hempty h.1

theorem resolve_eq_keyed_iff {keyed : KeyedKind} :
    c.resolve group version kind = .ok (.keyed keyed) ↔
      group = "" ∧ version = "v1" ∧ kind = keyed.name := by
  rw [← keyed?_eq_some_iff]
  unfold resolve
  split
  · next hempty =>
    refine iff_of_false nofun fun h => ?_
    obtain ⟨-, rfl, rfl⟩ := keyed?_eq_some_iff.1 h
    revert hempty
    cases keyed <;> decide
  · cases keyed? group version kind <;> simp

theorem resolve_eq_structured_iff {k : ApiKind} :
    c.resolve group version kind = .ok (.structured k) ↔
      version ≠ "" ∧ kind ≠ "" ∧
        ¬ (group = "" ∧ version = "v1" ∧ (kind = "Secret" ∨ kind = "ConfigMap")) ∧
        (IsLatest c.registered group version kind k ∨
          (∀ other ∈ c.registered, ¬ other.IsNamed group version kind) ∧
            k = ⟨group, version, kind, pluralize kind⟩) := by
  rw [← keyed?_eq_none_iff, ← find?_eq_some_iff, ← find?_eq_none_iff]
  unfold resolve
  split
  · next hempty => exact iff_of_false nofun fun h => hempty.elim h.1 h.2.1
  · next hempty =>
    obtain ⟨hversion, hkind⟩ := not_or.1 hempty
    rw [and_iff_right hversion, and_iff_right hkind]
    cases keyed? group version kind with
    | some keyed => simp
    | none => cases c.find? group version kind <;> simp [eq_comm]

end Catalog

/-- **What the catalog answers**, for every catalog, whether empty, with the builtin kinds or any
other, and every sequence of registrations after it: an error just if the version or the name is
missing; access by key just to the secrets and config maps of the core group in version 1, whatever
has been registered; and otherwise the kind registered last under exactly this group, version and
name, or, if there is none, one of them with the guessed plural. The guess for an ASCII name is the
plural of the name in lower case (`es` after `s`, `x`, `ch` and `sh`, a `y` after a consonant turned
into `ies`, and `s` otherwise), just if the name does not end in a `y` that stands behind something
other than a consonant, an `a` or an `e`; such a `y` is turned as well. -/
theorem resolve_registered (start : Catalog) (kinds : List ApiKind)
    (group version kind : String) :
    let catalog := kinds.foldl Catalog.register start
    let registered := start.kinds.reverse ++ kinds
    (∀ e, catalog.resolve group version kind = .error e ↔ (version = "" ∨ kind = "") ∧
      e = .unattributed ("resource reference needs a version and a kind, got version '" ++
        version ++ "' kind '" ++ kind ++ "'")) ∧
    (∀ keyed, catalog.resolve group version kind = .ok (.keyed keyed) ↔
      group = "" ∧ version = "v1" ∧ kind = keyed.name) ∧
    (∀ k, catalog.resolve group version kind = .ok (.structured k) ↔
      version ≠ "" ∧ kind ≠ "" ∧
        ¬ (group = "" ∧ version = "v1" ∧ (kind = "Secret" ∨ kind = "ConfigMap")) ∧
        (IsLatest registered group version kind k ∨
          (∀ other ∈ registered, ¬ other.IsNamed group version kind) ∧
            k = ⟨group, version, kind, pluralize kind⟩)) ∧
    ((∀ c ∈ kind.toList, c.toNat < 128) →
      let word := kind.toList.map Char.toLower
      (IsPlural word (pluralize kind).toList ↔ Foreseen word) ∧
        (¬ Foreseen word →
          ∃ stem, word = stem ++ ['y'] ∧ (pluralize kind).toList = stem ++ ['i', 'e', 's'])) := by
  intro catalog registered
  have hregistered : catalog.registered = registered := Catalog.registered_after start kinds
  refine ⟨fun e => Catalog.resolve_eq_error_iff, fun keyed => Catalog.resolve_eq_keyed_iff,
    fun k => ?_, fun ascii => ?_⟩
  · rw [Catalog.resolve_eq_structured_iff, hregistered]
  · have hword := Text.lowercase_of_ascii ascii
    exact hword ▸ ⟨isPlural_pluralize_iff, pluralize_of_not_foreseen⟩

/-- A kind in `y` after an `a`, next to one of the same name that is registered for another
group. -/
theorem resolve_registered_gateway :
    let other : ApiKind := ⟨"example.com", "v1", "Gateway", "gates"⟩
    let catalog := [other].foldl Catalog.register Catalog.builtin
    (∀ c ∈ "Gateway".toList, c.toNat < 128) ∧
      catalog.resolve "example.com" "v1" "Gateway" = .ok (.structured other) ∧
      catalog.resolve "acme.io" "v1" "Gateway" =
        .ok (.structured ⟨"acme.io", "v1", "Gateway", "gateways"⟩) ∧
      IsPlural "gateway".toList "gateways".toList := by
  intro other catalog
  have ascii : ∀ c ∈ "Gateway".toList, c.toNat < 128 := by simp
  have hplural : pluralize "Gateway" = "gateways" := by decide +kernel
  obtain ⟨-, -, hown, -⟩ := resolve_registered Catalog.builtin [other] "example.com" "v1" "Gateway"
  obtain ⟨-, -, hguess, hword⟩ :=
    resolve_registered Catalog.builtin [other] "acme.io" "v1" "Gateway"
  refine ⟨ascii, (hown other).2 ⟨by decide, by decide, by decide, .inl ⟨⟨rfl, rfl, rfl⟩, ?_⟩⟩,
    (hguess _).2 ⟨by decide, by decide, by decide, .inr ⟨?_, by rw [hplural]⟩⟩, ?_⟩
  · exact ⟨_, [], rfl, List.forall_mem_nil _⟩
  · decide
  · have hforeseen : Foreseen ("gatewa".toList ++ ['y']) := fun stem hstem =>
      ⟨"gatew".toList, 'a', (List.append_cancel_right hstem).symm, .inr (.inl rfl)⟩
    have hword := (hword ascii).1.2 hforeseen
    rwa [hplural] at hword

/-- A vowel that the guess does not know of: the plural of `envoy` is no `envoies`. -/
theorem not_isPlural_envoy :
    Catalog.empty.resolve "acme.io" "v1" "Envoy" =
        .ok (.structured ⟨"acme.io", "v1", "Envoy", "envoies"⟩) ∧
      IsPlural "envoy".toList "envoys".toList ∧ ¬ IsPlural "envoy".toList "envoies".toList := by
  have hvowel : ¬ IsConsonant 'o' := fun h => h.2 (by decide)
  refine ⟨by decide +kernel,
    .plain (not_hisses_of_y "envo".toList) fun stem c hword => ?_, fun h => ?_⟩
  · have hword : "env".toList ++ ['o', 'y'] = stem ++ [c, 'y'] := hword
    obtain rfl : 'o' = c := List.head_eq_of_cons_eq (List.append_inj' hword rfl).2
    exact hvowel
  · have h : IsPlural ("envo".toList ++ ['y']) ("envo".toList ++ ['i', 'e', 's']) := h
    obtain ⟨front, c, hstem, consonant⟩ := h.consonant_of_turned
    have hstem : "env".toList ++ ['o'] = front ++ [c] := hstem
    obtain rfl : 'o' = c := List.singleton_inj.1 (List.append_inj' hstem rfl).2
    exact hvowel consonant

end ServiceBinding.Binding
