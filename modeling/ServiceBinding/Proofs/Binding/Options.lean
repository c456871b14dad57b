import Mathlib.Data.List.Nodup
import ServiceBinding.Binding.Preset
import ServiceBinding.Proofs.Results
import ServiceBinding.Proofs.Workload.Merging

/-!
Options in normal form. Settings are read just if they suit the service (`Backing.Suits`): each one
names an option, in whatever case, and has a value for it, no two name the same option, and the
rules between options hold. What is read are the settings one by one in their normal form, and these
are read as themselves (`Options.read_normal_form`).
-/
namespace ServiceBinding

theorem Dict.contains_eq_false {α : Type} {d : Dict α} {key : String} :
    d.contains key = false ↔ d.get? key = none := by
  unfold contains get?
  rw [Option.map_eq_none_iff, List.find?_eq_none, List.any_eq_false]

namespace Binding
open Text

/-! ### Settings as they are given -/

/-- Whether an option takes a value, and the normal form that it takes it in. -/
inductive OptionRule.Takes : OptionRule → String → String → Prop
  | freeForm {value : String} (filled : ∃ c ∈ value.toList, isBlank c = false) :
    Takes .freeForm value value
  | oneOf {allowed : List String} {value : String} (known : lowercase value ∈ allowed) :
    Takes (.oneOf allowed) value (lowercase value)

/-- The word for a backing service. -/
def Backing.word : Backing → String
  | .eck => "eck"
  | .strimzi => "strimzi"
  | .crunchy => "crunchy"

/-- Whether a setting as it is given stands for an option and its value in normal form. -/
structure Backing.Reads (b : Backing) (setting entry : String × String) : Prop where
  name : entry.1 = lowercase setting.1
  value : ∃ rule, (entry.1, rule) ∈ b.rules ∧ rule.Takes setting.2 entry.2

/-- Whether some settings give an option a value, under its name in whatever case. -/
def Sets (settings : Dict String) (option value : String) : Prop :=
  ∃ name, lowercase name = option ∧ settings.get? name = some value

/-- Whether some settings are good for a backing service. -/
structure Backing.Suits (b : Backing) (settings : Dict String) : Prop where
  /-- Each setting has the name of an option and a value for it. -/
  known : ∀ s ∈ settings.entries, ∃ entry, b.Reads s entry
  /-- No two settings have the name of the same option. -/
  distinct : ∀ s ∈ settings.entries, ∀ s' ∈ settings.entries,
    lowercase s.1 = lowercase s'.1 → s = s'
  /-- There is a user just if access is not anonymous, which it is unless something else is said. -/
  user : b = .strimzi → ((∃ user, Sets settings "user" user) ↔
    ∃ auth, Sets settings "auth" auth ∧ lowercase auth ≠ "anonymous")
  /-- Access by certificate does not go with the plain listener. -/
  listener : b = .strimzi → ∀ auth, Sets settings "auth" auth → lowercase auth = "tls" →
    ∀ listener, Sets settings "listener" listener → lowercase listener ≠ "plain"

/-! ### One setting -/

section Settings
variable {b : Backing} {d d' : Dict String} {s : String × String}

theorem isBlankText_eq_false {value : String} :
    isBlankText value = false ↔ ∃ c ∈ value.toList, isBlank c = false := by
  rw [isBlankText, List.all_eq_false]
  simp only [Bool.not_eq_true]

theorem OptionRule.normalize_eq_ok {rule : OptionRule} {name value value' : String} :
    rule.normalize b name value = .ok value' ↔ rule.Takes value value' := by
  unfold normalize
  cases rule with
  | freeForm =>
    cases hblank : isBlankText value with
    | true =>
      refine iff_of_false nofun ?_
      rintro ⟨filled⟩
      rw [isBlankText_eq_false.2 filled] at hblank
      cases hblank
    | false =>
      constructor
      · rintro ⟨⟩
        exact .freeForm (isBlankText_eq_false.1 hblank)
      · rintro ⟨⟩
        rfl
  | oneOf allowed =>
    dsimp only
    by_cases hknown : lowercase value ∈ allowed
    · rw [if_pos (List.contains_iff_mem.2 hknown)]
      constructor
      · rintro ⟨⟩
        exact .oneOf hknown
      · rintro ⟨⟩
        rfl
    · rw [if_neg (mt List.contains_iff_mem.1 hknown)]
      refine iff_of_false nofun ?_
      rintro ⟨⟩
      contradiction

theorem OptionRule.Takes.unique {rule : OptionRule} {value first second : String}
    (h : rule.Takes value first) (h' : rule.Takes value second) : first = second := by
  cases h <;> cases h' <;> rfl

/-- A rule is found under its name, as no two options of a service have the same. -/
theorem Backing.find?_rules {name : String} {rule : String × OptionRule} :
    b.rules.find? (·.1 == name) = some rule ↔ rule.1 = name ∧ rule ∈ b.rules := by
  have nodup : (b.rules.map (·.1)).Nodup := by cases b <;> decide
  constructor
  · intro h
    exact ⟨by simpa using List.find?_some h, List.mem_of_find?_eq_some h⟩
  · rintro ⟨rfl, h⟩
    exact find?_name_of_mem nodup h

theorem Backing.rule_unique {name : String} {rule rule' : OptionRule}
    (h : (name, rule) ∈ b.rules) (h' : (name, rule') ∈ b.rules) : rule = rule' := by
  have hfound : some (name, rule) = some (name, rule') :=
    (find?_rules.2 ⟨rfl, h⟩).symm.trans (find?_rules.2 ⟨rfl, h'⟩)
  exact congrArg Prod.snd (Option.some.inj hfound)

/-- A setting is added as it is read, if its option has not been given before. -/
theorem addOption_eq_ok :
    addOption b d s = .ok d' ↔
      ∃ entry, b.Reads s entry ∧ d.get? entry.1 = none ∧ d' = d.insert entry.1 entry.2 := by
  unfold addOption
  dsimp only
  cases hfind : b.rules.find? (·.1 == lowercase s.1) with
  | none =>
    refine iff_of_false nofun ?_
    rintro ⟨entry, ⟨hname, rule, hrule, -⟩, -⟩
    have hfound := Backing.find?_rules.2 ⟨hname, hrule⟩
    cases hfind.symm.trans hfound
  | some rule =>
    obtain ⟨hname, hrule⟩ := Backing.find?_rules.1 hfind
    dsimp only
    rw [bind_eq_ok]
    constructor
    · rintro ⟨value, hvalue, h⟩
      split at h
      · cases h
      · next hnew =>
        cases h
        refine ⟨(lowercase s.1, value), ⟨rfl, rule.2, hname ▸ hrule, ?_⟩, ?_, rfl⟩
        · exact OptionRule.normalize_eq_ok.1 hvalue
        · exact Dict.contains_eq_false.1 (Bool.not_eq_true _ ▸ hnew)
    · rintro ⟨⟨name, value⟩, ⟨rfl, rule', hrule', htakes⟩, hnew, rfl⟩
      obtain rfl : rule = (lowercase s.1, rule') :=
        Option.some.inj (hfind.symm.trans (Backing.find?_rules.2 ⟨rfl, hrule'⟩))
      refine ⟨value, OptionRule.normalize_eq_ok.2 htakes, ?_⟩
      rw [if_neg (by rw [Dict.contains_eq_false.2 hnew]; exact Bool.false_ne_true)]
      rfl

/-- A setting is read in one way. -/
theorem Backing.Reads.unique {entry entry' : String × String} (h : b.Reads s entry)
    (h' : b.Reads s entry') : entry = entry' := by
  obtain ⟨hname, rule, hrule, htakes⟩ := h
  obtain ⟨hname', rule', hrule', htakes'⟩ := h'
  obtain rfl := Backing.rule_unique hrule (hname.trans hname'.symm ▸ hrule')
  exact Prod.ext (hname.trans hname'.symm) (htakes.unique htakes')

/-- With a setting there is the value that it is read as, besides those from before. -/
theorem get?_insert_of_reads {entry : String × String} (h : b.Reads s entry)
    (new : d.get? entry.1 = none) (key value : String) :
    (d.insert entry.1 entry.2).get? key = some value ↔
      d.get? key = some value ∨ b.Reads s (key, value) := by
  have hreads : b.Reads s (key, value) ↔ key = entry.1 ∧ entry.2 = value := by
    constructor
    · intro h'
      cases h.unique h'
      exact ⟨rfl, rfl⟩
    · rintro ⟨rfl, rfl⟩
      exact h
  rw [Dict.get?_insert, hreads]
  split
  · next hkey =>
    rw [hkey, new]
    simp
  · next hkey => simp [hkey]

/-- What settings are like that have been added one by one: each can be read, no two are for the
same option, and none is for one that had a value. The values are those from before and those that
are read. -/
theorem of_foldlM_addOption {l : List (String × String)} (h : l.foldlM (addOption b) d = .ok d') :
    (∀ s ∈ l, ∃ entry, b.Reads s entry) ∧ (l.map (lowercase ·.1)).Nodup ∧
      (∀ s ∈ l, d.get? (lowercase s.1) = none) ∧
        ∀ key value, d'.get? key = some value ↔
          d.get? key = some value ∨ ∃ s ∈ l, b.Reads s (key, value) := by
  induction l generalizing d with
  | nil =>
    cases h
    simp
  | cons s rest ih =>
    rw [List.foldlM_cons, bind_eq_ok] at h
    obtain ⟨_, hadd, h⟩ := h
    obtain ⟨entry, hentry, hnew, rfl⟩ := addOption_eq_ok.1 hadd
    obtain ⟨hknown, hnodup, hfree, hvalues⟩ := ih h
    have hapart : ∀ s' ∈ rest, lowercase s'.1 ≠ lowercase s.1 ∧
        d.get? (lowercase s'.1) = none := by
      intro s' hs'
      have h := hfree s' hs'
      rw [Dict.get?_insert, hentry.name] at h
      split at h
      · cases h
      · next hne => exact ⟨hne, h⟩
    simp only [List.map_cons, List.nodup_cons, List.forall_mem_cons, List.exists_mem_cons_iff]
    refine ⟨⟨⟨entry, hentry⟩, hknown⟩, ⟨?_, hnodup⟩, ⟨hentry.name ▸ hnew, ?_⟩, ?_⟩
    · rw [List.mem_map]
      rintro ⟨s', hs', he⟩
      exact (hapart s' hs').1 he
    · exact fun s' hs' => (hapart s' hs').2
    · intro key value
      rw [hvalues, get?_insert_of_reads hentry hnew, or_assoc]

/-- Settings can be added that can be read, are for options of their own, and for none that has a
value. -/
theorem exists_foldlM_addOption {l : List (String × String)}
    (known : ∀ s ∈ l, ∃ entry, b.Reads s entry) (apart : (l.map (lowercase ·.1)).Nodup)
    (free : ∀ s ∈ l, d.get? (lowercase s.1) = none) : ∃ d', l.foldlM (addOption b) d = .ok d' := by
  induction l generalizing d with
  | nil => exact ⟨d, rfl⟩
  | cons s rest ih =>
    obtain ⟨⟨entry, hentry⟩, hknown⟩ := List.forall_mem_cons.1 known
    obtain ⟨hnew, hfree⟩ := List.forall_mem_cons.1 free
    rw [List.map_cons, List.nodup_cons] at apart
    rw [← hentry.name] at hnew
    obtain ⟨d', h⟩ : ∃ d', rest.foldlM (addOption b) (d.insert entry.1 entry.2) = .ok d' := by
      refine ih hknown apart.2 fun s' hs' => ?_
      have hne : lowercase s'.1 ≠ entry.1 := by
        rw [hentry.name]
        exact fun he => apart.1 (List.mem_map.2 ⟨s', hs', he⟩)
      rw [Dict.get?_insert, if_neg hne, hfree s' hs']
    refine ⟨d', ?_⟩
    rw [List.foldlM_cons, bind_eq_ok]
    exact ⟨_, addOption_eq_ok.2 ⟨entry, hentry, hnew, rfl⟩, h⟩

end Settings

/-! ### All settings -/

theorem Backing.ofName_eq_ok {name : String} {b : Backing} :
    Backing.ofName name = .ok b ↔ lowercase name = b.word := by
  unfold ofName
  dsimp only
  split
  · next h => cases b <;> simp [h, word]
  split
  · next h => cases b <;> simp [h, word]
  split
  · next h => cases b <;> simp [h, word]
  · cases b <;> simp_all [word]

/-- The rules between options bind one service only. -/
theorem Options.check_eq_ok {o : Options} :
    o.check = .ok () ↔ (o.service = .strimzi →
      ((∃ user, o.get? "user" = some user) ↔
        ∃ auth, o.get? "auth" = some auth ∧ auth ≠ "anonymous") ∧
      (o.get? "auth" = some "tls" → o.get? "listener" ≠ some "plain")) := by
  unfold check
  cases o.service with
  | eck | crunchy => simp
  | strimzi =>
    dsimp only
    cases hauth : o.get? "auth" with
    | none => cases huser : o.get? "user" <;> simp
    | some auth =>
      by_cases hanonymous : auth = "anonymous"
      · cases huser : o.get? "user" <;> simp [hanonymous]
      · cases huser : o.get? "user" <;> simp [hanonymous]

section Reading
variable {b : Backing} {settings values : Dict String}
  (read : ∀ key value, values.get? key = some value ↔
    ∃ s ∈ settings.entries, b.Reads s (key, value))
include read

/-- An option has the value that is taken from what it is given. -/
theorem get?_eq_some_iff_sets {option : String} {rule : OptionRule}
    (there : (option, rule) ∈ b.rules) (value : String) :
    values.get? option = some value ↔
      ∃ given, Sets settings option given ∧ rule.Takes given value := by
  rw [read]
  constructor
  · rintro ⟨s, hs, hname, rule', hrule', htakes⟩
    obtain rfl := Backing.rule_unique there hrule'
    exact ⟨s.2, ⟨s.1, hname.symm, Dict.get?_eq_some_iff.2 hs⟩, htakes⟩
  · rintro ⟨given, ⟨name, rfl, hgiven⟩, htakes⟩
    exact ⟨(name, given), Dict.get?_eq_some_iff.1 hgiven, rfl, rule, there, htakes⟩

section Known
variable (known : ∀ s ∈ settings.entries, ∃ entry, b.Reads s entry)
include known

omit read in
/-- Whatever an option is given is taken by its rule. -/
theorem exists_takes {option given : String} {rule : OptionRule} (there : (option, rule) ∈ b.rules)
    (sets : Sets settings option given) : ∃ value, rule.Takes given value := by
  obtain ⟨name, rfl, hgiven⟩ := sets
  obtain ⟨entry, hname, rule', hrule', htakes⟩ := known _ (Dict.get?_eq_some_iff.1 hgiven)
  obtain rfl := Backing.rule_unique there (hname ▸ hrule')
  exact ⟨_, htakes⟩

/-- An option has a value just if it is given one. -/
theorem exists_get?_iff {option : String} {rule : OptionRule} (there : (option, rule) ∈ b.rules) :
    (∃ value, values.get? option = some value) ↔ ∃ given, Sets settings option given := by
  constructor
  · rintro ⟨value, h⟩
    obtain ⟨given, hsets, -⟩ := (get?_eq_some_iff_sets read there value).1 h
    exact ⟨given, hsets⟩
  · rintro ⟨given, hsets⟩
    obtain ⟨value, htakes⟩ := exists_takes known there hsets
    exact ⟨value, (get?_eq_some_iff_sets read there value).2 ⟨given, hsets, htakes⟩⟩

/-- A choice among words is what it is given, in lower case. -/
theorem get?_oneOf_iff {option : String} {allowed : List String}
    (there : (option, .oneOf allowed) ∈ b.rules) (value : String) :
    values.get? option = some value ↔
      ∃ given, Sets settings option given ∧ lowercase given = value := by
  rw [get?_eq_some_iff_sets read there]
  constructor
  · rintro ⟨given, hsets, ⟨_⟩⟩
    exact ⟨given, hsets, rfl⟩
  · rintro ⟨given, hsets, rfl⟩
    obtain ⟨_, htakes⟩ := exists_takes known there hsets
    cases htakes with
    | oneOf hknown => exact ⟨given, hsets, .oneOf hknown⟩

/-- The rules between options say the same of the values read as of the settings they are read
from. -/
theorem check_eq_ok_iff :
    Options.check ⟨b, values⟩ = .ok () ↔ (b = .strimzi →
      ((∃ user, Sets settings "user" user) ↔
        ∃ auth, Sets settings "auth" auth ∧ lowercase auth ≠ "anonymous") ∧
      ∀ auth, Sets settings "auth" auth → lowercase auth = "tls" →
        ∀ listener, Sets settings "listener" listener → lowercase listener ≠ "plain") := by
  rw [Options.check_eq_ok]
  refine forall_congr' fun hb => ?_
  have hb : b = .strimzi := hb
  subst hb
  have huser := exists_get?_iff read known (by decide : ("user", .freeForm) ∈ Backing.strimzi.rules)
  have hauth := @get?_oneOf_iff _ _ _ read known "auth" _ (.head _)
  have hlistener := @get?_oneOf_iff _ _ _ read known "listener" _ (.tail _ (.tail _ (.head _)))
  simp only [Options.get?, huser, hauth, hlistener, ne_eq, exists_exists_and_eq_and, not_exists,
    not_and, forall_exists_index, and_imp]

end Known

end Reading

/-- No two settings are for the same option just if their names in lower case are apart. -/
theorem nodup_lowercase_iff {settings : Dict String} :
    (settings.entries.map (lowercase ·.1)).Nodup ↔
      ∀ s ∈ settings.entries, ∀ s' ∈ settings.entries, lowercase s.1 = lowercase s'.1 → s = s' :=
  List.nodup_map_iff_inj_on settings.nodup_keys.of_map

section Result
variable {b : Backing} {service : String} {settings values : Dict String} {o : Options}

/-- What settings are like that have been read, and what has been read from them. -/
theorem Options.of_read (h : Options.read service settings = .ok o) :
    lowercase service = o.service.word ∧ o.service.Suits settings ∧
      ∀ key value, o.get? key = some value ↔
        ∃ s ∈ settings.entries, o.service.Reads s (key, value) := by
  obtain ⟨b, hb, h⟩ := bind_eq_ok.1 h
  obtain ⟨values, hvalues, h⟩ := bind_eq_ok.1 h
  obtain ⟨⟨⟩, hcheck, h⟩ := bind_eq_ok.1 h
  cases h
  obtain ⟨hknown, hnodup, -, hread⟩ := of_foldlM_addOption hvalues
  have hread : ∀ key value, values.get? key = some value ↔
      ∃ s ∈ settings.entries, b.Reads s (key, value) :=
    fun key value => (hread key value).trans (or_iff_right nofun)
  have hrules := (check_eq_ok_iff hread hknown).1 hcheck
  refine ⟨Backing.ofName_eq_ok.1 hb, ⟨hknown, nodup_lowercase_iff.1 hnodup, ?_, ?_⟩, hread⟩
  · exact fun hb => (hrules hb).1
  · exact fun hb => (hrules hb).2

theorem Options.check_of_read (h : Options.read service settings = .ok o) : o.check = .ok () := by
  obtain ⟨b, -, h⟩ := bind_eq_ok.1 h
  obtain ⟨values, -, h⟩ := bind_eq_ok.1 h
  obtain ⟨⟨⟩, hcheck, h⟩ := bind_eq_ok.1 h
  cases h
  exact hcheck

/-- Settings that suit a service are read. -/
theorem Options.exists_read (named : lowercase service = b.word) (suits : b.Suits settings) :
    ∃ values, Options.read service settings = .ok ⟨b, values⟩ := by
  obtain ⟨values, hvalues⟩ := exists_foldlM_addOption (d := {}) suits.known
    (nodup_lowercase_iff.2 suits.distinct) fun _ _ => rfl
  have hread : ∀ key value, values.get? key = some value ↔
      ∃ s ∈ settings.entries, b.Reads s (key, value) :=
    fun key value => ((of_foldlM_addOption hvalues).2.2.2 key value).trans (or_iff_right nofun)
  have hcheck : Options.check ⟨b, values⟩ = .ok () :=
    (check_eq_ok_iff hread suits.known).2 fun hb => ⟨suits.user hb, suits.listener hb⟩
  refine ⟨values, bind_eq_ok.2 ⟨b, Backing.ofName_eq_ok.2 named, ?_⟩⟩
  exact bind_eq_ok.2 ⟨values, hvalues, bind_eq_ok.2 ⟨(), hcheck, rfl⟩⟩

/-! ### Normal form -/

/-- The words that a rule gives the choice of. -/
def OptionRule.words : OptionRule → List String
  | .freeForm => []
  | .oneOf allowed => allowed

/-- What a setting stands for stands for itself. -/
theorem Backing.Reads.normal {s entry : String × String} (h : b.Reads s entry) :
    b.Reads entry entry := by
  obtain ⟨name, value⟩ := entry
  obtain ⟨-, rule, hrule, htakes⟩ := h
  dsimp only at hrule htakes
  have hname : ∀ rule ∈ b.rules, lowercase rule.1 = rule.1 := by cases b <;> decide
  refine ⟨(hname _ hrule).symm, rule, hrule, ?_⟩
  cases htakes with
  | freeForm filled => exact .freeForm filled
  | @oneOf allowed _ known =>
    have hwords : ∀ rule ∈ b.rules, ∀ word ∈ rule.2.words, lowercase word = word := by
      cases b <;> decide
    have hsame := hwords _ hrule _ known
    have h : OptionRule.Takes (.oneOf allowed) (lowercase s.2) (lowercase (lowercase s.2)) :=
      .oneOf (by rwa [hsame])
    rwa [hsame] at h

/-- Values in normal form are read as they are. -/
theorem Options.read_of_normal (named : lowercase service = b.word)
    (normal : ∀ entry ∈ values.entries, b.Reads entry entry)
    (valid : Options.check ⟨b, values⟩ = .ok ()) :
    Options.read service values = .ok ⟨b, values⟩ := by
  have hread : ∀ key value, values.get? key = some value ↔
      ∃ s ∈ values.entries, b.Reads s (key, value) := by
    intro key value
    rw [Dict.get?_eq_some_iff]
    constructor
    · exact fun h => ⟨_, h, normal _ h⟩
    · rintro ⟨s, hs, h⟩
      exact (normal s hs).unique h ▸ hs
  have hknown : ∀ s ∈ values.entries, ∃ entry, b.Reads s entry := fun s hs => ⟨s, normal s hs⟩
  have hrules := (check_eq_ok_iff hread hknown).1 valid
  have hsuits : b.Suits values := by
    refine ⟨hknown, fun s hs s' hs' he => ?_, fun hb => (hrules hb).1, fun hb => (hrules hb).2⟩
    rw [← (normal s hs).name, ← (normal s' hs').name] at he
    exact List.inj_on_of_nodup_map values.nodup_keys hs hs' he
  obtain ⟨values', h⟩ := Options.exists_read named hsuits
  have hvalues := (Options.of_read h).2.2
  have hsame : values' = values := Dict.ext_get? fun key =>
    Option.ext fun value => (hvalues key value).trans (hread key value).symm
  rw [h, hsame]

/-- **Options in normal form.** Reading goes through just if the text is the word for a service in
some case and the settings suit this service. What is read are the settings in normal form, each
under its name in lower case with the value that its option takes; and they are read as
themselves. -/
theorem Options.read_normal_form (service : String) (settings : Dict String) :
    ((∃ o, Options.read service settings = .ok o) ↔
      ∃ b, lowercase service = Backing.word b ∧ b.Suits settings) ∧
    ∀ o, Options.read service settings = .ok o →
      lowercase service = o.service.word ∧
      (∀ key value, o.get? key = some value ↔
        ∃ s ∈ settings.entries, o.service.Reads s (key, value)) ∧
      Options.read o.service.name o.values = .ok o := by
  refine ⟨⟨?_, ?_⟩, ?_⟩
  · rintro ⟨o, h⟩
    obtain ⟨hnamed, hsuits, -⟩ := Options.of_read h
    exact ⟨o.service, hnamed, hsuits⟩
  · rintro ⟨b, hnamed, hsuits⟩
    obtain ⟨values, h⟩ := Options.exists_read hnamed hsuits
    exact ⟨_, h⟩
  · intro o h
    obtain ⟨hnamed, -, hvalues⟩ := Options.of_read h
    refine ⟨hnamed, hvalues, Options.read_of_normal ?_ (fun entry hentry => ?_)
      (Options.check_of_read h)⟩
    · cases o.service <;> decide
    · obtain ⟨s, -, hreads⟩ := (hvalues entry.1 entry.2).1 (Dict.get?_eq_some_iff.2 hentry)
      exact hreads.normal

end Result

/-- Settings of the tests: names and fixed choices in any case, and a user that is kept as it is. -/
theorem Options.read_normal_form_strimzi :
    ∃ o, Options.read "strimZI" (({} : Dict String).insert "Auth" "SCRAM-sha-512" |>.insert
        "USER" "Bob") = .ok o ∧
      o.get? "auth" = some "scram-sha-512" ∧ o.get? "user" = some "Bob" ∧
      Options.read "Strimzi" o.values = .ok o := by
  have h : Options.read "strimZI" (({} : Dict String).insert "Auth" "SCRAM-sha-512" |>.insert
      "USER" "Bob") = .ok ⟨.strimzi, (({} : Dict String).insert "auth" "scram-sha-512").insert
        "user" "Bob"⟩ := by decide
  obtain ⟨-, -, hagain⟩ := (Options.read_normal_form _ _).2 _ h
  exact ⟨_, h, rfl, rfl, hagain⟩

end Binding

end ServiceBinding
