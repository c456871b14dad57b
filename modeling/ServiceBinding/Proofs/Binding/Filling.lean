import ServiceBinding.Binding.Expansion
import ServiceBinding.Proofs.Results
import ServiceBinding.Proofs.Text.Splitting

/-!
Free-form text in the settings of a preset. The names of the settings follow from the service and
the choices among words alone, and each is on the line of its value. The text has these lines just
if no value has a line break, which values are not checked for (`settingNames_of_expands`): a user
of two lines is one setting more.
-/
namespace ServiceBinding.Binding
open Text

/-! ### Characters -/

/-- Whether a text does not have a character. -/
def Lacks (c : Char) (text : String) : Prop := c ∉ text.toList

instance (c : Char) (text : String) : Decidable (Lacks c text) :=
  inferInstanceAs (Decidable (¬ _ ∈ _))

section Characters
variable {c : Char} {s t : String}

theorem lacks_append : Lacks c (s ++ t) ↔ Lacks c s ∧ Lacks c t := by
  unfold Lacks
  rw [String.toList_append, List.mem_append, not_or]

theorem Lacks.append (h : Lacks c s) (h' : Lacks c t) : Lacks c (s ++ t) := lacks_append.2 ⟨h, h'⟩

theorem Lacks.when (h : Lacks c s) (h' : Lacks c t) (wanted : Prop) [Decidable wanted] :
    Lacks c (if wanted then s else t) := by
  split
  · exact h
  · exact h'

end Characters

/-! ### Lines -/

/-- Whether a text stays on one line. -/
abbrev OneLine (text : String) : Prop := Lacks '\n' text

/-- The lines of a configuration. -/
def confLines (text : String) : List String := split text "\n"

/-- The setting that a line is for: what stands before the first equals sign. -/
def settingName (line : String) : String := ((cutAt? '=' line).map (·.1)).getD line

/-- The settings that a configuration has lines for. -/
def settingNames (text : String) : List String := (confLines text).map settingName

section Lines
variable {s t : String} {l : List String}

theorem confLines_of_oneLine (h : OneLine s) : confLines s = [s] := split_of_notMem h

theorem confLines_append (s t : String) : confLines (s ++ "\n" ++ t) = confLines s ++ confLines t :=
  split_around s t '\n'

theorem confLines_ne_nil (s : String) : confLines s ≠ [] := by
  unfold confLines split
  exact mt List.map_eq_nil_iff.1 splitPieces_ne_nil

/-- Texts on lines of their own have the lines that each of them has. -/
theorem confLines_joinLines (ne : l ≠ []) : confLines (joinLines l) = l.flatMap confLines := by
  unfold joinLines
  induction l with
  | nil => exact absurd rfl ne
  | cons s rest ih =>
    cases rest with
    | nil => rw [String.intercalate_singleton, List.flatMap_singleton]
    | cons t rest =>
      rw [String.intercalate_cons_cons, confLines_append, ih (List.cons_ne_nil t rest),
        ← List.flatMap_cons]

/-- A text with a line break has more than one line. -/
theorem length_confLines_eq_one : (confLines s).length = 1 ↔ OneLine s := by
  constructor
  · intro hone hbreak
    obtain ⟨before, rest, hwhole⟩ := List.append_of_mem hbreak
    have hs : s = String.ofList before ++ "\n" ++ String.ofList rest := by
      rw [← String.toList_inj]
      simpa using hwhole
    rw [hs, confLines_append, List.length_append] at hone
    have := List.length_pos_iff.2 (confLines_ne_nil (String.ofList before))
    have := List.length_pos_iff.2 (confLines_ne_nil (String.ofList rest))
    omega
  · intro h
    rw [confLines_of_oneLine h]
    rfl

/-- Some texts have as many lines as they are just if each stays on one. -/
theorem length_flatMap_confLines :
    l.length ≤ (l.flatMap confLines).length ∧
      ((l.flatMap confLines).length = l.length ↔ ∀ s ∈ l, OneLine s) := by
  induction l with
  | nil => simp
  | cons s rest ih =>
    have hpos := List.length_pos_iff.2 (confLines_ne_nil s)
    rw [List.flatMap_cons, List.length_append, List.length_cons, List.forall_mem_cons, ← ih.2,
      ← length_confLines_eq_one]
    omega

end Lines

/-! ### Expansions -/

/-- What the preset of a binding is written out as: the options that are read from it, and the
expansion with what they stand for. -/
structure Expands (b : Binding) (mountBase : String) (preset : Preset) (o : Options)
    (e : Expansion) : Prop where
  given : b.preset = some preset
  read : Options.read preset.service preset.settings = .ok o
  expand : expand b mountBase = .ok e

/-- What the options of a binding's preset stand for. -/
def Options.generateFor (o : Options) (preset : Preset) (b : Binding) (mountBase : String) :
    Generated :=
  o.generate preset.resource (directory mountBase b.name)

/-- The lines that a user has written by hand. -/
def handwritten (b : Binding) : List String :=
  if Text.trim b.conf = "" then [] else confLines (Text.trim b.conf)

section Expansions
variable {b : Binding} {mountBase : String} {preset : Preset} {o : Options} {e : Expansion}
theorem expands_of_read (given : b.preset = some preset)
    (named : isBlankText preset.resource = false)
    (read : Options.read preset.service preset.settings = .ok o) :
    ∃ e, Expands b mountBase preset o e := by
  obtain ⟨e, h⟩ : ∃ e, expand b mountBase = .ok e := by
    unfold expand
    rw [given]
    dsimp only
    rw [named, if_neg Bool.false_ne_true, read]
    exact ⟨_, rfl⟩
  exact ⟨e, given, read, h⟩

/-- What is generated comes before what is written by hand. -/
theorem Expands.eq (h : Expands b mountBase preset o e) :
    e.templates = (o.generateFor preset b mountBase).templates ∧
      e.binding = {
        name := b.name
        sources := (o.generateFor preset b mountBase).sources ++ b.sources
        conf := joinLines ([joinLines ((o.generateFor preset b mountBase).settings.map (·.line)),
          Text.trim b.conf].filter (!·.isEmpty)) } := by
  have hexpand := h.expand
  unfold Binding.expand at hexpand
  rw [h.given] at hexpand
  dsimp only at hexpand
  split at hexpand
  · cases hexpand
  · obtain ⟨o', hread, hexpand⟩ := bind_eq_ok.1 hexpand
    obtain rfl : o = o' := Except.ok.inj (h.read.symm.trans hread)
    cases hexpand
    exact ⟨rfl, rfl⟩

end Expansions

/-! ### Names -/

section Names
variable {o o' : Options}

/-- Whether the same words are chosen, whatever text is given to the other options. -/
structure SameChoices (o o' : Options) : Prop where
  service : o.service = o'.service
  words : ∀ option allowed, (option, .oneOf allowed) ∈ o.service.rules →
    o.get? option = o'.get? option

/-- The names of the settings follow from the service and the words that are chosen. -/
theorem SameChoices.names_eq (h : SameChoices o o') (resource dir resource' dir' : String) :
    (o.generate resource dir).settings.map (·.name) =
      (o'.generate resource' dir').settings.map (·.name) := by
  obtain ⟨hservice, hwords⟩ := h
  unfold Options.generate
  rw [← hservice]
  cases hs : o.service with
  | eck =>
    rw [hs] at hwords
    have htls := hwords "tls" _ (.tail _ (.head _))
    unfold generateEck
    dsimp only
    rw [htls]
    cases (o'.get? "tls").getD "true" == "true" <;> simp [storeSettings]
  | strimzi =>
    rw [hs] at hwords
    have hauth := hwords "auth" _ (.head _)
    have hlistener := hwords "listener" _ (.tail _ (.tail _ (.head _)))
    unfold generateStrimzi
    dsimp only
    rw [hauth, hlistener]
    generalize (o'.get? "auth").getD "anonymous" = auth
    generalize (o'.get? "listener").getD _ = listener
    cases auth == "scram-sha-512" <;> cases auth == "tls" <;> cases listener == "tls" <;>
      simp [storeSettings]
  | crunchy => rfl

/-- The names of all settings that a service can have. -/
def Backing.settingNames : Backing → List String
  | .eck =>
    ["elasticsearch.client", "elasticsearch.addressList", "elasticsearch.restClient.username",
      "elasticsearch.restClient.password"] ++
    ["elasticsearch.restClient.truststore.path", "elasticsearch.restClient.truststore.password",
      "elasticsearch.restClient.truststore.type"]
  | .strimzi =>
    ["kafka.enabled", "kafka.bootstrap.servers", "kafka.security.protocol"] ++
    ["kafka.sasl.mechanism", "kafka.sasl.jaas.config"] ++
    ["kafka.ssl.truststore.location", "kafka.ssl.truststore.password",
      "kafka.ssl.truststore.type"] ++
    ["kafka.ssl.keystore.location", "kafka.ssl.keystore.password", "kafka.ssl.keystore.type"]
  | .crunchy => ["nuxeo.db.host", "nuxeo.db.port", "nuxeo.db.user", "nuxeo.db.password"]

theorem when_sublist {α : Type} (l : List α) (wanted : Bool) :
    (if wanted then l else []).Sublist l := by
  cases wanted with
  | true => exact .refl _
  | false => exact List.nil_sublist _

theorem Options.names_sublist (o : Options) (resource dir : String) :
    ((o.generate resource dir).settings.map (·.name)).Sublist o.service.settingNames := by
  unfold Options.generate
  cases o.service with
  | eck =>
    unfold generateEck
    dsimp only
    rw [List.map_append]
    exact (List.Sublist.refl _).append ((when_sublist _ _).map _)
  | strimzi =>
    unfold generateStrimzi
    dsimp only
    rw [List.map_append, List.map_append, List.map_append]
    refine (((List.Sublist.refl _).append ?_).append ?_).append ?_
    · exact (when_sublist _ _).map _
    · exact (when_sublist _ _).map _
    · exact (when_sublist _ _).map _
  | crunchy => exact .refl _

/-- No two settings have one name, and no name holds an equals sign or a line break. -/
theorem Options.names_clean (o : Options) (resource dir : String) :
    ((o.generate resource dir).settings.map (·.name)).Nodup ∧
      ∀ s ∈ (o.generate resource dir).settings, OneLine s.name ∧ '=' ∉ s.name.toList := by
  have hsub := o.names_sublist resource dir
  have hnodup : o.service.settingNames.Nodup := by cases o.service <;> decide
  have hclean : ∀ name ∈ o.service.settingNames, OneLine name ∧ '=' ∉ name.toList := by
    cases o.service <;> decide
  exact ⟨hnodup.sublist hsub, fun s hs => hclean _ (hsub.subset (List.mem_map_of_mem hs))⟩

theorem Options.settings_ne_nil (o : Options) (resource dir : String) :
    (o.generate resource dir).settings ≠ [] := by
  unfold Options.generate
  cases o.service <;> exact List.cons_ne_nil _ _

end Names

/-! ### Values -/

section Values
variable {o : Options} {resource dir user : String}

theorem storeSettings_oneLine {location password type file passEnv : String} (hfile : OneLine file)
    (henv : OneLine (placeholder passEnv)) :
    ∀ s ∈ storeSettings location password type file passEnv, OneLine s.value := by
  unfold storeSettings
  simp only [List.forall_mem_cons]
  exact ⟨hfile, henv, by decide, nofun⟩

theorem forall_mem_when {α : Type} {l : List α} {P : α → Prop} (h : ∀ a ∈ l, P a) (wanted : Bool) :
    ∀ a ∈ (if wanted then l else []), P a :=
  fun a ha => h a ((when_sublist l wanted).subset ha)

theorem storeFile_oneLine {stem : String} (hdir : OneLine dir) (h : OneLine stem)
    (kind : StoreKind) : OneLine (dir ++ "/" ++ storeFile stem kind) := by
  refine (hdir.append (by decide)).append ((h.append (by decide)).append ?_ |>.append (by decide))
  cases kind <;> decide

section Given
variable (hresource : OneLine resource) (hdir : OneLine dir)
  (huser : ∀ user, o.get? "user" = some user → OneLine user)

include huser in
theorem getD_oneLine {default : String} (h : OneLine default) :
    OneLine ((o.get? "user").getD default) := by
  cases hget : o.get? "user" with
  | none => exact h
  | some user => exact huser user hget

include hresource huser

theorem generateCrunchy_oneLine : ∀ s ∈ (generateCrunchy resource o).settings, OneLine s.value := by
  have hgiven : OneLine ((o.get? "user").getD "postgres") := getD_oneLine huser (by decide)
  unfold generateCrunchy
  simp only [List.forall_mem_cons]
  exact ⟨hresource, by decide, hgiven, by decide, nofun⟩

include hdir

theorem generateEck_oneLine : ∀ s ∈ (generateEck resource dir o).settings, OneLine s.value := by
  have hgiven : OneLine ((o.get? "user").getD "elastic") := getD_oneLine huser (by decide)
  unfold generateEck
  dsimp only
  refine List.forall_mem_append.2 ⟨?_, forall_mem_when (storeSettings_oneLine ?_ ?_) _⟩
  · simp only [List.forall_mem_cons]
    refine ⟨by decide, ?_, hgiven, by decide, nofun⟩
    exact ((Lacks.when (by decide) (by decide) _).append (by decide)).append hresource |>.append
      (by decide)
  · exact storeFile_oneLine hdir (by decide) _
  · decide

theorem generateStrimzi_oneLine :
    ∀ s ∈ (generateStrimzi resource dir o).settings, OneLine s.value := by
  have hgiven : OneLine ((o.get? "user").getD "") := getD_oneLine huser (by decide)
  unfold generateStrimzi
  dsimp only
  simp only [List.forall_mem_append]
  refine ⟨⟨⟨?_, forall_mem_when ?_ _⟩, forall_mem_when (storeSettings_oneLine ?_ (by decide)) _⟩,
    forall_mem_when (storeSettings_oneLine ?_ (by decide)) _⟩
  · simp only [List.forall_mem_cons]
    refine ⟨by decide, ?_, ?_, nofun⟩
    · exact (hresource.append (by decide)).append (.when (by decide) (by decide) _)
    · split <;> decide
  · simp only [List.forall_mem_cons]
    refine ⟨by decide, ?_, nofun⟩
    exact (((Lacks.append (by decide) hgiven).append (by decide)).append (by decide)).append
      (by decide)
  · exact storeFile_oneLine hdir (by decide) _
  · exact storeFile_oneLine hdir (by decide) _

/-- Text on one line is filled in on one line. -/
theorem Options.values_oneLine : ∀ s ∈ (o.generate resource dir).settings, OneLine s.value := by
  unfold Options.generate
  cases o.service with
  | eck => exact generateEck_oneLine hresource hdir huser
  | strimzi => exact generateStrimzi_oneLine hresource hdir huser
  | crunchy => exact generateCrunchy_oneLine hresource huser

end Given

end Values

/-! ### Settings of a binding -/

section Settings
variable {s : Setting} {l : List Setting}

theorem Setting.oneLine_line (named : OneLine s.name) : OneLine s.line ↔ OneLine s.value := by
  unfold line OneLine
  rw [lacks_append, lacks_append, and_iff_right]
  exact ⟨named, by decide⟩

theorem Setting.settingName_line (named : '=' ∉ s.name.toList) : settingName s.line = s.name := by
  unfold settingName line
  have hcut : cutAt? '=' (s.name ++ "=" ++ s.value) = some (s.name, s.value) :=
    cutAt?_append named s.value
  rw [hcut]
  rfl

theorem Setting.line_ne_empty : s.line ≠ "" := by
  intro h
  have hlength := congrArg String.length h
  simp [line] at hlength

/-- Settings on their lines are one line for each just if every value stays on one. -/
theorem length_flatMap_lines (named : ∀ s ∈ l, OneLine s.name) :
    (l.flatMap fun s => confLines s.line).length = l.length ↔ ∀ s ∈ l, OneLine s.value := by
  have h := (length_flatMap_confLines (l := l.map (·.line))).2
  rw [List.flatMap_map, List.length_map, List.forall_mem_map] at h
  exact h.trans (forall₂_congr fun s hs => Setting.oneLine_line (named s hs))

/-- What is on the line of each setting is found under its name. -/
theorem settingNames_flatMap_lines (named : ∀ s ∈ l, OneLine s.name ∧ '=' ∉ s.name.toList)
    (clean : ∀ s ∈ l, OneLine s.value) :
    (l.flatMap fun s => confLines s.line).map settingName = l.map (·.name) := by
  induction l with
  | nil => rfl
  | cons s rest ih =>
    obtain ⟨⟨hline, hname⟩, hrest⟩ := List.forall_mem_cons.1 named
    obtain ⟨hvalue, hclean⟩ := List.forall_mem_cons.1 clean
    rw [List.flatMap_cons, List.map_append, ih hrest hclean,
      confLines_of_oneLine ((Setting.oneLine_line hline).2 hvalue), List.map_singleton,
      Setting.settingName_line hname, List.map_cons, List.singleton_append]

end Settings

theorem joinLines_ne_empty {l : List String} (ne : l ≠ []) (filled : ∀ s ∈ l, s ≠ "") :
    joinLines l ≠ "" := by
  unfold joinLines
  cases l with
  | nil => exact absurd rfl ne
  | cons s rest =>
    cases rest with
    | nil =>
      rw [String.intercalate_singleton]
      exact filled s List.mem_cons_self
    | cons t rest =>
      rw [String.intercalate_cons_cons]
      intro h
      have hlength := congrArg String.length h
      simp at hlength

section Expansions
variable {b b' : Binding} {mountBase mountBase' : String} {preset preset' : Preset}
  {o o' : Options} {e e' : Expansion}

theorem Options.lines_ne_nil (o : Options) (preset : Preset) (b : Binding) (mountBase : String) :
    (o.generateFor preset b mountBase).settings.map (·.line) ≠ [] :=
  mt List.map_eq_nil_iff.1 (o.settings_ne_nil _ _)

/-- The configuration of an expansion is what is generated and what is written by hand, unless
there is none. -/
theorem Expands.conf_eq (h : Expands b mountBase preset o e) :
    e.binding.conf = joinLines (joinLines ((o.generateFor preset b mountBase).settings.map (·.line))
      :: if Text.trim b.conf = "" then [] else [Text.trim b.conf]) := by
  have hfilled : joinLines ((o.generateFor preset b mountBase).settings.map (·.line)) ≠ "" :=
    joinLines_ne_empty (o.lines_ne_nil preset b mountBase)
      (List.forall_mem_map.2 fun s _ => s.line_ne_empty)
  rw [h.eq.2]
  dsimp only
  rw [List.filter_cons_of_pos (by simpa using hfilled)]
  split
  · next hconf => rw [hconf, List.filter_cons_of_neg (by decide), List.filter_nil]
  · next hconf => rw [List.filter_cons_of_pos (by simpa using hconf), List.filter_nil]

/-- The lines of an expansion are those of the settings and those written by hand. -/
theorem Expands.lines_eq (h : Expands b mountBase preset o e) :
    confLines e.binding.conf =
      ((o.generateFor preset b mountBase).settings.flatMap fun s => confLines s.line) ++
        handwritten b := by
  rw [h.conf_eq, confLines_joinLines (List.cons_ne_nil _ _), List.flatMap_cons,
    confLines_joinLines (o.lines_ne_nil preset b mountBase), List.flatMap_map]
  unfold handwritten
  split
  · rfl
  · rw [List.flatMap_singleton]

/-- There is one line for each setting just if no value has a line break. -/
theorem Expands.length_lines (h : Expands b mountBase preset o e) :
    (confLines e.binding.conf).length =
        (o.generateFor preset b mountBase).settings.length + (handwritten b).length ↔
      ∀ s ∈ (o.generateFor preset b mountBase).settings, OneLine s.value := by
  have hnamed : ∀ s ∈ (o.generateFor preset b mountBase).settings, OneLine s.name :=
    fun s hs => ((o.names_clean _ _).2 s hs).1
  rw [h.lines_eq, List.length_append, Nat.add_right_cancel_iff]
  exact length_flatMap_lines hnamed

/-- The settings are on the lines, under their names, just if no value has a line break. -/
theorem Expands.settingNames_eq (h : Expands b mountBase preset o e) :
    settingNames e.binding.conf = (o.generateFor preset b mountBase).settings.map (·.name) ++
        (handwritten b).map settingName ↔
      ∀ s ∈ (o.generateFor preset b mountBase).settings, OneLine s.value := by
  unfold settingNames
  constructor
  · intro hsame
    have hlines := congrArg List.length hsame
    rw [List.length_map, List.length_append, List.length_map, List.length_map] at hlines
    exact h.length_lines.1 hlines
  · intro clean
    have hnamed : ∀ s ∈ (o.generateFor preset b mountBase).settings,
        OneLine s.name ∧ '=' ∉ s.name.toList := (o.names_clean _ _).2
    rw [h.lines_eq, List.map_append, settingNames_flatMap_lines hnamed clean]

/-- **Free-form text fills values.** The configuration has one line for each setting, and the names
of the settings on its lines, just if no value has a line break; values that are made of text on one
line have none. The names are all different. Two bindings whose presets choose the same words for
the same service, whatever user and resource they have, then set the same names in the same
order. -/
theorem settingNames_of_expands (h : Expands b mountBase preset o e) :
    ((confLines e.binding.conf).length =
        (o.generateFor preset b mountBase).settings.length + (handwritten b).length ↔
      ∀ s ∈ (o.generateFor preset b mountBase).settings, OneLine s.value) ∧
    (settingNames e.binding.conf =
        (o.generateFor preset b mountBase).settings.map (·.name) ++
          (handwritten b).map settingName ↔
      ∀ s ∈ (o.generateFor preset b mountBase).settings, OneLine s.value) ∧
    (OneLine preset.resource → OneLine (directory mountBase b.name) →
      (∀ user, o.get? "user" = some user → OneLine user) →
        ∀ s ∈ (o.generateFor preset b mountBase).settings, OneLine s.value) ∧
    ((o.generateFor preset b mountBase).settings.map (·.name)).Nodup ∧
    ∀ {b' mountBase' preset' o' e'}, Expands b' mountBase' preset' o' e' → SameChoices o o' →
      (o.generateFor preset b mountBase).settings.map (·.name) =
        (o'.generateFor preset' b' mountBase').settings.map (·.name) ∧
      ((∀ s ∈ (o.generateFor preset b mountBase).settings, OneLine s.value) →
        (∀ s ∈ (o'.generateFor preset' b' mountBase').settings, OneLine s.value) →
          handwritten b = handwritten b' →
            settingNames e.binding.conf = settingNames e'.binding.conf) := by
  refine ⟨h.length_lines, h.settingNames_eq, Options.values_oneLine, (o.names_clean _ _).1, ?_⟩
  intro b' mountBase' preset' o' e' h' hchoices
  have hnames : (o.generateFor preset b mountBase).settings.map (·.name) =
      (o'.generateFor preset' b' mountBase').settings.map (·.name) := hchoices.names_eq _ _ _ _
  refine ⟨hnames, fun clean clean' hconf => ?_⟩
  rw [h.settingNames_eq.2 clean, h'.settingNames_eq.2 clean', hconf, hnames]

end Expansions

/-! ### A database -/

section Database
variable {user : String}

/-- The preset of a database with a user. -/
def databasePreset (user : String) : Preset :=
  { service := "Crunchy", resource := "pg", settings := ({} : Dict String).insert "user" user }

/-- A database with a user. -/
def database (user : String) : Binding := { name := "db", preset := some (databasePreset user) }

/-- The options of a database with a user. -/
def databaseOptions (user : String) : Options :=
  ⟨.crunchy, ({} : Dict String).insert "user" user⟩

theorem expands_database (user : String)
    (read : Options.read "Crunchy" (({} : Dict String).insert "user" user) =
      .ok (databaseOptions user)) :
    ∃ e, Expands (database user) "/etc/nuxeo/binding" (databasePreset user)
      (databaseOptions user) e := by
  have hnamed : isBlankText "pg" = false := by decide
  exact expands_of_read rfl hnamed read

/-- The settings of a database have a line each, and the user has the lines of its text. -/
theorem settingNames_database {e : Expansion} (h : Expands (database user) "/etc/nuxeo/binding"
      (databasePreset user) (databaseOptions user) e) :
    settingNames e.binding.conf = ["nuxeo.db.host", "nuxeo.db.port"] ++
      (confLines ("nuxeo.db.user=" ++ user)).map settingName ++ ["nuxeo.db.password"] := by
  have huser : (databaseOptions user).get? "user" = some user := Dict.get?_insert_self _ _ _
  have hsettings : ((databaseOptions user).generateFor (databasePreset user) (database user)
      "/etc/nuxeo/binding").settings = [⟨"nuxeo.db.host", "pg"⟩, ⟨"nuxeo.db.port", "5432"⟩,
        ⟨"nuxeo.db.user", user⟩, ⟨"nuxeo.db.password", placeholder "POSTGRES_PASSWORD"⟩] := by
    change (generateCrunchy "pg" (databaseOptions user)).settings = _
    unfold generateCrunchy
    rw [huser]
    rfl
  have hline : ∀ s : Setting, OneLine s.line → '=' ∉ s.name.toList →
      (confLines s.line).map settingName = [s.name] := by
    intro s hline hname
    rw [confLines_of_oneLine hline, List.map_singleton, Setting.settingName_line hname]
  have hwritten : handwritten (database user) = [] := if_pos (by decide : Text.trim "" = "")
  unfold settingNames
  rw [h.lines_eq, hsettings, hwritten]
  simp only [List.flatMap_cons, List.map_append, List.flatMap_nil]
  rw [hline _ (by decide) (by decide), hline _ (by decide) (by decide),
    hline ⟨"nuxeo.db.password", _⟩ (by decide) (by decide)]
  simp only [List.map_nil, List.append_nil, List.append_assoc]
  rfl

/-- A user on one line leaves the four settings as they are. -/
theorem settingNames_of_expands_database : ∃ e,
    Expands (database "nuxeo") "/etc/nuxeo/binding" (databasePreset "nuxeo")
      (databaseOptions "nuxeo") e ∧
    settingNames e.binding.conf =
      ["nuxeo.db.host", "nuxeo.db.port", "nuxeo.db.user", "nuxeo.db.password"] := by
  obtain ⟨e, h⟩ := expands_database "nuxeo" (by decide)
  obtain ⟨-, hnames, hclean, -⟩ := settingNames_of_expands h
  refine ⟨e, h, (hnames.2 (hclean (by decide) (by decide) ?_)).trans rfl⟩
  rintro _ ⟨⟩
  decide

/-- A user of two lines is taken as it is, and its second line is a setting: it follows the one of
the same name that is made from the resource. -/
theorem not_filling_twoLines :
    ∃ e e', expand (database "nuxeo") "/etc/nuxeo/binding" = .ok e ∧
      expand (database "nuxeo\nnuxeo.db.host=elsewhere") "/etc/nuxeo/binding" = .ok e' ∧
      settingNames e.binding.conf =
        ["nuxeo.db.host", "nuxeo.db.port", "nuxeo.db.user", "nuxeo.db.password"] ∧
      settingNames e'.binding.conf =
        ["nuxeo.db.host", "nuxeo.db.port", "nuxeo.db.user", "nuxeo.db.host",
          "nuxeo.db.password"] := by
  obtain ⟨e, h⟩ := expands_database "nuxeo" (by decide)
  obtain ⟨e', h'⟩ := expands_database "nuxeo\nnuxeo.db.host=elsewhere" (by decide)
  have hone : confLines "nuxeo.db.user=nuxeo" = ["nuxeo.db.user=nuxeo"] :=
    confLines_of_oneLine (by decide)
  have hmore : confLines "nuxeo.db.host=elsewhere" = ["nuxeo.db.host=elsewhere"] :=
    confLines_of_oneLine (by decide)
  have htwo := confLines_append "nuxeo.db.user=nuxeo" "nuxeo.db.host=elsewhere"
  rw [hone, hmore] at htwo
  refine ⟨e, e', h.expand, h'.expand, ?_, ?_⟩
  · rw [settingNames_database h]
    exact congrArg
      (["nuxeo.db.host", "nuxeo.db.port"] ++ ·.map settingName ++ ["nuxeo.db.password"]) hone
  · rw [settingNames_database h']
    exact congrArg
      (["nuxeo.db.host", "nuxeo.db.port"] ++ ·.map settingName ++ ["nuxeo.db.password"]) htwo

end Database

end ServiceBinding.Binding
