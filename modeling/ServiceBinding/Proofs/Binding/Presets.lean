import Mathlib.Data.List.DropRight
import Mathlib.Data.List.Flatten
import Mathlib.Data.List.Nodup
import ServiceBinding.Proofs.Binding.Filling
import ServiceBinding.Proofs.Binding.Given
import ServiceBinding.Proofs.Binding.Mentions
import ServiceBinding.Proofs.Binding.Options
import ServiceBinding.Proofs.Binding.Refusing

/-!
The three things that a preset is written out as are put together in different places: the lines of
the configuration, the projections, and then the volumes and mounts of the server. The settings
that stand for one variable or one key store are `Coherent` with its source, and what a service
stands for is put together from such parts (`coherent_generate`). So the text mentions exactly the
variables that are defined, and names exactly the files that are made and shown
(`agrees_of_expands`), unless the name of the binding brings in a variable or the directory is the
root, which the address of a cluster would name a file of (`not_agrees_search`).
-/
namespace ServiceBinding.Binding
open Crypto Object Text Workload

/-! ### Parts -/

/-- The variables that some sources define. -/
def variablesOf (sources : List SourceRef) : List String :=
  (sources.flatMap (·.projections)).filterMap Projection.variableName?

/-- The key stores that some sources are made into. -/
def storesOf (sources : List SourceRef) : List StoreTransform :=
  (sources.flatMap (·.projections)).filterMap (·.transform)

/-- The characters of some settings, each on a line that begins with a line break. -/
def followed (settings : List Setting) : List Char :=
  settings.flatMap fun s => '\n' :: s.line.toList

/-- Whether a text has no dollar sign and no slash. -/
def Plain (text : String) : Prop := Lacks '$' text ∧ Lacks '/' text

instance (text : String) : Decidable (Plain text) := inferInstanceAs (Decidable (_ ∧ _))

theorem Plain.append {s t : String} (h : Plain s) (h' : Plain t) : Plain (s ++ t) :=
  ⟨h.1.append h'.1, h.2.append h'.2⟩

/-- Whether some sources and some settings agree: the sources can be checked, and the settings
mention the variables and lead to the key stores of the sources. -/
structure Coherent (m : List Char) (sources : List SourceRef) (settings : List Setting) : Prop where
  checked : ∀ s ∈ sources, checkSource .builtin s = .ok (.keyed .secret)
  mentions : Spells (followed settings) (variablesOf sources)
  leads : Leads m (followed settings) ((storesOf sources).map (·.store.toList))

section Parts
variable {m : List Char} {sources more : List SourceRef} {settings others rest : List Setting}
  {c : Char}

theorem followed_append (settings others : List Setting) :
    followed (settings ++ others) = followed settings ++ followed others :=
  List.flatMap_append

theorem infix_followed {s : Setting} (hs : s ∈ settings) :
    s.value.toList <:+: followed settings := by
  have hline : s.value.toList <:+: '\n' :: s.line.toList := by
    unfold Setting.line
    rw [String.toList_append]
    exact (List.suffix_append ('\n' :: (s.name ++ "=").toList) _).isInfix
  have hpart : '\n' :: s.line.toList <:+: followed settings :=
    List.infix_of_mem_flatten (List.mem_map_of_mem hs)
  exact hline.trans hpart

theorem Coherent.append (h : Coherent m sources settings) (h' : Coherent m more others) :
    Coherent m (sources ++ more) (settings ++ others) where
  checked := List.forall_mem_append.2 ⟨h.checked, h'.checked⟩
  mentions := by
    unfold variablesOf
    rw [followed_append, List.flatMap_append, List.filterMap_append]
    exact h.mentions.append h'.mentions
  leads := by
    unfold storesOf
    rw [followed_append, List.flatMap_append, List.filterMap_append, List.map_append]
    exact h.leads.append h'.leads

theorem Coherent.when {wanted : Bool} (h : wanted = true → Coherent m sources settings) :
    Coherent m (if wanted then sources else []) (if wanted then settings else []) := by
  cases wanted with
  | true => exact h rfl
  | false => exact ⟨nofun, .nil, .nil⟩

/-- A setting spells what its value does. -/
theorem Spells.setting {name value : String} {names names' : List String}
    (named : Lacks '$' name) (h : Spells value.toList names) (h' : Spells (followed rest) names') :
    Spells (followed (⟨name, value⟩ :: rest)) (names ++ names') := by
  have hname : '$' ∉ '\n' :: (name ++ "=").toList :=
    List.not_mem_cons_of_ne_of_not_mem (by decide) (named.append (by decide))
  have hline := (Spells.of_notMem hname).append h
  rw [List.nil_append, List.cons_append, ← String.toList_append] at hline
  unfold followed
  rw [List.flatMap_cons]
  exact hline.append h'

theorem Spells.of_lacks {text : String} (h : Lacks '$' text) : Spells text.toList [] := .of_notMem h

theorem Spells.placeholder {name : String} (closed : Lacks '}' name) (clear : Lacks '$' name) :
    Spells (placeholder name).toList [name] := by
  have h := Spells.mention closed clear .nil
  rwa [List.append_nil] at h

/-- Settings have a character just in a name or a value, unless it is one of the signs between. -/
theorem notMem_followed (break_ne : c ≠ '\n') (sign_ne : c ≠ '=')
    (h : ∀ s ∈ settings, Lacks c s.name ∧ Lacks c s.value) : c ∉ followed settings := by
  unfold followed
  rw [List.mem_flatMap]
  rintro ⟨s, hs, hc⟩
  rcases List.mem_cons.1 hc with he | hc
  · exact break_ne he
  · have hsign : Lacks c "=" := fun hmem => sign_ne (by simpa using hmem)
    exact (((h s hs).1.append hsign).append (h s hs).2) hc

theorem checkSource_secretSource {name : String} {p : Projection} (named : name ≠ "")
    (valid : checkProjection p = .ok ()) (plain : p.path = none) :
    checkSource .builtin (secretSource name [p]) = .ok (.keyed .secret) := by
  have hnamed : name.isEmpty = false := String.isEmpty_eq_false_iff.2 named
  have hresolve : Catalog.builtin.resolve "" "v1" "Secret" = .ok (.keyed .secret) := rfl
  have hall : [p].forM checkProjection = .ok () := forM_eq_ok.2 (List.forall_mem_singleton.2 valid)
  have hpath : [p].any (·.path.isSome) = false := by simp [plain]
  unfold checkSource secretSource
  dsimp only
  rw [hnamed, hresolve, hall, hpath, Bool.and_false, if_neg Bool.false_ne_true]
  rfl

/-- Settings without variables and paths need no sources. -/
theorem coherent_of_plain (h : ∀ s ∈ settings, Plain s.name ∧ Plain s.value) :
    Coherent m [] settings where
  checked := nofun
  mentions := .of_notMem <| notMem_followed (by decide) (by decide)
    fun s hs => ⟨(h s hs).1.1, (h s hs).2.1⟩
  leads := .of_notMem <| notMem_followed (by decide) (by decide)
    fun s hs => ⟨(h s hs).1.2, (h s hs).2.2⟩

/-- Settings without variables and paths can stand before others. -/
theorem Coherent.after (h : ∀ s ∈ settings, Plain s.name ∧ Plain s.value)
    (h' : Coherent m sources others) : Coherent m sources (settings ++ others) :=
  (coherent_of_plain h).append h'

/-- A variable goes with settings that mention it. -/
theorem coherent_variable {name key env : String} (named : name ≠ "")
    (mentions : Spells (followed settings) [env]) (leads : Leads m (followed settings) []) :
    Coherent m [secretSource name [variableFrom key env]] settings where
  checked := List.forall_mem_singleton.2 (checkSource_secretSource named rfl rfl)
  mentions := mentions
  leads := leads

theorem dollar_mem_append (before name : String) : '$' ∈ (before ++ placeholder name).toList := by
  rw [String.toList_append, toList_placeholder]
  exact List.mem_append_right _ List.mem_cons_self

/-- The settings of a key store mention its password. -/
theorem spells_storeSettings {location password type file passEnv : String}
    (plain : ∀ text ∈ [location, password, type, file, passEnv], Lacks '$' text)
    (closed : Lacks '}' passEnv) :
    Spells (followed (storeSettings location password type file passEnv)) [passEnv] := by
  simp only [List.forall_mem_cons] at plain
  obtain ⟨hlocation, hpassword, htype, hfile, henv, -⟩ := plain
  have hlast : Spells (followed [⟨type, "JKS"⟩]) ([] ++ []) :=
    .setting htype (.of_lacks (by decide)) .nil
  have hmiddle : Spells (followed [⟨password, placeholder passEnv⟩, ⟨type, "JKS"⟩])
      ([passEnv] ++ ([] ++ [])) := .setting hpassword (.placeholder closed henv) hlast
  exact .setting hlocation (.of_lacks hfile) hmiddle

/-- The settings of a key store lead to its file. -/
theorem leads_storeSettings {location password type dir file passEnv : String}
    (rooted : dir.toList = '/' :: m) (oneLine : OneLine file)
    (plain : ∀ text ∈ [location, password, type, file, passEnv], Lacks '/' text) :
    Leads m (followed (storeSettings location password type (dir ++ "/" ++ file) passEnv))
      [file.toList] := by
  simp only [List.forall_mem_cons] at plain
  obtain ⟨hlocation, hpassword, htype, hfile, henv, -⟩ := plain
  have hsplit : followed (storeSettings location password type (dir ++ "/" ++ file) passEnv) =
      ('\n' :: (location ++ "=").toList) ++ (slashed m ++ (file.toList ++ '\n' ::
        (password ++ "=" ++ placeholder passEnv).toList ++
          '\n' :: (type ++ "=" ++ "JKS").toList)) := by
    simp [followed, storeSettings, Setting.line, slashed, rooted]
  have hbefore : '/' ∉ '\n' :: (location ++ "=").toList :=
    List.not_mem_cons_of_ne_of_not_mem (by decide) (hlocation.append (by decide))
  have hafter : '/' ∉ '\n' :: (type ++ "=" ++ "JKS").toList :=
    List.not_mem_cons_of_ne_of_not_mem (by decide)
      ((htype.append (by decide)).append (by decide))
  have hpassEnv : Lacks '/' (placeholder passEnv) :=
    (Lacks.append (by decide) henv).append (by decide)
  have hbetween : '/' ∉ file.toList ++ '\n' :: (password ++ "=" ++ placeholder passEnv).toList := by
    rw [List.mem_append, not_or]
    exact ⟨hfile, List.not_mem_cons_of_ne_of_not_mem (by decide)
      ((hpassword.append (by decide)).append hpassEnv)⟩
  rw [hsplit]
  exact (Leads.of_notMem hbefore).append
    (.path oneLine hbetween (dollar_mem_append _ _) (.of_notMem hafter))

/-- A key store goes with the settings that name its file and mention its password. -/
theorem coherent_store {name cert stem passEnv dir location password type : String}
    {kind : StoreKind} {key : Option String} (named : name ≠ "")
    (valid : checkProjection (generatedStore kind cert key stem passEnv) = .ok ())
    (rooted : dir.toList = '/' :: m) (clear : '$' ∉ m)
    (plain : ∀ text ∈ [location, password, type, storeFile stem kind, passEnv],
      Plain text) (oneLine : OneLine (storeFile stem kind))
    (closed : Lacks '}' passEnv) :
    Coherent m [secretSource name [generatedStore kind cert key stem passEnv]]
      (storeSettings location password type (dir ++ "/" ++ storeFile stem kind) passEnv) where
  checked := List.forall_mem_singleton.2 (checkSource_secretSource named valid rfl)
  mentions := by
    refine spells_storeSettings ?_ closed
    simp only [List.forall_mem_cons] at plain ⊢
    obtain ⟨hlocation, hpassword, htype, hfile, henv, -⟩ := plain
    have hdir : Lacks '$' dir := by
      unfold Lacks
      rw [rooted]
      exact List.not_mem_cons_of_ne_of_not_mem (by decide) clear
    exact ⟨hlocation.1, hpassword.1, htype.1, (hdir.append (by decide)).append hfile.1, henv.1,
      nofun⟩
  leads := leads_storeSettings rooted oneLine fun text htext => (plain text htext).2

end Parts

/-! ### Services -/

theorem append_ne_empty {s t : String} (h : t ≠ "") : s ++ t ≠ "" :=
  fun he => h (String.append_eq_empty_iff.1 he).2

section Services
variable {m : List Char} {o : Options} {resource dir : String} (named : Plain resource)
  (used : ∀ user, o.get? "user" = some user → Plain user) (rooted : dir.toList = '/' :: m)
  (clear : '$' ∉ m)

theorem plain_getD (used : ∀ user, o.get? "user" = some user → Plain user) {default : String}
    (h : Plain default) : Plain ((o.get? "user").getD default) := by
  cases hget : o.get? "user" with
  | none => exact h
  | some user => exact used user hget

/-- The settings that lead to an encrypted endpoint or a plain one. -/
def addressSettings (scheme resource user : String) : List Setting :=
  [⟨"elasticsearch.client", "RestClient"⟩,
    ⟨"elasticsearch.addressList", scheme ++ "://" ++ resource ++ "-es-http:9200"⟩,
    ⟨"elasticsearch.restClient.username", user⟩,
    ⟨"elasticsearch.restClient.password", placeholder "ELASTIC_PASSWORD"⟩]

/-- The two slashes of the address, what is before them, and what is behind them. -/
theorem followed_addressSettings (scheme resource user : String) :
    followed (addressSettings scheme resource user) =
      ("\nelasticsearch.client=RestClient\nelasticsearch.addressList=" ++ scheme ++ ":").toList ++
        (['/', '/'] ++ ((resource ++ "-es-http:9200").toList ++ '\n' ::
          ("elasticsearch.restClient.username=" ++ user ++ "\nelasticsearch.restClient.password=" ++
            placeholder "ELASTIC_PASSWORD").toList)) := by
  simp [followed, addressSettings, Setting.line]

/-- The address of the service is the one place besides the key stores that has slashes. -/
theorem coherent_address {name key scheme user : String} (filled : name ≠ "")
    (named : Plain resource) (used : Plain user) (plain : Plain scheme) :
    Coherent m [secretSource name [variableFrom key "ELASTIC_PASSWORD"]]
      (addressSettings scheme resource user) := by
  refine coherent_variable filled ?_ ?_
  · have hpassword : Spells (followed
        [⟨"elasticsearch.restClient.password", placeholder "ELASTIC_PASSWORD"⟩])
        (["ELASTIC_PASSWORD"] ++ []) :=
      .setting (by decide) (.placeholder (by decide) (by decide)) .nil
    have haddress := ((plain.1.append (by decide : Lacks '$' "://")).append named.1).append
      (by decide : Lacks '$' "-es-http:9200")
    exact .setting (by decide) (.of_lacks (by decide)) <|
      .setting (by decide) (.of_lacks haddress) <|
        .setting (by decide) (.of_lacks used.1) hpassword
  · have hbefore := ((by decide : Lacks '/'
      "\nelasticsearch.client=RestClient\nelasticsearch.addressList=").append plain.2).append
        (by decide : Lacks '/' ":")
    have hresource := named.2.append (by decide : Lacks '/' "-es-http:9200")
    have hlogin := (((by decide : Lacks '/' "elasticsearch.restClient.username=").append
      used.2).append (by decide : Lacks '/' "\nelasticsearch.restClient.password=")).append
        (by decide : Lacks '/' (placeholder "ELASTIC_PASSWORD"))
    have hgap : '/' ∉ (resource ++ "-es-http:9200").toList ++ '\n' ::
        ("elasticsearch.restClient.username=" ++ user ++ "\nelasticsearch.restClient.password=" ++
          placeholder "ELASTIC_PASSWORD").toList := by
      rw [List.mem_append, not_or]
      exact ⟨hresource, List.not_mem_cons_of_ne_of_not_mem (by decide) hlogin⟩
    have hclosed : '$' ∈ (resource ++ "-es-http:9200").toList ++ '\n' ::
        ("elasticsearch.restClient.username=" ++ user ++ "\nelasticsearch.restClient.password=" ++
          placeholder "ELASTIC_PASSWORD").toList :=
      List.mem_append_right _ (List.mem_cons_of_mem _ (dollar_mem_append _ _))
    have haddress := Leads.address (m := m) hgap hclosed .nil
    rw [List.append_nil] at haddress
    rw [followed_addressSettings]
    exact (Leads.of_notMem hbefore).append haddress

/-- The password of the user goes with the settings that mention it last. -/
theorem coherent_login {name login user : String} (filled : name ≠ "") (plain : Plain login)
    (used : Plain user) :
    Coherent m [secretSource name [variableFrom "password" "KAFKA_PASSWORD"]]
      [⟨"kafka.sasl.mechanism", "SCRAM-SHA-512"⟩,
        ⟨"kafka.sasl.jaas.config",
          login ++ user ++ "\" password=\"" ++ placeholder "KAFKA_PASSWORD" ++ "\";"⟩] := by
  have hbefore : Plain (login ++ user ++ "\" password=\"") :=
    (plain.append used).append (by decide)
  refine coherent_variable filled ?_ (.of_notMem ?_)
  · have hvalue : Spells (login ++ user ++ "\" password=\"" ++ placeholder "KAFKA_PASSWORD" ++
        "\";").toList ([] ++ ["KAFKA_PASSWORD"] ++ []) := by
      rw [String.toList_append, String.toList_append]
      exact ((Spells.of_lacks hbefore.1).append (.placeholder (by decide) (by decide))).append
        (.of_lacks (by decide))
    exact .setting (by decide) (.of_lacks (by decide)) (.setting (by decide) hvalue .nil)
  · have hvalue := (hbefore.2.append (by decide : Lacks '/' (placeholder "KAFKA_PASSWORD"))).append
      (by decide : Lacks '/' "\";")
    refine notMem_followed (by decide) (by decide) ?_
    simp only [List.forall_mem_cons]
    exact ⟨by decide, ⟨by decide, hvalue⟩, nofun⟩

include named used

/-- What stands for PostgreSQL agrees with itself. -/
theorem coherent_crunchy :
    Coherent m (generateCrunchy resource o).sources (generateCrunchy resource o).settings := by
  have huser : Plain ((o.get? "user").getD "postgres") := plain_getD used (by decide)
  unfold generateCrunchy
  dsimp only
  refine coherent_variable (append_ne_empty (by decide)) ?_ (.of_notMem ?_)
  · have hpassword : Spells (followed [⟨"nuxeo.db.password", placeholder "POSTGRES_PASSWORD"⟩])
        (["POSTGRES_PASSWORD"] ++ []) :=
      .setting (by decide) (.placeholder (by decide) (by decide)) .nil
    exact .setting (by decide) (.of_lacks named.1) <|
      .setting (by decide) (.of_lacks (by decide)) <|
        .setting (by decide) (.of_lacks huser.1) hpassword
  · refine notMem_followed (by decide) (by decide) ?_
    simp only [List.forall_mem_cons]
    exact ⟨⟨by decide, named.2⟩, by decide, ⟨by decide, huser.2⟩, by decide, nofun⟩

include rooted clear

/-- What stands for Elasticsearch agrees with itself. -/
theorem coherent_eck :
    Coherent m (generateEck resource dir o).sources (generateEck resource dir o).settings := by
  have huser : Plain ((o.get? "user").getD "elastic") := plain_getD used (by decide)
  unfold generateEck
  dsimp only
  refine .append ?_ (.when fun _ => ?_)
  · exact coherent_address (append_ne_empty (by decide)) named huser (by split <;> decide)
  · exact coherent_store (append_ne_empty (by decide)) rfl rooted clear (by decide) (by decide)
      (by decide)

/-- What stands for Kafka agrees with itself, if there is a user wherever access is not
anonymous. -/
theorem coherent_strimzi
    (needed : (o.get? "auth").getD "anonymous" ≠ "anonymous" → (o.get? "user").getD "" ≠ "") :
    Coherent m (generateStrimzi resource dir o).sources
      (generateStrimzi resource dir o).settings := by
  have huser : Plain ((o.get? "user").getD "") := plain_getD used (by decide)
  unfold generateStrimzi
  dsimp only
  generalize (o.get? "auth").getD "anonymous" = auth at needed ⊢
  generalize (o.get? "listener").getD _ = listener
  have hfilled : ∀ {other}, other ≠ "anonymous" → (auth == other) = true →
      (o.get? "user").getD "" ≠ "" := by
    intro other hother hauth
    exact needed (by rwa [beq_iff_eq.1 hauth])
  refine .append (.append (.after ?_ (.when fun hscram => ?_)) (.when fun _ => ?_))
    (.when fun hclient => ?_)
  · simp only [List.forall_mem_cons]
    refine ⟨by decide, ⟨by decide, (named.append (by decide)).append (by split <;> decide)⟩,
      ⟨by decide, by split <;> decide⟩, nofun⟩
  · exact coherent_login (hfilled (by decide) hscram) (by decide) huser
  · exact coherent_store (append_ne_empty (by decide)) rfl rooted clear (by decide) (by decide)
      (by decide)
  · exact coherent_store (hfilled (by decide) hclient) rfl rooted clear (by decide) (by decide)
      (by decide)

/-- What options stand for agrees with itself, if there is a user wherever access is not
anonymous. -/
theorem coherent_generate (needed : o.service = .strimzi →
      (o.get? "auth").getD "anonymous" ≠ "anonymous" → (o.get? "user").getD "" ≠ "") :
    Coherent m (o.generate resource dir).sources (o.generate resource dir).settings := by
  unfold Options.generate
  cases hservice : o.service with
  | eck => exact coherent_eck named used rooted clear
  | strimzi => exact coherent_strimzi named used rooted clear (needed hservice)
  | crunchy => exact coherent_crunchy named used

end Services

/-! ### Names -/

/-- The keys of the secret that a projection needs whose source is read by key. -/
def keysOf (p : Projection) : List String :=
  match p.transform with
  | some t => [t.store, t.password]
  | none => if p.env.isSome then [] else p.mount.toList

theorem mem_keysOf_of_needs {kind : KeyedKind} {name key : String} {values : Dict Bytes}
    {p : Projection} (h : Needs (.keyed kind name values) p key) : key ∈ keysOf p := by
  unfold keysOf
  cases h with
  | store transforms =>
    rw [transforms]
    exact List.mem_cons_self
  | password transforms =>
    rw [transforms]
    exact List.mem_cons_of_mem _ List.mem_cons_self
  | derived _ _ _ _ isStructured => cases isStructured
  | file plain _ hidden mounts keyed =>
    cases keyed
    rw [plain, hidden, mounts]
    exact List.mem_cons_self

/-- Whether no variable is defined twice, and no key of the secret is for two things. -/
structure Distinct (sources : List SourceRef) : Prop where
  once : (variablesOf sources).Nodup
  keys : ((sources.flatMap (·.projections)).flatMap keysOf).Nodup

theorem Distinct.of_sublist {sources more : List SourceRef} (h : Distinct more)
    (part : sources.Sublist more) : Distinct sources where
  once := ((part.flatMap _).filterMap _).nodup h.once
  keys := ((part.flatMap _).flatMap _).nodup h.keys

/-- No two projections need the same key. -/
theorem Distinct.pairwise {sources : List SourceRef} (h : Distinct sources) :
    (sources.flatMap (·.projections)).Pairwise fun p q => List.Disjoint (keysOf p) (keysOf q) :=
  (List.nodup_flatMap.1 h.keys).2

/-- No two key stores have the same name. -/
theorem Distinct.stores {sources : List SourceRef} (h : Distinct sources) :
    ((storesOf sources).map (·.store)).Nodup := by
  unfold storesOf
  rw [List.Nodup, List.pairwise_map, List.pairwise_filterMap]
  refine h.pairwise.imp fun hdisjoint t ht t' ht' he => ?_
  refine hdisjoint (a := t.store) ?_ ?_
  · unfold keysOf
    rw [ht]
    exact List.mem_cons_self
  · unfold keysOf
    rw [ht', he]
    exact List.mem_cons_self

/-- What options stand for defines no variable twice and has no two uses of one key. -/
theorem distinct_generate (o : Options) (resource dir : String) :
    Distinct (o.generate resource dir).sources := by
  unfold Options.generate
  cases o.service with
  | eck =>
    refine Distinct.of_sublist ⟨?_, ?_⟩ ((List.Sublist.refl _).append (when_sublist _ _))
    · exact (by decide : ["ELASTIC_PASSWORD", "ELASTIC_TS_PASS"].Nodup)
    · exact (by decide : [storeFile "elastic" .trustStore,
        "elastic" ++ "." ++ storeWord .trustStore ++ ".pass"].Nodup)
  | strimzi =>
    refine Distinct.of_sublist ⟨?_, ?_⟩
      (((when_sublist _ _).append (when_sublist _ _)).append (when_sublist _ _))
    · exact (by decide : ["KAFKA_PASSWORD", "KAFKA_TS_PASS", "KAFKA_KS_PASS"].Nodup)
    · exact (by decide : [storeFile "kafka" .trustStore,
        "kafka" ++ "." ++ storeWord .trustStore ++ ".pass", storeFile "kafka" .keyStore,
        "kafka" ++ "." ++ storeWord .keyStore ++ ".pass"].Nodup)
  | crunchy => exact ⟨(by decide : ["POSTGRES_PASSWORD"].Nodup), List.nodup_nil⟩

/-! ### Expansions -/

/-- Whether an expansion agrees with itself and with what becomes of it. -/
structure Agrees (mountBase : String) (e : Expansion) : Prop where
  checked : ∃ refs, check .builtin e.binding = .ok refs
  /-- The text mentions the variables that the sources define, and no other. -/
  mentioned : ∀ name, Mentions e.binding.conf name ↔ name ∈ variablesOf e.binding.sources
  once : (variablesOf e.binding.sources).Nodup
  /-- The files that the text names in the directory of the binding are the key stores, of which
  each is made once. -/
  named : ∀ file, NamesFile e.binding.conf (directory mountBase e.binding.name) file ↔
    ∃ t, (storesOf e.binding.sources).filter (·.store == file) = [t]
  /-- A plan that goes through has an item for each key store, under the name of its file. -/
  made : ∀ {refs found}, check .builtin e.binding = .ok refs → List.Forall₂ Answers refs found →
    ∀ {P kept draws k p plan}, Plan.gather P kept draws k p found = .ok plan →
      ∀ t ∈ storesOf e.binding.sources, { key := t.store, path := t.store } ∈ plan.items
  /-- Each key store is shown to the server in the mounted directory of the binding, under the name
  that it is made with. -/
  shown : ∀ {refs found}, check .builtin e.binding = .ok refs → List.Forall₂ Answers refs found →
    ∀ {P kept draws k plan} (i : Instance),
      Plan.gather P kept draws k { secondary := secondaryName i.name e.binding.name } found =
          .ok plan →
        ∀ {pod c pod' templates}, Fitted pod c → Fresh e.binding.name pod c →
          plan.apply e.binding.name mountBase templates pod = .ok pod' →
            ∀ t ∈ storesOf e.binding.sources,
              Shown i mountBase e.binding.name pod' t.store t.store
  /-- No two projections need the same key of the secret. -/
  apart : ∀ {refs found}, check .builtin e.binding = .ok refs → List.Forall₂ Answers refs found →
    (requests found).Pairwise fun s s' => ∀ key, s.Needs key → ¬ s'.Needs key

section Expansions
variable {b : Binding} {mountBase : String} {preset : Preset} {o : Options} {e : Expansion}
  {sources : List SourceRef} {settings : List Setting} {m : List Char}

theorem joinLines_singleton (text : String) : joinLines [text] = text :=
  String.intercalate_singleton

theorem followed_eq (ne : settings ≠ []) :
    followed settings = '\n' :: (joinLines (settings.map (·.line))).toList := by
  unfold followed joinLines
  induction settings with
  | nil => exact absurd rfl ne
  | cons s rest ih =>
    cases rest with
    | nil => simp
    | cons t rest =>
      rw [List.flatMap_cons, ih (List.cons_ne_nil t rest), List.map_cons, List.map_cons,
        List.map_cons, String.intercalate_cons_cons, String.toList_append, String.toList_append]
      simp

/-- The directory of a binding below an absolute base. -/
theorem exists_rooted {name : String} (absolute : mountBase.toList.head? = some '/')
    (base : Lacks '$' mountBase) (clear : Lacks '$' name) (below : directory mountBase name ≠ "/") :
    ∃ m, (directory mountBase name).toList = '/' :: m ∧ m ≠ [] ∧ '$' ∉ m := by
  have htrimmed : (trimEndSlashes mountBase).toList <+: mountBase.toList := by
    unfold trimEndSlashes
    rw [String.toList_ofList]
    exact List.rdropWhile_prefix _ _
  have hbase : Lacks '$' (trimEndSlashes mountBase) := fun hmem => base (htrimmed.subset hmem)
  have hclear : Lacks '$' (directory mountBase name) := (hbase.append (by decide)).append clear
  obtain ⟨m, hm⟩ : ∃ m, (directory mountBase name).toList = '/' :: m := by
    unfold directory
    rw [String.toList_append, String.toList_append]
    cases htrim : (trimEndSlashes mountBase).toList with
    | nil => exact ⟨_, rfl⟩
    | cons c rest =>
      obtain ⟨after, hwhole⟩ := htrimmed
      rw [← hwhole, htrim] at absolute
      cases absolute
      exact ⟨_, rfl⟩
  refine ⟨m, hm, ?_, fun hmem => hclear (hm ▸ List.mem_cons_of_mem _ hmem)⟩
  rintro rfl
  exact below (String.toList_inj.1 hm)

/-- Sources that are read by key are checked together as they are one by one. -/
theorem check_of_forall (h : ∀ s ∈ b.sources, checkSource .builtin s = .ok (.keyed .secret)) :
    check .builtin b = .ok (b.sources.map (·, .keyed .secret)) := by
  unfold check
  rw [mapM_eq_ok, List.forall₂_map_right_iff, List.forall₂_same]
  exact fun s hs => bind_eq_ok.2 ⟨_, h s hs, rfl⟩

section Answers
variable {refs : List (SourceRef × Access)} {found : List (SourceRef × Source)}
  (checked : check .builtin b = .ok refs) (answers : List.Forall₂ Answers refs found)
include checked answers

theorem sources_of_answers : found.map (·.1) = b.sources := by
  rw [← map_fst_check checked]
  exact (map_eq_of_forall₂ (fun h => h.1.symm) answers).symm

/-- The sources of a preset are all read by key. -/
theorem keyed_of_answers (h : ∀ s ∈ b.sources, checkSource .builtin s = .ok (.keyed .secret)) :
    ∀ s ∈ requests found, ∃ name values, s.source = .keyed .secret name values := by
  intro s hs
  obtain ⟨ref, hmem, -⟩ := mem_requests.1 hs
  obtain ⟨⟨ref', access⟩, href, hsame, hfits⟩ := exists_of_forall₂ answers _ hmem
  have hsource : ref' ∈ b.sources := map_fst_check checked ▸ List.mem_map_of_mem href
  have haccess : access = .keyed .secret :=
    Except.ok.inj ((checkSource_of_check checked _ href).symm.trans (h _ hsource))
  rw [haccess] at hfits
  generalize s.source = source at hfits ⊢
  cases hfits with
  | keyed kind name values => exact ⟨name, values, rfl⟩

/-- Requests of different projections need no key in common. -/
theorem apart_of_distinct (h : ∀ s ∈ b.sources, checkSource .builtin s = .ok (.keyed .secret))
    (distinct : Distinct b.sources) :
    (requests found).Pairwise fun s s' => ∀ key, s.Needs key → ¬ s'.Needs key := by
  have hkeyed := keyed_of_answers checked answers h
  have hprojections : (requests found).map (·.projection) = b.sources.flatMap (·.projections) := by
    rw [← sources_of_answers checked answers, List.flatMap_map]
    unfold requests
    rw [List.map_flatMap]
    refine List.flatMap_congr fun s _ => ?_
    rw [List.map_map]
    exact List.map_id _
  have hdisjoint := distinct.pairwise
  rw [← hprojections, List.pairwise_map] at hdisjoint
  refine hdisjoint.imp_of_mem fun hs hs' hdisjoint key hneeds hneeds' => ?_
  obtain ⟨name, values, hsource⟩ := hkeyed _ hs
  obtain ⟨name', values', hsource'⟩ := hkeyed _ hs'
  unfold Request.Needs at hneeds hneeds'
  rw [hsource] at hneeds
  rw [hsource'] at hneeds'
  exact hdisjoint (mem_keysOf_of_needs hneeds) (mem_keysOf_of_needs hneeds')

/-- A plan has the file of every key store that its sources are made into. -/
theorem item_of_gather {P : Primitives} {kept : Dict Bytes} {draws : Nat → Draw} {k : Nat}
    {p plan : Plan} (h : p.gather P kept draws k found = .ok plan) :
    ∀ t ∈ storesOf b.sources, { key := t.store, path := t.store } ∈ plan.items := by
  intro t ht
  obtain ⟨projection, hp, htransform⟩ := List.mem_filterMap.1 ht
  rw [← sources_of_answers checked answers, List.flatMap_map, List.mem_flatMap] at hp
  obtain ⟨s, hs, hp⟩ := hp
  obtain ⟨r, q, q', -, hreal, hgrows⟩ := Plan.realized_of_gather h s hs projection hp
  refine hgrows.items ?_
  cases hreal with
  | store htransform' hadd =>
    cases htransform.symm.trans htransform'
    obtain ⟨_, _, _, _, _, _, _, _, _, _, rfl⟩ := Plan.addStore_eq_ok.1 hadd
    exact List.mem_append_right _ (List.mem_singleton_self _)
  | literal plain | reference plain | derived plain | file plain =>
    cases plain.symm.trans htransform

/-- What a plan has an item for is shown where the plan is applied. -/
theorem shown_of_gather {P : Primitives} {kept : Dict Bytes} {draws : Nat → Draw} {k : Nat}
    {plan : Plan} {pod pod' : PodSpec} {c : Container} {templates : List String} (i : Instance)
    (gathered : Plan.gather P kept draws k { secondary := secondaryName i.name b.name } found =
      .ok plan)
    (fitted : Fitted pod c) (fresh : Fresh b.name pod c)
    (applied : plan.apply b.name mountBase templates pod = .ok pod') :
    ∀ t ∈ storesOf b.sources, Shown i mountBase b.name pod' t.store t.store := by
  intro t ht
  obtain ⟨c', happlied⟩ := Plan.applied_of_apply fitted fresh applied
  have hitem := item_of_gather checked answers gathered t ht
  obtain ⟨items, hvolume, hsame, hpaths, hmount⟩ := happlied.shown (List.ne_nil_of_mem hitem)
  rw [(Plan.grows_gather gathered).secondary] at hvolume
  exact shown_of_fitted happlied.fitted ((hsame _).2 hitem) hpaths hvolume hmount

end Answers

theorem Spells.closed {s : List Char} {names : List String} (h : Spells s names) :
    ∀ name ∈ names, '}' ∉ name.toList := by
  induction h with
  | nil => exact List.forall_mem_nil _
  | plain _ _ ih => exact ih
  | mention closed _ _ ih => exact List.forall_mem_cons.2 ⟨closed, ih⟩

/-- What the text mentions is what its settings mention. -/
theorem mentions_iff (text : followed settings = '\n' :: e.binding.conf.toList) {name : String} :
    Mentions e.binding.conf name ↔
      '}' ∉ name.toList ∧ (placeholder name).toList <:+: followed settings := by
  have hbreak : '$' ∉ ['\n'] := by decide
  unfold Mentions
  rw [text, toList_placeholder]
  exact and_congr_right fun _ =>
    (infix_append_of_notMem (t := e.binding.conf.toList) hbreak).symm

/-- The files that the text names are those that follow the directory in its settings. -/
theorem namesFile_iff {dir file : String} (text : followed settings = '\n' :: e.binding.conf.toList)
    (rooted : dir.toList = '/' :: m) :
    NamesFile e.binding.conf dir file ↔ Follows m (followed settings) file.toList := by
  have hpath : (dir ++ "/" ++ file).toList = slashed m ++ file.toList := by
    rw [String.toList_append, String.toList_append, rooted]
    rfl
  have hbreak : '\n' ≠ '/' := by decide
  rw [text, follows_cons hbreak]
  unfold NamesFile Follows
  simp only [hpath, List.append_assoc]

section Agreeing
variable (text : followed settings = '\n' :: e.binding.conf.toList)
include text

/-- Text that is spelled with some variables mentions these. -/
theorem mentions_of_spells {names : List String} (spells : Spells (followed settings) names)
    (name : String) : Mentions e.binding.conf name ↔ name ∈ names := by
  rw [mentions_iff text]
  constructor
  · rintro ⟨hclosed, h⟩
    exact (spells.infix_iff hclosed).1 h
  · intro h
    have hclosed := spells.closed name h
    exact ⟨hclosed, (spells.infix_iff hclosed).2 h⟩

/-- Text that leads to key stores of different names names each as the one of its name. -/
theorem namesFile_of_leads {dir : String} {stores : List StoreTransform}
    (rooted : dir.toList = '/' :: m) (ne : m ≠ []) (clear : '$' ∉ m)
    (leads : Leads m (followed settings) (stores.map (·.store.toList)))
    (nodup : (stores.map (·.store)).Nodup) (file : String) :
    NamesFile e.binding.conf dir file ↔ ∃ t, stores.filter (·.store == file) = [t] := by
  rw [namesFile_iff text rooted, leads.follows_iff ne clear, List.mem_map]
  constructor
  · rintro ⟨t, ht, hfile⟩
    have hstore := String.toList_inj.1 hfile
    refine ⟨t, ?_⟩
    rw [← hstore]
    exact filter_name_eq_singleton nodup (find?_name_of_mem nodup ht)
  · rintro ⟨t, ht⟩
    have hmem : t ∈ stores.filter (·.store == file) := ht ▸ List.mem_singleton_self t
    obtain ⟨hmem, hstore⟩ := List.mem_filter.1 hmem
    exact ⟨t, hmem, congrArg String.toList (beq_iff_eq.1 hstore)⟩

/-- An expansion agrees with itself if its sources and its settings do and nothing is done twice. -/
theorem agrees_of_coherent (coherent : Coherent m e.binding.sources settings)
    (distinct : Distinct e.binding.sources)
    (rooted : (directory mountBase e.binding.name).toList = '/' :: m) (ne : m ≠ [])
    (clear : '$' ∉ m) : Agrees mountBase e where
  checked := ⟨_, check_of_forall coherent.checked⟩
  mentioned := mentions_of_spells text coherent.mentions
  once := distinct.once
  named := namesFile_of_leads text rooted ne clear coherent.leads distinct.stores
  made checked answers := item_of_gather checked answers
  shown checked answers := fun i gathered => shown_of_gather checked answers i gathered
  apart checked answers := apart_of_distinct checked answers coherent.checked distinct

end Agreeing

/-- Where access is not anonymous there is a user. -/
theorem user_of_read {service : String} {settings : Dict String}
    (h : Options.read service settings = .ok o) (kafka : o.service = .strimzi)
    (restricted : (o.get? "auth").getD "anonymous" ≠ "anonymous") :
    (o.get? "user").getD "" ≠ "" := by
  obtain ⟨hgiven, -⟩ := Options.check_eq_ok.1 (Options.check_of_read h) kafka
  obtain ⟨auth, hauth⟩ : ∃ auth, o.get? "auth" = some auth := by
    cases hauth : o.get? "auth" with
    | none =>
      rw [hauth] at restricted
      exact absurd rfl restricted
    | some auth => exact ⟨auth, rfl⟩
  rw [hauth] at restricted
  obtain ⟨user, huser⟩ := hgiven.2 ⟨auth, hauth, restricted⟩
  obtain ⟨s, -, -, rule, hrule, htakes⟩ := ((Options.of_read h).2.2 _ _).1 huser
  rw [kafka] at hrule
  obtain rfl := Backing.rule_unique hrule (.tail _ (.head _))
  rw [huser, Option.getD_some]
  cases htakes with
  | freeForm filled =>
    intro hempty
    obtain ⟨c, hc, -⟩ := filled
    have hnil : s.2.toList = [] := congrArg String.toList hempty
    rw [hnil] at hc
    cases hc

/-- Without anything written by hand the text is that of the settings. -/
theorem Expands.followed_eq (h : Expands b mountBase preset o e)
    (unwritten : Text.trim b.conf = "") :
    followed (o.generateFor preset b mountBase).settings = '\n' :: e.binding.conf.toList := by
  have hsettings : (o.generateFor preset b mountBase).settings ≠ [] := o.settings_ne_nil _ _
  rw [Binding.followed_eq hsettings, h.conf_eq, if_pos unwritten, joinLines_singleton]

/-- **Presets agree with themselves.** With nothing written by hand, and no dollar sign in the base
and the name, the expansion can be checked, its text mentions the variables that its projections
define and the files that they make, each once, and the server has these files where the text says.
The user and the resource have no dollar sign or slash of their own; they may have line breaks. -/
theorem agrees_of_expands (h : Expands b mountBase preset o e) (alone : b.sources = [])
    (unwritten : Text.trim b.conf = "") (named : Plain preset.resource)
    (used : ∀ user, o.get? "user" = some user → Plain user)
    (absolute : mountBase.toList.head? = some '/') (base : Lacks '$' mountBase)
    (clear : Lacks '$' b.name) (below : directory mountBase b.name ≠ "/") :
    Agrees mountBase e := by
  obtain ⟨m, hm, hne, hdollar⟩ := exists_rooted absolute base clear below
  have hname : e.binding.name = b.name := by rw [h.eq.2]
  have hsources : e.binding.sources = (o.generateFor preset b mountBase).sources := by
    rw [h.eq.2, alone, List.append_nil]
  have hcoherent := coherent_generate named used hm hdollar (user_of_read h.read)
  have hdistinct := distinct_generate o preset.resource (directory mountBase b.name)
  refine agrees_of_coherent (h.followed_eq unwritten) (hsources ▸ hcoherent)
    (hsources ▸ hdistinct) ?_ hne hdollar
  rw [hname, hm]

end Expansions

/-! ### A search cluster -/

/-- The preset of a search cluster. -/
def searchPreset : Preset := { service := "ECK", resource := "es" }

/-- A search cluster bound under some name. -/
def searchNamed (name : String) : Binding := { name := name, preset := some searchPreset }

theorem expands_search (name mountBase : String) :
    ∃ e, Expands (searchNamed name) mountBase searchPreset ⟨.eck, {}⟩ e := by
  have hread : Options.read "ECK" {} = .ok ⟨.eck, {}⟩ := by decide
  have hnamed : isBlankText "es" = false := by decide
  exact expands_of_read rfl hnamed hread

theorem agrees_of_expands_search : ∃ e,
    Expands (searchNamed "search") "/etc/nuxeo/binding" searchPreset ⟨.eck, {}⟩ e ∧
      Agrees "/etc/nuxeo/binding" e := by
  obtain ⟨e, h⟩ := expands_search "search" "/etc/nuxeo/binding"
  exact ⟨e, h, agrees_of_expands h rfl (by decide) (by decide) nofun (by decide) (by decide)
    (by decide) (by decide)⟩

/-- Under a name that is a placeholder the text mentions a variable that nothing defines. Without a
name at the root, the directory is what the address of the cluster begins with. -/
theorem not_agrees_search :
    (∃ e, expand (searchNamed (placeholder "HOME")) "/etc/nuxeo/binding" = .ok e ∧
      Mentions e.binding.conf "HOME" ∧ "HOME" ∉ variablesOf e.binding.sources) ∧
    ∃ e, expand (searchNamed "") "/" = .ok e ∧
      NamesFile e.binding.conf (directory "/" "") "es-es-http:9200" ∧
        "es-es-http:9200" ∉ (storesOf e.binding.sources).map (·.store) := by
  obtain ⟨e, h⟩ := expands_search (placeholder "HOME") "/etc/nuxeo/binding"
  obtain ⟨e', h'⟩ := expands_search "" "/"
  refine ⟨⟨e, h.expand, (mentions_iff (h.followed_eq (by decide))).2 ⟨by decide, ?_⟩, ?_⟩, e',
    h'.expand, (namesFile_iff (h'.followed_eq (by decide)) rfl).2 ⟨by decide, ?_⟩, ?_⟩
  · -- The name is part of the path of the trust store.
    have hpath : (⟨"elasticsearch.restClient.truststore.path",
        directory "/etc/nuxeo/binding" (placeholder "HOME") ++ "/" ++
          storeFile "elastic" .trustStore⟩ : Setting) ∈
        (Options.generateFor ⟨.eck, {}⟩ searchPreset (searchNamed (placeholder "HOME"))
          "/etc/nuxeo/binding").settings := List.mem_append_right _ List.mem_cons_self
    refine List.IsInfix.trans ?_ (infix_followed hpath)
    unfold directory
    rw [String.toList_append, String.toList_append, String.toList_append, List.append_assoc]
    exact List.infix_append _ _ _
  · rw [h.eq.2]
    decide
  · -- There is nothing between the slashes of this directory, as in the address.
    change ∃ before after, followed (addressSettings "https" "es" "elastic" ++ _) = _ ∧ _
    rw [followed_append, followed_addressSettings, List.append_assoc, List.append_assoc,
      List.append_assoc]
    exact ⟨_, _, rfl, .inr ⟨_, rfl⟩⟩
  · rw [h'.eq.2]
    decide

end ServiceBinding.Binding
