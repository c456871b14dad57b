import ServiceBinding.Proofs.Binding.Checks
import ServiceBinding.Proofs.Binding.Requests

/-!
What can still go wrong once a binding has been checked. The shape of every request is right
(`shaped_of_check`), so that realizing one fails for what a source holds only: a value that is not
there, a value that is no text, a key of the secret with two values, or certificates that make no
store (`refused_of_gather`). So a binding that has been checked and whose sources can be read is
collected, or refused for one of these (`refused_of_collect`).
-/
namespace ServiceBinding.Binding
open Convergence Crypto

variable {σ : Type}

/-! ### Content -/

/-- Whether a source is one that a way of addressing values is for. -/
inductive Access.Fits : Access → Source → Prop
  | keyed (kind : KeyedKind) (name : String) (values : Dict Bytes) :
    Fits (.keyed kind) (.keyed kind name values)
  | structured (kind : ApiKind) (label : String) (form : Json) :
    Fits (.structured kind) (.structured label form)

/-- What is read from a source fits the way its values are addressed. -/
theorem fits_of_read {r : SourceReader σ} {space name : String} {access : Access} {source : Source}
    {s t : σ} (h : (r.read space name access).exec s = (.ok source, t)) : access.Fits source := by
  rcases access with (_ | _) | kind
  all_goals
    obtain ⟨_, _, _, h⟩ := Action.exec_bind_ok.1 h
    cases h
  · exact .keyed _ _ _
  · exact .keyed _ _ _
  · exact .structured _ _ _

/-- Whether a source with its content is one that has been checked, and its content fits. -/
def Answers (ref : SourceRef × Access) (s : SourceRef × Source) : Prop :=
  s.1 = ref.1 ∧ ref.2.Fits s.2

/-- What has been read answers to the references, one for one. -/
theorem answers_of_readAll {reader : SourceReader σ} {space : String}
    {refs : List (SourceRef × Access)} {found : List (SourceRef × Source)} {s t : σ}
    (h : (reader.readAll space refs).exec s = (.ok found, t)) :
    List.Forall₂ Answers refs found := by
  induction refs generalizing found s with
  | nil =>
    cases h
    exact .nil
  | cons ref rest ih =>
    obtain ⟨source, _, hsource, h⟩ := Action.exec_bind_ok.1 h
    obtain ⟨others, _, hothers, h⟩ := Action.exec_bind_ok.1 h
    cases h
    exact .cons ⟨rfl, fits_of_read hsource⟩ (ih hothers)

/-! ### Shape -/

/-- Whether a text is a path that gives a key. -/
def IsPath (selector : String) : Prop :=
  ∃ path key, Path.parse selector = .ok path ∧ path.secretKey = .ok key

/-- What is right about a request before its source is looked at. -/
structure Request.Shaped (s : Request) : Prop where
  /-- It reaches the pod in one way. -/
  single : s.projection.realizations = 1
  /-- If it is no transform, it says where its value comes from. -/
  selects : s.projection.transform = none → (Plan.selector? s.projection).isSome = true
  /-- If it is a key store, it says where its private key comes from. -/
  privateKey : ∀ t, s.projection.transform = some t → t.kind = .keyStore →
    t.privateKey.isSome = true
  /-- The store and its password have keys of their own. -/
  apart : ∀ t, s.projection.transform = some t → t.store ≠ t.password
  /-- Every key that it needs can be a key of the secret. -/
  keys : ∀ key, s.Needs key → isSecretKey key = true
  /-- Where values are addressed by path, each path can be read and gives a key. -/
  paths : ∀ label form, s.source = .structured label form →
    ∀ selector ∈ selectors s.projection, IsPath selector

theorem isPath_of_checkSelector {selector : String} (h : checkSelector selector = .ok ()) :
    IsPath selector := by
  obtain ⟨path, hpath, h⟩ := bind_eq_ok.1 h
  obtain ⟨key, hkey, -⟩ := bind_eq_ok.1 h
  exact ⟨path, key, hpath, hkey⟩

/-- The key that a path gives has some character, and only such as keys may have. -/
theorem isSecretKey_of_secretKey {path : Path} {key : String} (h : path.secretKey = .ok key) :
    isSecretKey key = true := by
  unfold Path.secretKey at h
  dsimp only at h
  split at h
  · cases h
  · next hdots =>
    cases h
    unfold isSecretKey
    rw [String.toList_ofList, Bool.and_eq_true]
    refine ⟨?_, List.all_eq_true.2 fun c hc => (List.mem_filter.1 hc).2⟩
    rw [Bool.not_eq_true', String.isEmpty_eq_false_iff]
    intro hempty
    have hnil := congrArg String.toList hempty
    rw [String.toList_ofList] at hnil
    rw [hnil] at hdots
    exact hdots rfl

theorem isSecretKey_of_derivedKey {label selector key : String} {form : Json}
    (h : (Source.structured label form).derivedKey selector = .ok key) :
    isSecretKey key = true := by
  obtain ⟨path, -, hkey⟩ := bind_eq_ok.1 h
  exact isSecretKey_of_secretKey hkey

/-- Every key that a checked projection needs can be a key of the secret. -/
theorem isSecretKey_of_needs {source : Source} {p : Projection} {key : String}
    (checked : checkProjection p = .ok ()) (h : Needs source p key) : isSecretKey key = true := by
  obtain ⟨hfile, hstore⟩ := names_of_checkProjection checked
  cases h with
  | store transforms => exact isSecretKey_of_checkFileName (hstore _ transforms).1
  | password transforms => exact isSecretKey_of_checkSecretKey (hstore _ transforms).2
  | derived _ _ _ _ isStructured keyed =>
    subst isStructured
    exact isSecretKey_of_derivedKey keyed
  | file _ _ _ mounts keyed =>
    cases source with
    | keyed =>
      cases keyed
      exact isSecretKey_of_checkFileName (hfile _ mounts)
    | structured label form => exact @isSecretKey_of_derivedKey label _ _ form keyed

/-- The requests of a checked binding have the right shape, whatever its sources hold. -/
theorem shaped_of_check {catalog : Catalog} {b : Binding} {refs : List (SourceRef × Access)}
    {found : List (SourceRef × Source)} (h : check catalog b = .ok refs)
    (answers : ∀ s ∈ found, ∃ ref ∈ refs, Answers ref s) : ∀ s ∈ requests found, s.Shaped := by
  intro s hs
  obtain ⟨ref, hmem, hp⟩ := mem_requests.1 hs
  obtain ⟨⟨ref', access⟩, href, hsame, hfits⟩ := answers _ hmem
  obtain rfl : ref = ref' := hsame
  obtain ⟨hall, hpaths⟩ := of_checkSource (checkSource_of_check h _ href)
  have hvalid := validate_of_checkProjection (hall _ hp)
  have paths : ∀ label form, s.source = .structured label form →
      ∀ selector ∈ selectors s.projection, IsPath selector := by
    intro label form hsource selector hselector
    rw [hsource] at hfits
    cases hfits with
    | structured kind => exact isPath_of_checkSelector (hpaths kind rfl _ hp _ hselector)
  refine
    { single := Projection.realizations_of_validate hvalid
      selects := Projection.selects_of_validate hvalid
      privateKey := ?_
      apart := ?_
      keys := fun _ => isSecretKey_of_needs (hall _ hp)
      paths := paths }
  · intro t ht hkind
    obtain ⟨-, -, -, -, -, hkey⟩ :=
      StoreTransform.validate_eq_ok.1 (Projection.transform_of_validate hvalid ht)
    exact hkey.1 hkind
  · exact fun t ht =>
      StoreTransform.store_ne_password (Projection.transform_of_validate hvalid ht)

theorem mem_selectors {p : Projection} {selector : String} :
    selector ∈ selectors p ↔ p.source = some selector ∨ p.path = some selector ∨
      ∃ t, p.transform = some t ∧ (selector = t.cert ∨ t.privateKey = some selector) := by
  unfold selectors
  rw [List.mem_append, List.mem_append, Option.mem_toList, Option.mem_toList, or_assoc]
  refine or_congr Iff.rfl (or_congr Iff.rfl ?_)
  cases p.transform with
  | none => simp
  | some t => simp

/-! ### Causes -/

namespace Plan

/-- The value that a request gives to a key of the secret. -/
inductive Puts (P : Primitives) (kept : Dict Bytes) (r : Draw) (s : Request) :
    String → Bytes → Prop
  | store {t : StoreTransform} {cert store : Bytes} {key : Option Bytes}
      {expected : List Keystore.Entry} (transforms : s.projection.transform = some t)
      (found : s.source.lookup t.cert = .ok cert)
      (foundKey : t.privateKey.mapM s.source.lookup = .ok key)
      (expects : expectedEntries P t cert key = .ok expected)
      (chosen : chosenStore P kept r t cert key expected = .ok store) :
    Puts P kept r s t.store store
  | password {t : StoreTransform} (transforms : s.projection.transform = some t) :
    Puts P kept r s t.password (Bytes.ofText (keptPassword kept r t.password))
  | value {selector key : String} {value : Bytes} (plain : s.projection.transform = none)
      (needs : s.Needs key) (selects : selector? s.projection = some selector)
      (found : s.source.lookup selector = .ok value) : Puts P kept r s key value

/-- Why a request cannot be realized on top of a plan, and the error that says so. -/
inductive Refused (P : Primitives) (kept : Dict Bytes) (r : Draw) (p : Plan) (s : Request) :
    Error → Prop
  /-- A key is not there. -/
  | missing {kind : KeyedKind} {name selector : String} {values : Dict Bytes}
      (isKeyed : s.source = .keyed kind name values) (asked : selector ∈ selectors s.projection)
      (absent : values.get? selector = none) :
    Refused P kept r p s (.unattributed
      ("key '" ++ selector ++ "' not found in " ++ kind.name ++ " " ++ name))
  /-- A path leads nowhere. -/
  | unresolved {label selector : String} {form : Json} {path : Path}
      (isStructured : s.source = .structured label form)
      (asked : selector ∈ selectors s.projection) (parses : Path.parse selector = .ok path)
      (astray : path.evaluate form = .error path.unresolved) :
    Refused P kept r p s (locate label path.unresolved)
  /-- A value that is to be shown literally is no text. -/
  | notText {selector env : String} {value : Bytes} (exposes : s.projection.env = some env)
      (isLiteral : s.projection.literal = true) (selects : selector? s.projection = some selector)
      (found : s.source.lookup selector = .ok value) (unreadable : value.toText? = none) :
    Refused P kept r p s (.unattributed ("value for env " ++ env ++ " is not valid UTF-8 text"))
  /-- A key has another value. -/
  | clash {key : String} {known value : Bytes} (there : p.content.get? key = some known)
      (puts : Puts P kept r s key value) (other : known ≠ value) :
    Refused P kept r p s (.unattributed
      ("secondary secret key '" ++ key ++ "' would receive two different values"))
  /-- Certificates and keys make no store. -/
  | certificate {t : StoreTransform} {cert : Bytes} {key : Option Bytes}
      {fault : CertificateError} (transforms : s.projection.transform = some t)
      (found : s.source.lookup t.cert = .ok cert)
      (foundKey : t.privateKey.mapM s.source.lookup = .ok key)
      (fails : expectedEntries P t cert key = .error (.certificate fault) ∨
        newStore P r cert key (keptPassword kept r t.password) = .error (.certificate fault)) :
    Refused P kept r p s (.certificate fault)

section Refusing
variable {P : Primitives} {kept : Dict Bytes} {draws : Nat → Draw} {r : Draw} {p : Plan}
  {s : Request} {e : Error}

theorem put_eq_error {key : String} {value : Bytes} (valid : isSecretKey key = true)
    (h : p.put key value = .error e) :
    ∃ known, p.content.get? key = some known ∧ known ≠ value ∧ e = .unattributed
      ("secondary secret key '" ++ key ++ "' would receive two different values") := by
  unfold put checkSecretKey at h
  rw [if_pos valid] at h
  cases hknown : p.content.get? key with
  | none =>
    simp only [hknown] at h
    cases h
  | some known =>
    simp only [hknown] at h
    change (if known = value then _ else _) = _ at h
    split at h
    · cases h
    · next hne =>
      cases h
      exact ⟨known, rfl, hne, rfl⟩

/-- A path only fails to lead to a value. -/
theorem resolve_eq_error {path : Path} {form : Json} (h : path.resolve form = .error e) :
    e = path.unresolved ∧ path.evaluate form = .error e := by
  rcases bind_eq_error.1 h with h | ⟨j, _, h⟩
  · refine ⟨?_, h⟩
    unfold Path.evaluate at h
    split at h
    · cases h
    · exact (Except.error.inj h).symm
  · split at h <;> cases h

/-- A value that a request asks for is refused only if it is not there. -/
theorem refused_of_lookup (shaped : s.Shaped) {selector : String}
    (asked : selector ∈ selectors s.projection) (h : s.source.lookup selector = .error e) :
    Refused P kept r p s e := by
  unfold Source.lookup at h
  cases hsource : s.source with
  | keyed kind name values =>
    rw [hsource] at h
    dsimp only at h
    cases habsent : values.get? selector with
    | some value =>
      rw [habsent] at h
      cases h
    | none =>
      rw [habsent] at h
      cases h
      exact .missing hsource asked habsent
  | structured label form =>
    obtain ⟨path, key, hparse, -⟩ := shaped.paths label form hsource selector asked
    rw [hsource] at h
    dsimp only at h
    rw [bind_eq_error] at h
    rcases h with h | ⟨path', hparse', h⟩
    · cases hparse.symm.trans h
    obtain rfl : path = path' := Except.ok.inj (hparse.symm.trans hparse')
    rcases bind_eq_error.1 h with h | ⟨_, _, ⟨⟩⟩
    obtain ⟨e', hresolve, rfl⟩ := mapError_eq_error.1 h
    obtain ⟨rfl, hastray⟩ := resolve_eq_error hresolve
    exact .unresolved hsource asked hparse hastray

/-- A key that a request needs is refused only if it has another value. -/
theorem refused_of_put (shaped : s.Shaped) {key : String} {value : Bytes} (needs : s.Needs key)
    (puts : Puts P kept r s key value) (h : p.put key value = .error e) :
    Refused P kept r p s e := by
  obtain ⟨known, hknown, hother, rfl⟩ := put_eq_error (shaped.keys key needs) h
  exact .clash hknown puts hother

/-- Certificates and keys make no store only for what is wrong with them. -/
theorem expectedEntries_eq_error {t : StoreTransform} {cert : Bytes} {key : Option Bytes}
    (keyed : t.kind = .keyStore → key.isSome = true)
    (h : expectedEntries P t cert key = .error e) : ∃ fault, e = .certificate fault := by
  unfold expectedEntries at h
  split at h
  · obtain ⟨fault, -, rfl⟩ := mapError_eq_error.1 h
    exact ⟨fault, rfl⟩
  · obtain ⟨fault, -, rfl⟩ := mapError_eq_error.1 h
    exact ⟨fault, rfl⟩
  · next hkind =>
    cases keyed hkind

theorem newStore_eq_error {cert : Bytes} {key : Option Bytes} {password : String}
    (h : newStore P r cert key password = .error e) : ∃ fault, e = .certificate fault := by
  obtain ⟨fault, -, rfl⟩ := mapError_eq_error.1 h
  exact ⟨fault, rfl⟩

/-- The private key of a transform is looked up as every value is. -/
theorem isSome_of_mapM {α : Type} {f : String → Result α} {selector : Option String}
    {value : Option α} (h : selector.mapM f = .ok value) : value.isSome = selector.isSome := by
  cases selector with
  | none =>
    cases h
    rfl
  | some selector =>
    obtain ⟨_, -, rfl⟩ := map_eq_ok.1 h
    rfl

/-- A key store is refused for its material, or as a key is. -/
theorem refused_of_addStore (shaped : s.Shaped) {t : StoreTransform}
    (transforms : s.projection.transform = some t)
    (h : p.addStore P kept r s.source t = .error e) : Refused P kept r p s e := by
  rw [addStore_eq] at h
  rcases bind_eq_error.1 h with h | ⟨cert, found, h⟩
  · exact refused_of_lookup shaped (mem_selectors.2 (.inr (.inr ⟨t, transforms, .inl rfl⟩))) h
  rcases bind_eq_error.1 h with h | ⟨key, foundKey, h⟩
  · cases hkey : t.privateKey with
    | none =>
      rw [hkey] at h
      cases h
    | some selector =>
      rw [hkey] at h
      have hasked := mem_selectors.2 (.inr (.inr ⟨t, transforms, .inr hkey⟩))
      exact refused_of_lookup shaped hasked (map_eq_error.1 h)
  rcases bind_eq_error.1 h with h | ⟨expected, expects, h⟩
  · have hkeyed : t.kind = .keyStore → key.isSome = true := fun hkind =>
      (isSome_of_mapM foundKey).trans (shaped.privateKey t transforms hkind)
    obtain ⟨fault, rfl⟩ := expectedEntries_eq_error hkeyed h
    exact .certificate transforms found foundKey (.inl h)
  rcases bind_eq_error.1 h with h | ⟨store, chosen, h⟩
  · unfold chosenStore at h
    split at h
    · cases h
    · obtain ⟨fault, rfl⟩ := newStore_eq_error h
      exact .certificate transforms found foundKey (.inr h)
  rcases bind_eq_error.1 h with h | ⟨q, hq, h⟩
  · exact refused_of_put shaped (.store transforms)
      (.store transforms found foundKey expects chosen) h
  rcases bind_eq_error.1 h with h | ⟨_, _, ⟨⟩⟩
  obtain ⟨-, rfl⟩ := put_eq_ok.1 hq
  obtain ⟨known, hknown, hother, rfl⟩ := put_eq_error (shaped.keys _ (.password transforms)) h
  -- The key of the store is not the one of its password, so the plan has had the other value.
  have hthere : p.content.get? t.password = some known := by
    unfold withKey at hknown
    rwa [Dict.get?_insert, if_neg (shaped.apart t transforms).symm] at hknown
  exact .clash hthere (.password transforms) hother

/-- Where values are addressed by path, the key that a value is kept under can be made. -/
theorem exists_derivedKey (shaped : s.Shaped) {label selector : String} {form : Json}
    (isStructured : s.source = .structured label form) (asked : selector ∈ selectors s.projection) :
    ∃ key, s.source.derivedKey selector = .ok key := by
  obtain ⟨path, key, hparse, hkey⟩ := shaped.paths label form isStructured selector asked
  rw [isStructured]
  exact ⟨key, bind_eq_ok.2 ⟨path, hparse, hkey⟩⟩

section Values
variable {selector : String} {value : Bytes} (shaped : s.Shaped)
  (plain : s.projection.transform = none) (selects : selector? s.projection = some selector)
  (asked : selector ∈ selectors s.projection) (found : s.source.lookup selector = .ok value)
include shaped plain selects asked found

/-- A variable is refused if it is to be literal and its value is no text, or as a key is. -/
theorem refused_of_addEnv {env : String} (exposes : s.projection.env = some env)
    (h : p.addEnv s.source selector env s.projection.literal value = .error e) :
    Refused P kept r p s e := by
  cases literal : s.projection.literal with
  | true =>
    rw [literal] at h
    unfold addEnv at h
    cases unreadable : value.toText? with
    | none =>
      rw [unreadable] at h
      cases h
      exact .notText exposes literal selects found unreadable
    | some text =>
      rw [unreadable] at h
      cases h
  | false =>
    rw [literal] at h
    cases hsource : s.source with
    | keyed kind name values =>
      rw [hsource] at h
      cases h
    | structured label form =>
      obtain ⟨key, hkey⟩ := exists_derivedKey shaped hsource asked
      have hneeds : s.Needs key := .derived plain selects exposes literal hsource hkey
      rw [hsource] at h hkey
      unfold addEnv at h
      rw [if_neg Bool.false_ne_true] at h
      rcases bind_eq_error.1 h with h | ⟨key', hkey', h⟩
      · cases hkey.symm.trans h
      obtain rfl : key = key' := Except.ok.inj (hkey.symm.trans hkey')
      rcases bind_eq_error.1 h with h | ⟨_, _, ⟨⟩⟩
      exact refused_of_put shaped hneeds (.value plain hneeds selects found) h

/-- A file is refused as its key is. -/
theorem refused_of_addFile {file : String} (hidden : s.projection.env = none)
    (mounts : s.projection.mount = some file)
    (h : p.addFile s.source selector file value = .error e) : Refused P kept r p s e := by
  obtain ⟨key, hkey⟩ : ∃ key, fileKey s.source selector file = .ok key := by
    cases hsource : s.source with
    | keyed => exact ⟨file, rfl⟩
    | structured =>
      obtain ⟨key, hkey⟩ := exists_derivedKey shaped hsource asked
      rw [hsource] at hkey
      exact ⟨key, hkey⟩
  have hneeds : s.Needs key := .file plain selects hidden mounts hkey
  rw [addFile_eq] at h
  rcases bind_eq_error.1 h with h | ⟨key', hkey', h⟩
  · cases hkey.symm.trans h
  obtain rfl : key = key' := Except.ok.inj (hkey.symm.trans hkey')
  rcases bind_eq_error.1 h with h | ⟨_, _, ⟨⟩⟩
  exact refused_of_put shaped hneeds (.value plain hneeds selects found) h

end Values

/-- A request of the right shape is refused only for what its source holds. -/
theorem refused_of_realize (shaped : s.Shaped)
    (h : p.realize P kept r s.source s.projection = .error e) : Refused P kept r p s e := by
  cases plain : s.projection.transform with
  | some t =>
    unfold realize at h
    rw [plain] at h
    exact refused_of_addStore shaped plain h
  | none =>
    obtain ⟨selector, selects⟩ := Option.isSome_iff_exists.1 (shaped.selects plain)
    have hasked : selector ∈ selectors s.projection := by
      rcases Option.or_eq_some_iff.1 selects with hsource | ⟨-, hpath⟩
      · exact mem_selectors.2 (.inl hsource)
      · exact mem_selectors.2 (.inr (.inl hpath))
    cases found : s.source.lookup selector with
    | error e' =>
      have he : e = e' := by
        unfold realize at h
        unfold selector? at selects
        rw [plain, selects] at h
        dsimp only at h
        rw [found] at h
        exact (Except.error.inj h).symm
      exact he ▸ refused_of_lookup shaped hasked found
    | ok value =>
      rw [realize_plain plain selects found] at h
      cases exposes : s.projection.env with
      | some env =>
        rw [exposes] at h
        exact refused_of_addEnv shaped plain selects hasked found exposes h
      | none =>
        cases mounts : s.projection.mount with
        | none =>
          have hsingle := shaped.single
          unfold Projection.realizations at hsingle
          rw [plain, exposes, mounts] at hsingle
          cases hsingle
        | some file =>
          rw [exposes, mounts] at h
          exact refused_of_addFile shaped plain selects hasked found exposes mounts h

/-- Requests fail at one that is refused on top of what those before it have added. -/
theorem refused_of_realizeRequests {l : List Request} {k : Nat} (shaped : ∀ s ∈ l, s.Shaped)
    (h : p.realizeRequests P kept draws k l = .error e) :
    ∃ n s q, l[n]? = some s ∧ p.realizeRequests P kept draws k (l.take n) = .ok q ∧
      Refused P kept (draws (k + n)) q s e := by
  induction l generalizing k p with
  | nil => cases h
  | cons s rest ih =>
    obtain ⟨hs, hrest⟩ := List.forall_mem_cons.1 shaped
    rcases bind_eq_error.1 h with h | ⟨q, hq, h⟩
    · exact ⟨0, s, p, rfl, rfl, refused_of_realize hs h⟩
    · obtain ⟨n, s', q', hs', hq', hrefused⟩ := ih hrest h
      refine ⟨n + 1, s', q', hs', ?_, ?_⟩
      · exact bind_eq_ok.2 ⟨q, hq, hq'⟩
      · rwa [Nat.add_right_comm, Nat.add_assoc] at hrefused

end Refusing

end Plan

/-- **A checked binding fails for what its sources hold.** However its sources answer and whatever
is kept of an earlier pass, gathering what it asks for fails only at a request that is refused on
top of what those before it have added: for a value that is not there, a value that is no text, a
key with another value, or certificates that make no store. The shape of every request is right. -/
theorem refused_of_gather {catalog : Catalog} {b : Binding} {refs : List (SourceRef × Access)}
    {found : List (SourceRef × Source)} (h : check catalog b = .ok refs)
    (answers : List.Forall₂ Answers refs found) :
    (∀ s ∈ requests found, s.Shaped) ∧
      ∀ (P : Primitives) (kept : Dict Bytes) (draws : Nat → Draw) (k : Nat) (p : Plan) (e : Error),
        p.gather P kept draws k found = .error e →
          ∃ n s q, (requests found)[n]? = some s ∧
            p.realizeRequests P kept draws k ((requests found).take n) = .ok q ∧
              Plan.Refused P kept (draws (k + n)) q s e := by
  have shaped := shaped_of_check h (exists_of_forall₂ answers)
  refine ⟨shaped, fun P kept draws k p e hfails => ?_⟩
  rw [Plan.gather_eq_realizeRequests] at hfails
  exact Plan.refused_of_realizeRequests shaped hfails

/-- Reading the sources of a checked binding and adding what they ask for fails at a source that
cannot be read, or at a request that is refused for what the sources read hold. -/
theorem refused_of_collect {ρ : Type} (E : Equipment ρ) {catalog : Catalog} {b : Binding}
    {refs : List (SourceRef × Access)} (checked : check catalog b = .ok refs) {space : String}
    {kept : Dict Bytes} {k : Nat} {plan : Plan} {e : Error} {c : Cluster} {r : ρ}
    {t : Cluster × ρ}
    (h : (E.projector.collect space b.name kept k plan refs).exec (c, r) = (.error e, t)) :
    (∃ ref ∈ refs, ∃ before after,
      (E.reader.read space ref.1.name ref.2).exec before = (.error e, after)) ∨
    ∃ n found after, (E.reader.readAll space (refs.take n)).exec r = (.ok found, after) ∧
      ∃ m s q e', (requests found)[m]? = some s ∧
        plan.realizeRequests E.primitives kept (E.draws b.name) k ((requests found).take m) =
          .ok q ∧
        Plan.Refused E.primitives kept (E.draws b.name (k + m)) q s e' ∧
          e = e'.inBinding b.name := by
  rcases of_collect_eq_error E space b.name kept h with h | ⟨n, found, after, e', hread, hfails, he⟩
  · exact .inl h
  · have shaped := shaped_of_check checked fun s hs => by
      obtain ⟨ref, href, hanswers⟩ := exists_of_forall₂ (answers_of_readAll hread) s hs
      exact ⟨ref, List.mem_of_mem_take href, hanswers⟩
    rw [Plan.gather_eq_realizeRequests] at hfails
    obtain ⟨m, s, q, hs, hq, hrefused⟩ := Plan.refused_of_realizeRequests shaped hfails
    exact .inr ⟨n, found, after, hread, m, s, q, e', hs, hq, hrefused, he⟩

/-- A binding that mounts a user and a password. -/
def credentialsMounted : Binding :=
  { name := "db"
    sources := [
      { version := "v1"
        kind := "Secret"
        name := "creds"
        projections := [
          { source := some "user", mount := some "user" },
          { source := some "password", mount := some "password" }] }] }

/-- Without a password in the secret, the second request is the one that is refused. -/
theorem refused_of_gather_credentialsMounted :
    let refs := credentialsMounted.sources.map (·, Access.keyed .secret)
    let found := credentialsMounted.sources.map
      (·, Source.keyed .secret "creds" (({} : Dict Bytes).insert "user" (Bytes.ofText "nuxeo")))
    let draws : Nat → Draw := fun _ => .ofSeed []
    check .builtin credentialsMounted = .ok refs ∧ List.Forall₂ Answers refs found ∧
      Plan.gather .standard {} draws 0 { secondary := "nx-secondary-db" } found =
        .error (.unattributed "key 'password' not found in Secret creds") ∧
      ∃ n s q, (requests found)[n]? = some s ∧
        Plan.realizeRequests .standard {} draws 0 { secondary := "nx-secondary-db" }
          ((requests found).take n) = .ok q ∧
        Plan.Refused .standard {} (draws (0 + n)) q s
          (.unattributed "key 'password' not found in Secret creds") := by
  intro refs found draws
  have checked : check .builtin credentialsMounted = .ok refs := by decide
  have answers : List.Forall₂ Answers refs found := .cons ⟨rfl, .keyed _ _ _⟩ .nil
  have fails : Plan.gather .standard {} draws 0 { secondary := "nx-secondary-db" } found =
      .error (.unattributed "key 'password' not found in Secret creds") := by decide
  exact ⟨checked, answers, fails, (refused_of_gather checked answers).2 _ _ _ _ _ _ fails⟩

end ServiceBinding.Binding
