import ServiceBinding.Proofs.Binding.Keeping
import ServiceBinding.Proofs.Binding.Requests
import ServiceBinding.Proofs.Crypto.Capacity

/-!
Keys that requests share. Where no key store or password has a key that something else has as well
(`Apart`), whatever has been kept decides on stores and passwords only, not on whether they can be
added: two plans that differ in these alone are gathered side by side (`Parallel`). But two
transforms that share the key of a password cannot both be realized unless one has been kept for it
(`not_realized_of_shared`).
-/
namespace ServiceBinding.Binding
open Crypto Object

/-- Whether two requests need no key in common, or are both no transforms. -/
def Request.Apart (s s' : Request) : Prop :=
  s.projection.transform.isSome ∨ s'.projection.transform.isSome →
    ∀ key, s.Needs key → ¬ s'.Needs key

/-- Whether the private key of a request, if it has one, leaves room for its envelope in a store. -/
def Request.KeyFits (s : Request) : Prop :=
  ∀ t selector value key, s.projection.transform = some t → t.privateKey = some selector →
    s.source.lookup selector = .ok value → Material.privateKey value = .ok key →
      key.length + 68 < 256 ^ 4

namespace Plan
variable {P : Primitives} {kept kept' : Dict Bytes} {r r' : Draw} {p p' : Plan}

/-! ### Key stores -/

section Stores
variable {source : Source} {t : StoreTransform} {cert : Bytes} {key : Option Bytes}
  {expected : List Keystore.Entry}

/-- A new store can be made just if the entries expected fit. -/
theorem exists_newStore (valid : t.validate = .ok ())
    (selects : t.privateKey.mapM source.lookup = .ok key)
    (expects : expectedEntries P t cert key = .ok expected) (r : Draw) (password : String) :
    (∃ store, newStore P r cert key password = .ok store) ↔ ∀ entry ∈ expected, entry.Fits := by
  unfold newStore
  simp only [mapError_eq_ok]
  unfold expectedEntries at expects
  cases hkind : t.kind with
  | trustStore =>
    rw [StoreTransform.privateKey_of_validate valid hkind] at selects
    cases selects
    rw [hkind] at expects
    exact Material.exists_trustStore (mapError_eq_ok.1 expects) r password
  | keyStore =>
    rw [hkind] at expects
    cases key with
    | none => cases expects
    | some key => exact Material.exists_keyStore (mapError_eq_ok.1 expects) r password

/-- Entries that have been chosen for a store fit, if the key leaves room for its envelope. -/
theorem fits_of_chosenStore (valid : t.validate = .ok ())
    (selects : t.privateKey.mapM source.lookup = .ok key)
    (expects : expectedEntries P t cert key = .ok expected)
    (room : ∀ entry ∈ expected, ∀ raw ∈ entry.key?, raw.length + 68 < 256 ^ 4) {store : Bytes}
    (chosen : chosenStore P kept r t cert key expected = .ok store) :
    ∀ entry ∈ expected, entry.Fits := by
  unfold chosenStore at chosen
  split at chosen
  -- A store that has been kept could be read with these entries, and a new one be written.
  · next found hfound =>
    have opens : Keystore.decode _ _ _ = .ok expected := (keptStore?_eq_some.1 hfound).2
    exact fun entry he => Keystore.fits_of_decode _ opens entry he (room entry he)
  · exact (exists_newStore valid selects expects r _).1 ⟨_, chosen⟩

/-- Whatever has been kept, there is a store to choose if there is one for something kept. -/
theorem exists_chosenStore (valid : t.validate = .ok ())
    (selects : t.privateKey.mapM source.lookup = .ok key)
    (expects : expectedEntries P t cert key = .ok expected)
    (fits : ∀ entry ∈ expected, entry.Fits) (kept : Dict Bytes) (r : Draw) :
    ∃ store, chosenStore P kept r t cert key expected = .ok store := by
  unfold chosenStore
  split
  · exact ⟨_, rfl⟩
  · exact (exists_newStore valid selects expects r _).2 fits

/-- The keys in the entries expected are read from what the source has. -/
theorem room_of_keyFits {s : Request} (fits : s.KeyFits)
    (transforms : s.projection.transform = some t)
    (selects : t.privateKey.mapM s.source.lookup = .ok key)
    (expects : expectedEntries P t cert key = .ok expected) :
    ∀ entry ∈ expected, ∀ raw ∈ entry.key?, raw.length + 68 < 256 ^ 4 := by
  unfold expectedEntries at expects
  intro entry he raw hraw
  cases hkind : t.kind with
  | trustStore =>
    rw [hkind] at expects
    obtain ⟨found, _, h⟩ := bind_eq_ok.1 (mapError_eq_ok.1 expects)
    cases h
    obtain ⟨c, _, rfl⟩ := List.mem_map.1 he
    cases hraw
  | keyStore =>
    rw [hkind] at expects
    cases key with
    | none => cases expects
    | some value =>
      obtain ⟨raw', hraw', h⟩ := bind_eq_ok.1 (mapError_eq_ok.1 expects)
      obtain ⟨found, _, h⟩ := bind_eq_ok.1 h
      cases h
      cases List.mem_singleton.1 he
      cases hraw
      cases hselects : t.privateKey with
      | none =>
        rw [hselects] at selects
        cases selects
      | some selector =>
        rw [hselects] at selects
        obtain ⟨_, hvalue, h⟩ := bind_eq_ok.1 selects
        cases h
        exact fits t selector value _ transforms hselects hvalue hraw'

end Stores

/-! ### Side by side -/

/-- Whether two plans differ in the values of stores and passwords only, none of which the requests
to come need. -/
structure Parallel (rest : List Request) (p p' : Plan) : Prop where
  secondary : p'.secondary = p.secondary
  items : p'.items = p.items
  env : p'.env = p.env
  keys : ∀ key, p'.content.get? key = none ↔ p.content.get? key = none
  plain : ∀ s ∈ rest, s.projection.transform = none → ∀ key, s.Needs key →
    p'.content.get? key = p.content.get? key
  fresh : ∀ s ∈ rest, s.projection.transform.isSome → ∀ key, s.Needs key →
    p.content.get? key = none

theorem Parallel.refl_empty (rest : List Request) (secondary : String) :
    Parallel rest { secondary := secondary } { secondary := secondary } :=
  ⟨rfl, rfl, rfl, fun _ => Iff.rfl, fun _ _ _ _ _ => rfl, fun _ _ _ _ _ => rfl⟩

theorem Parallel.withKey {rest : List Request} (h : Parallel rest p p') {key : String}
    {value value' : Bytes}
    (clear : ∀ s ∈ rest, s.Needs key → s.projection.transform = none ∧ value' = value) :
    Parallel rest (p.withKey key value) (p'.withKey key value') where
  secondary := h.secondary
  items := h.items
  env := h.env
  keys key' := by
    unfold Plan.withKey
    dsimp only
    rw [Dict.get?_insert, Dict.get?_insert]
    split
    · exact iff_of_false (fun h => nomatch h) (fun h => nomatch h)
    · exact h.keys key'
  plain s hs plain key' needs := by
    unfold Plan.withKey
    dsimp only
    rw [Dict.get?_insert, Dict.get?_insert]
    split
    · next he => rw [(clear s hs (he ▸ needs)).2]
    · exact h.plain s hs plain key' needs
  fresh s hs transforms key' needs := by
    unfold Plan.withKey
    dsimp only
    rw [Dict.get?_insert, if_neg]
    · exact h.fresh s hs transforms key' needs
    · rintro rfl
      rw [(clear s hs needs).1] at transforms
      cases transforms

theorem Parallel.mount {rest : List Request} (h : Parallel rest p p') (key file : String) :
    Parallel rest (p.mount key file) (p'.mount key file) :=
  { h with items := congrArg (· ++ _) h.items }

theorem Parallel.addVariable {rest : List Request} (h : Parallel rest p p') (var : EnvVar) :
    Parallel rest (p.addVariable var) (p'.addVariable var) :=
  { h with env := congrArg (· ++ _) h.env }

theorem Parallel.secondaryVariable {rest : List Request} (h : Parallel rest p p')
    (env key : String) :
    Parallel rest (p.secondaryVariable env key) (p'.secondaryVariable env key) := by
  unfold Plan.secondaryVariable
  rw [h.secondary]
  exact h.addVariable _

/-- What a request puts under its keys, no request that is apart from it needs. -/
theorem clear_of_apart {s : Request} {rest : List Request} (apart : ∀ s' ∈ rest, s.Apart s')
    {key : String} (needs : s.Needs key) {value value' : Bytes}
    (same : s.projection.transform = none → value' = value) :
    ∀ s' ∈ rest, s'.Needs key → s'.projection.transform = none ∧ value' = value := by
  intro s' hs' needs'
  cases plain : s.projection.transform with
  | none =>
    cases plain' : s'.projection.transform with
    | none => exact ⟨rfl, same plain⟩
    | some t => exact absurd needs' (apart s' hs' (.inr (by rw [plain']; rfl)) key needs)
  | some t => exact absurd needs' (apart s' hs' (.inl (by rw [plain]; rfl)) key needs)

theorem Parallel.tail {s : Request} {rest : List Request} (h : Parallel (s :: rest) p p') :
    Parallel rest p p' :=
  { h with
    plain := fun s' hs' => h.plain s' (List.mem_cons_of_mem _ hs')
    fresh := fun s' hs' => h.fresh s' (List.mem_cons_of_mem _ hs') }

/-- A key that is no transform's takes a value on both sides or on none. -/
theorem Parallel.admits {s : Request} {rest : List Request} (h : Parallel (s :: rest) p p')
    (plain : s.projection.transform = none) {key : String} (needs : s.Needs key) {value : Bytes}
    (admits : p.Admits key value) : p'.Admits key value := by
  refine ⟨admits.1, fun known hk => admits.2 known ?_⟩
  rw [← h.plain s List.mem_cons_self plain key needs]
  exact hk

/-- A key of a transform is still without a value. -/
theorem Parallel.absent {s : Request} {rest : List Request} (h : Parallel (s :: rest) p p')
    (transforms : s.projection.transform.isSome) {key : String} (needs : s.Needs key) :
    p'.content.get? key = none :=
  (h.keys key).2 (h.fresh s List.mem_cons_self transforms key needs)

/-- A store is added on both sides or on none. -/
theorem Parallel.addStore {s : Request} {rest : List Request} (h : Parallel (s :: rest) p p')
    (apart : ∀ s' ∈ rest, s.Apart s') (fits : s.KeyFits) {t : StoreTransform}
    (transforms : s.projection.transform = some t) (valid : t.validate = .ok ()) {q : Plan}
    (added : p.addStore P kept r s.source t = .ok q) (kept' : Dict Bytes) (r' : Draw) :
    ∃ q', p'.addStore P kept' r' s.source t = .ok q' ∧ Parallel rest q q' := by
  obtain ⟨cert, key, expected, store, hcert, hkey, hexpected, chosen, admits, admits₂, rfl⟩ :=
    addStore_eq_ok.1 added
  have room := room_of_keyFits fits transforms hkey hexpected
  obtain ⟨store', chosen'⟩ := exists_chosenStore valid hkey hexpected
    (fits_of_chosenStore valid hkey hexpected room chosen) kept' r'
  have isTransform : s.projection.transform.isSome := by
    rw [transforms]
    rfl
  have isStore : s.Needs t.store := .store transforms
  have isPassword : s.Needs t.password := .password transforms
  -- Neither key has a value yet, so that both take whatever has been chosen here.
  refine ⟨_, addStore_eq_ok.2 ⟨cert, key, expected, store', hcert, hkey, hexpected, chosen',
    ⟨admits.1, fun known hk => ?_⟩, ⟨admits₂.1, fun known hk => ?_⟩, rfl⟩, ?_⟩
  · cases (h.absent isTransform isStore).symm.trans hk
  · rcases get?_withKey hk with same | hk
    · exact absurd same.symm (StoreTransform.store_ne_password valid)
    · cases (h.absent isTransform isPassword).symm.trans hk
  · have differs : s.projection.transform = none → ∀ {value value' : Bytes}, value' = value :=
      fun plain => nomatch transforms.symm.trans plain
    exact (((h.tail.withKey (clear_of_apart apart isStore fun plain => differs plain)).withKey
      (clear_of_apart apart isPassword fun plain => differs plain)).mount _ _).secondaryVariable _ _

/-- A request is realized on both sides or on none. -/
theorem Parallel.realized {s : Request} {rest : List Request} (h : Parallel (s :: rest) p p')
    (apart : ∀ s' ∈ rest, s.Apart s') (fits : s.KeyFits) (valid : s.projection.validate = .ok ())
    {q : Plan} (realized : Realized P kept r s.source p s.projection q) (kept' : Dict Bytes)
    (r' : Draw) :
    ∃ q', Realized P kept' r' s.source p' s.projection q' ∧ Parallel rest q q' := by
  cases realized with
  | store transforms added =>
    obtain ⟨q', added', parallel⟩ := h.addStore apart fits transforms
      (Projection.transform_of_validate valid transforms) added kept' r'
    exact ⟨q', .store transforms added', parallel⟩
  | literal plain selects exposes isLiteral found reads =>
    exact ⟨_, .literal plain selects exposes isLiteral found reads, h.tail.addVariable _⟩
  | reference plain selects exposes isReference isKeyed found =>
    exact ⟨_, .reference plain selects exposes isReference isKeyed found, h.tail.addVariable _⟩
  | derived plain selects exposes isReference isStructured found keyed admits =>
    have needs : s.Needs _ := .derived plain selects exposes isReference isStructured keyed
    exact ⟨_, .derived plain selects exposes isReference isStructured found keyed
      (h.admits plain needs admits),
      (h.tail.withKey (clear_of_apart apart needs fun _ => rfl)).secondaryVariable _ _⟩
  | file plain selects hidden mounts found keyed admits =>
    have needs : s.Needs _ := .file plain selects hidden mounts keyed
    exact ⟨_, .file plain selects hidden mounts found keyed (h.admits plain needs admits),
      (h.tail.withKey (clear_of_apart apart needs fun _ => rfl)).mount _ _⟩

/-- Requests that keep apart are realized on both sides or on none, whatever has been kept. -/
theorem Parallel.realizeRequests {l : List Request} (apart : l.Pairwise Request.Apart)
    (fits : ∀ s ∈ l, s.KeyFits) (valid : ∀ s ∈ l, s.projection.validate = .ok ())
    {draws : Nat → Draw} {k : Nat} (h : Parallel l p p') {q : Plan}
    (realized : p.realizeRequests P kept draws k l = .ok q) (kept' : Dict Bytes)
    (draws' : Nat → Draw) :
    ∃ q', p'.realizeRequests P kept' draws' k l = .ok q' ∧ Parallel [] q q' := by
  induction l generalizing k p p' with
  | nil =>
    cases realized
    exact ⟨p', rfl, h⟩
  | cons s rest ih =>
    obtain ⟨mid, hmid, hrest⟩ := bind_eq_ok.1 realized
    rw [List.forall_mem_cons] at fits valid
    rw [List.pairwise_cons] at apart
    obtain ⟨mid', hmid', parallel⟩ :=
      h.realized apart.1 fits.1 valid.1 (realize_eq_ok.1 hmid) kept' (draws' k)
    obtain ⟨q', hq', last⟩ := ih apart.2 fits.2 valid.2 parallel hrest
    exact ⟨q', bind_eq_ok.2 ⟨mid', realize_eq_ok.2 hmid', hq'⟩, last⟩

/-! ### Passwords -/

/-- Whether something that can be used as a password has been kept under a key. -/
def KeepsPassword (kept : Dict Bytes) (key : String) : Prop :=
  ∃ password, password ≠ "" ∧ kept.get? key = some (Bytes.ofText password)

theorem keptPassword_of_not_keeps {key : String} (lost : ¬ KeepsPassword kept key) (r : Draw) :
    keptPassword kept r key = r.password := by
  unfold keptPassword
  cases hf : ((kept.get? key).bind Bytes.toText?).filter (!·.isEmpty) with
  | none => rfl
  | some password =>
    obtain ⟨htext, hfilled⟩ := Option.filter_eq_some_iff.1 hf
    obtain ⟨value, hvalue, htext⟩ := Option.bind_eq_some_iff.1 htext
    refine absurd ⟨password, ?_, ?_⟩ lost
    · rintro rfl
      simp at hfilled
    · rw [hvalue, Bytes.ofText_of_toText? htext]

/-- Two transforms that share the key of a password cannot both be realized if none has been kept
for it and their draws have different ones. -/
theorem not_realized_of_shared {l : List Request} {m n : Nat} {s s' : Request}
    (hs : l[m]? = some s) (hs' : l[n]? = some s') {t t' : StoreTransform}
    (transforms : s.projection.transform = some t)
    (transforms' : s'.projection.transform = some t') (shared : t'.password = t.password)
    (lost : ¬ KeepsPassword kept t.password) {draws : Nat → Draw} {k : Nat}
    (differ : (draws (k + m)).password ≠ (draws (k + n)).password) (q : Plan) :
    p.realizeRequests P kept draws k l ≠ .ok q := by
  intro h
  -- As nothing takes a value away, what either transform has drawn is under the key in the end.
  have hput {n : Nat} {s : Request} (hs : l[n]? = some s) {t' : StoreTransform}
      (transforms : s.projection.transform = some t') (shared : t'.password = t.password) :
      q.content.get? t.password = some (Bytes.ofText (draws (k + n)).password) := by
    obtain ⟨q₁, q₂, realized, grows⟩ := realized_of_realizeRequests h hs
    cases realized with
    | store transforms' added =>
      cases transforms.symm.trans transforms'
      obtain ⟨_, _, _, _, _, _, _, _, _, _, rfl⟩ := addStore_eq_ok.1 added
      have := grows.content _ _ (get?_withKey_self _ _ _)
      rw [shared, keptPassword_of_not_keeps lost] at this
      exact this
    | literal plain | reference plain | derived plain | file plain =>
      cases transforms.symm.trans plain
  have same := Option.some.inj ((hput hs transforms rfl).symm.trans (hput hs' transforms' shared))
  have same := congrArg Bytes.toText? same
  rw [Bytes.toText?_ofText, Bytes.toText?_ofText] at same
  exact differ (Option.some.inj same)

end Plan

end ServiceBinding.Binding
