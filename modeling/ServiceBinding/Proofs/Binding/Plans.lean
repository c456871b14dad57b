import ServiceBinding.Binding.Plan
import ServiceBinding.Proofs.Results

/-!
The theory of plans. A plan only grows, and a key of its secret is never given another value
(`put_eq_ok`). What a single projection adds is one of five things (`Realized`), and everything
about plans follows from these cases.
-/
namespace ServiceBinding.Binding
open Crypto Object

namespace Plan

/-! ### Keys -/

/-- Whether a key of the secret can be given a value. -/
def Admits (p : Plan) (key : String) (value : Bytes) : Prop :=
  isSecretKey key = true ∧ ∀ known, p.content.get? key = some known → known = value

/-- The plan with a key of the secret. -/
def withKey (p : Plan) (key : String) (value : Bytes) : Plan :=
  { p with content := p.content.insert key value }

theorem checkSecretKey_eq_ok {key : String} :
    checkSecretKey key = .ok () ↔ isSecretKey key = true := by
  unfold checkSecretKey
  split <;> simp_all

theorem put_eq_ok {p p' : Plan} {key : String} {value : Bytes} :
    p.put key value = .ok p' ↔ p.Admits key value ∧ p' = p.withKey key value := by
  unfold put Admits withKey
  have hcheck : (∃ u, checkSecretKey key = .ok u) ↔ isSecretKey key = true := by
    rw [← checkSecretKey_eq_ok]
    exact ⟨fun ⟨_, h⟩ => h, fun h => ⟨_, h⟩⟩
  rw [bind_eq_ok, exists_and_right, hcheck, and_assoc]
  refine and_congr_right fun _ => ?_
  cases hk : p.content.get? key with
  | none =>
    simp only [reduceCtorEq, false_implies, implies_true, true_and]
    exact ⟨fun h => (Except.ok.inj h).symm, fun h => h ▸ rfl⟩
  | some known =>
    simp only [Option.some.injEq, forall_eq']
    by_cases hv : known = value
    · subst hv
      rw [if_pos rfl, Dict.insert_of_get? hk]
      simp only [true_and]
      exact ⟨fun h => (Except.ok.inj h).symm, fun h => h ▸ rfl⟩
    · rw [if_neg hv]
      simp [hv, throw, throwThe, MonadExceptOf.throw]

/-- Whether one plan has everything that another one has: the keys with the same values, the files
and the variables. -/
structure Grows (p p' : Plan) : Prop where
  secondary : p'.secondary = p.secondary
  content : ∀ key value, p.content.get? key = some value → p'.content.get? key = some value
  items : p.items ⊆ p'.items
  env : p.env ⊆ p'.env

theorem Grows.refl (p : Plan) : p.Grows p :=
  ⟨rfl, fun _ _ h => h, List.Subset.refl _, List.Subset.refl _⟩

theorem Grows.trans {p q s : Plan} (h : p.Grows q) (h' : q.Grows s) : p.Grows s where
  secondary := h'.secondary.trans h.secondary
  content key value hk := h'.content key value (h.content key value hk)
  items := List.Subset.trans h.items h'.items
  env := List.Subset.trans h.env h'.env

theorem grows_withKey {p : Plan} {key : String} {value : Bytes} (h : p.Admits key value) :
    p.Grows (p.withKey key value) := by
  refine ⟨rfl, fun key' value' hk => ?_, List.Subset.refl _, List.Subset.refl _⟩
  show (p.content.insert key value).get? key' = some value'
  rw [Dict.get?_insert]
  split
  · next he => rw [h.2 value' (he ▸ hk)]
  · exact hk

theorem grows_mount (p : Plan) (key file : String) : p.Grows (p.mount key file) :=
  ⟨rfl, fun _ _ h => h, List.subset_append_left _ _, List.Subset.refl _⟩

theorem grows_addVariable (p : Plan) (var : EnvVar) : p.Grows (p.addVariable var) :=
  ⟨rfl, fun _ _ h => h, List.Subset.refl _, List.subset_append_left _ _⟩

theorem get?_withKey_self (p : Plan) (key : String) (value : Bytes) :
    (p.withKey key value).content.get? key = some value :=
  Dict.get?_insert_self _ _ _

/-! ### Key stores -/

/-- The store that is put into the secret: the one kept if it will do, or else a new one. -/
def chosenStore (P : Primitives) (kept : Dict Bytes) (r : Draw) (t : StoreTransform) (cert : Bytes)
    (key : Option Bytes) (expected : List Keystore.Entry) : Result Bytes :=
  match keptStore? P kept t.store (keptPassword kept r t.password) expected with
  | some store => .ok store
  | none => newStore P r cert key (keptPassword kept r t.password)

/-- The plan with a store, its password, the file and the variable. -/
def withStore (p : Plan) (t : StoreTransform) (store : Bytes) (password : String) : Plan :=
  ((((p.withKey t.store store).withKey t.password (Bytes.ofText password)).mount t.store
    t.store).secondaryVariable t.passEnv t.password)

section Stores
variable {P : Primitives} {kept : Dict Bytes} {r : Draw} {source : Source} {p p' : Plan}
  {t : StoreTransform}

theorem addStore_eq : p.addStore P kept r source t = (do
    let cert ← source.lookup t.cert
    let key ← t.privateKey.mapM source.lookup
    let expected ← expectedEntries P t cert key
    let store ← chosenStore P kept r t cert key expected
    let p ← p.put t.store store
    let p ← p.put t.password (Bytes.ofText (keptPassword kept r t.password))
    return (p.mount t.store t.store).secondaryVariable t.passEnv t.password) := by
  unfold addStore chosenStore
  refine bind_congr fun cert => bind_congr fun key => bind_congr fun expected => ?_
  dsimp only
  cases keptStore? P kept t.store (keptPassword kept r t.password) expected <;> rfl

theorem addStore_eq_ok :
    p.addStore P kept r source t = .ok p' ↔
      ∃ cert key expected store, source.lookup t.cert = .ok cert ∧
        t.privateKey.mapM source.lookup = .ok key ∧
        expectedEntries P t cert key = .ok expected ∧
        chosenStore P kept r t cert key expected = .ok store ∧
        p.Admits t.store store ∧
        (p.withKey t.store store).Admits t.password
          (Bytes.ofText (keptPassword kept r t.password)) ∧
        p' = p.withStore t store (keptPassword kept r t.password) := by
  rw [addStore_eq]
  simp only [bind_eq_ok, put_eq_ok]
  constructor
  · rintro ⟨cert, hcert, key, hkey, expected, hexp, store, hstore, _, ⟨ha, rfl⟩, _, ⟨hb, rfl⟩, h⟩
    exact ⟨cert, key, expected, store, hcert, hkey, hexp, hstore, ha, hb, (Except.ok.inj h).symm⟩
  · rintro ⟨cert, key, expected, store, hcert, hkey, hexp, hstore, ha, hb, rfl⟩
    exact ⟨cert, hcert, key, hkey, expected, hexp, store, hstore, _, ⟨ha, rfl⟩, _, ⟨hb, rfl⟩, rfl⟩

end Stores

/-! ### Projections -/

/-- The key of the secret that a file is taken from. -/
def fileKey (source : Source) (selector file : String) : Result String :=
  match source with
  | .keyed .. => .ok file
  | .structured .. => source.derivedKey selector

/-- The selector of a projection that is no transform. -/
def selector? (projection : Projection) : Option String :=
  projection.source.or projection.path

/-- The ways in which a projection can add to a plan. -/
inductive Realized (P : Primitives) (kept : Dict Bytes) (r : Draw) (source : Source) (p : Plan)
    (projection : Projection) : Plan → Prop
  | store {t : StoreTransform} (transforms : projection.transform = some t) {p' : Plan}
      (h : p.addStore P kept r source t = .ok p') : Realized P kept r source p projection p'
  | literal {selector env text : String} {value : Bytes} (plain : projection.transform = none)
      (selects : selector? projection = some selector) (exposes : projection.env = some env)
      (isLiteral : projection.literal = true) (found : source.lookup selector = .ok value)
      (reads : value.toText? = some text) :
    Realized P kept r source p projection (p.addVariable (.plain env text))
  | reference {selector env name : String} {kind : KeyedKind} {values : Dict Bytes} {value : Bytes}
      (plain : projection.transform = none) (selects : selector? projection = some selector)
      (exposes : projection.env = some env) (isReference : projection.literal = false)
      (isKeyed : source = .keyed kind name values) (found : source.lookup selector = .ok value) :
    Realized P kept r source p projection (p.addVariable (Plan.reference env kind name selector))
  | derived {selector env label key : String} {form : Json} {value : Bytes}
      (plain : projection.transform = none) (selects : selector? projection = some selector)
      (exposes : projection.env = some env) (isReference : projection.literal = false)
      (isStructured : source = .structured label form)
      (found : source.lookup selector = .ok value)
      (keyed : source.derivedKey selector = .ok key) (admits : p.Admits key value) :
    Realized P kept r source p projection ((p.withKey key value).secondaryVariable env key)
  | file {selector file key : String} {value : Bytes} (plain : projection.transform = none)
      (selects : selector? projection = some selector) (hidden : projection.env = none)
      (mounts : projection.mount = some file) (found : source.lookup selector = .ok value)
      (keyed : fileKey source selector file = .ok key) (admits : p.Admits key value) :
    Realized P kept r source p projection ((p.withKey key value).mount key file)

theorem addFile_eq {source : Source} {p : Plan} {selector file : String} {value : Bytes} :
    p.addFile source selector file value = (do
      let key ← fileKey source selector file
      return (← p.put key value).mount key file) := by
  unfold addFile fileKey
  cases source <;> rfl

theorem addFile_eq_ok {source : Source} {p p' : Plan} {selector file : String} {value : Bytes} :
    p.addFile source selector file value = .ok p' ↔
      ∃ key, fileKey source selector file = .ok key ∧ p.Admits key value ∧
        p' = (p.withKey key value).mount key file := by
  rw [addFile_eq]
  simp only [bind_eq_ok, put_eq_ok]
  constructor
  · rintro ⟨key, hk, _, ⟨ha, rfl⟩, h⟩
    exact ⟨key, hk, ha, (Except.ok.inj h).symm⟩
  · rintro ⟨key, hk, ha, rfl⟩
    exact ⟨key, hk, _, ⟨ha, rfl⟩, rfl⟩

theorem addEnv_structured_eq_ok {label selector env : String} {form : Json} {p p' : Plan}
    {value : Bytes} :
    p.addEnv (.structured label form) selector env false value = .ok p' ↔
      ∃ key, (Source.structured label form).derivedKey selector = .ok key ∧ p.Admits key value ∧
        p' = (p.withKey key value).secondaryVariable env key := by
  unfold addEnv
  simp only [Bool.false_eq_true, if_false, bind_eq_ok, put_eq_ok]
  constructor
  · rintro ⟨key, hk, _, ⟨ha, rfl⟩, h⟩
    exact ⟨key, hk, ha, (Except.ok.inj h).symm⟩
  · rintro ⟨key, hk, ha, rfl⟩
    exact ⟨key, hk, _, ⟨ha, rfl⟩, rfl⟩

section Realizing
variable {P : Primitives} {kept : Dict Bytes} {r : Draw} {source : Source} {p p' : Plan}
  {projection : Projection} {selector env : String} {value : Bytes}

/-- What a projection that is no transform adds, once its value has been looked up. -/
theorem realize_plain (plain : projection.transform = none)
    (selects : selector? projection = some selector) (found : source.lookup selector = .ok value) :
    p.realize P kept r source projection =
      match projection.env, projection.mount with
      | some env, _ => p.addEnv source selector env projection.literal value
      | none, some file => p.addFile source selector file value
      | none, none =>
        throw (.unattributed "projection must set exactly one of env, mount, transform") := by
  unfold realize
  unfold selector? at selects
  rw [plain, selects]
  dsimp only
  rw [found]
  rfl

theorem exists_value_of_realize (plain : projection.transform = none)
    (h : p.realize P kept r source projection = .ok p') :
    ∃ selector value, selector? projection = some selector ∧
      source.lookup selector = .ok value := by
  unfold realize at h
  rw [plain] at h
  dsimp only at h
  cases selects : projection.source.or projection.path with
  | none =>
    rw [selects] at h
    cases h
  | some selector =>
    rw [selects] at h
    obtain ⟨value, found, _⟩ := bind_eq_ok.1 h
    exact ⟨selector, value, selects, found⟩

theorem Realized.of_addEnv (plain : projection.transform = none)
    (selects : selector? projection = some selector) (exposes : projection.env = some env)
    (found : source.lookup selector = .ok value)
    (h : p.addEnv source selector env projection.literal value = .ok p') :
    Realized P kept r source p projection p' := by
  cases hl : projection.literal with
  | true =>
    rw [hl] at h
    unfold addEnv at h
    cases htext : value.toText? with
    | none =>
      rw [htext] at h
      cases h
    | some text =>
      rw [htext] at h
      cases h
      exact .literal plain selects exposes hl found htext
  | false =>
    rw [hl] at h
    cases source with
    | keyed kind name values =>
      cases h
      exact .reference plain selects exposes hl rfl found
    | structured label form =>
      obtain ⟨key, hk, ha, rfl⟩ := addEnv_structured_eq_ok.1 h
      exact .derived plain selects exposes hl rfl found hk ha

theorem realize_eq_ok :
    p.realize P kept r source projection = .ok p' ↔
      Realized P kept r source p projection p' := by
  constructor
  · intro h
    cases plain : projection.transform with
    | some t =>
      unfold realize at h
      rw [plain] at h
      exact .store plain h
    | none =>
      obtain ⟨selector, value, selects, found⟩ := exists_value_of_realize plain h
      rw [realize_plain plain selects found] at h
      cases he : projection.env with
      | some env =>
        rw [he] at h
        exact .of_addEnv plain selects he found h
      | none =>
        rw [he] at h
        cases hm : projection.mount with
        | none =>
          rw [hm] at h
          cases h
        | some file =>
          rw [hm] at h
          obtain ⟨key, hk, ha, rfl⟩ := addFile_eq_ok.1 h
          exact .file plain selects he hm found hk ha
  · intro h
    cases h with
    | store plain h =>
      unfold realize
      rw [plain]
      exact h
    | literal plain selects he hl found htext =>
      rw [realize_plain plain selects found, he, hl]
      dsimp only [addEnv]
      rw [if_pos rfl, htext]
      rfl
    | reference plain selects he hl hkeyed found =>
      rw [realize_plain plain selects found, he, hl, hkeyed]
      rfl
    | derived plain selects he hl hstructured found hk ha =>
      rw [realize_plain plain selects found, he, hl]
      subst hstructured
      exact addEnv_structured_eq_ok.2 ⟨_, hk, ha, rfl⟩
    | file plain selects he hm found hk ha =>
      rw [realize_plain plain selects found, he, hm]
      exact addFile_eq_ok.2 ⟨_, hk, ha, rfl⟩

end Realizing

end Plan

end ServiceBinding.Binding
