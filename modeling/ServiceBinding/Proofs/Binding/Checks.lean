import ServiceBinding.Binding.Check
import ServiceBinding.Proofs.Results

/-!
What is known of the sources of a binding that has been checked: every projection is valid on its
own. A valid projection reaches the pod in exactly one way, and a trust store takes no private key.
-/
namespace ServiceBinding
open Binding

/-- What a valid transform is like: nothing is missing, the store and its password have keys of
their own, and it takes a private key just if it makes a key store. -/
theorem StoreTransform.validate_eq_ok {t : StoreTransform} :
    t.validate = .ok () ↔ t.cert ≠ "" ∧ t.store ≠ "" ∧ t.password ≠ "" ∧ t.passEnv ≠ "" ∧
      t.store ≠ t.password ∧ (t.kind = .keyStore ↔ t.privateKey.isSome = true) := by
  unfold validate
  simp only [String.isEmpty_iff]
  split
  · next h => simp [h]
  split
  · next h => simp [h]
  split
  · next h => simp [h]
  split
  · next h => simp [h]
  split
  · next h => simp [h]
  cases t.kind <;> cases t.privateKey <;> simp_all

theorem StoreTransform.privateKey_of_validate {t : StoreTransform} (h : t.validate = .ok ())
    (kind : t.kind = .trustStore) : t.privateKey = none := by
  obtain ⟨-, -, -, -, -, hkind⟩ := validate_eq_ok.1 h
  rw [kind] at hkind
  simpa using hkind

theorem StoreTransform.store_ne_password {t : StoreTransform} (h : t.validate = .ok ()) :
    t.store ≠ t.password := by
  obtain ⟨-, -, -, -, hne, -⟩ := validate_eq_ok.1 h
  exact hne

theorem Projection.realizations_of_validate {p : Projection} (h : p.validate = .ok ()) :
    p.realizations = 1 := by
  unfold validate at h
  dsimp only at h
  split at h
  · cases h
  · next hne => exact not_not.1 hne

theorem Projection.transform_of_validate {p : Projection} (h : p.validate = .ok ())
    {t : StoreTransform} (transforms : p.transform = some t) : t.validate = .ok () := by
  unfold validate at h
  dsimp only at h
  split at h
  · cases h
  split at h
  · cases h
  rw [transforms] at h
  dsimp only at h
  split at h
  · cases h
  · exact h

/-- A valid projection that is no transform has its value from one place. -/
theorem Projection.selects_of_validate {p : Projection} (h : p.validate = .ok ())
    (plain : p.transform = none) : (p.source.or p.path).isSome = true := by
  unfold validate at h
  dsimp only at h
  split at h
  · cases h
  split at h
  · cases h
  rw [plain] at h
  dsimp only at h
  split at h
  · cases h
  · next hone => cases hs : p.source <;> cases hp : p.path <;> simp_all

/-- A valid projection that mounts a file exposes no variable. -/
theorem Projection.env_of_mount {p : Projection} (h : p.validate = .ok ())
    (mounts : p.mount.isSome = true) : p.env = none ∧ p.transform = none := by
  have hr := realizations_of_validate h
  unfold realizations at hr
  rw [mounts] at hr
  cases he : p.env <;> cases ht : p.transform <;> simp_all

/-- A valid projection that exposes a variable is no transform. -/
theorem Projection.transform_of_env {p : Projection} (h : p.validate = .ok ())
    (exposes : p.env.isSome = true) : p.mount = none ∧ p.transform = none := by
  have hr := realizations_of_validate h
  unfold realizations at hr
  rw [exposes] at hr
  cases hm : p.mount <;> cases ht : p.transform <;> simp_all

namespace Binding

theorem validate_of_checkProjection {p : Projection} (h : checkProjection p = .ok ()) :
    p.validate = .ok () := by
  obtain ⟨_, hv, _⟩ := bind_eq_ok.1 h
  exact hv

theorem isSecretKey_of_checkSecretKey {key : String} (h : checkSecretKey key = .ok ()) :
    isSecretKey key = true := by
  unfold checkSecretKey at h
  split at h
  · assumption
  · cases h

/-- The names that a checked projection gives to files can be keys of a secret. -/
theorem isSecretKey_of_checkFileName {name : String} (h : checkFileName name = .ok ()) :
    isSecretKey name = true := by
  obtain ⟨⟨⟩, hkey, -⟩ := bind_eq_ok.1 h
  exact isSecretKey_of_checkSecretKey hkey

/-- The names that a checked projection gives have been checked. -/
theorem names_of_checkProjection {p : Projection} (h : checkProjection p = .ok ()) :
    (∀ file, p.mount = some file → checkFileName file = .ok ()) ∧
      ∀ t, p.transform = some t → checkFileName t.store = .ok () ∧
        checkSecretKey t.password = .ok () := by
  obtain ⟨⟨⟩, -, h⟩ := bind_eq_ok.1 h
  constructor
  · intro file hfile
    rw [hfile] at h
    obtain ⟨⟨⟩, hmount, -⟩ := bind_eq_ok.1 h
    exact hmount
  · intro t ht
    rw [ht] at h
    dsimp only at h
    split at h
    · obtain ⟨_, -, h⟩ := bind_eq_ok.1 h
      obtain ⟨⟨⟩, hstore, hpassword⟩ := bind_eq_ok.1 h
      exact ⟨hstore, hpassword⟩
    · obtain ⟨⟨⟩, hstore, hpassword⟩ := bind_eq_ok.1 h
      exact ⟨hstore, hpassword⟩

/-- Whether the projections of a source fit the way its values are addressed. -/
def Addressed (access : Access) (projections : List Projection) : Prop :=
  match access with
  | .keyed _ => ¬ projections.any (·.path.isSome) = true
  | .structured _ => ¬ projections.any (·.source.isSome) = true ∧
      ∀ p ∈ projections, ∀ selector ∈ selectors p, checkSelector selector = .ok ()

theorem checkSource_eq_ok {catalog : Catalog} {s : SourceRef} {access : Access} :
    checkSource catalog s = .ok access ↔ ¬ s.name.isEmpty = true ∧
      catalog.resolve s.group s.version s.kind = .ok access ∧
      ¬ (s.projections.any (·.source.isSome) && s.projections.any (·.path.isSome)) = true ∧
      (∀ p ∈ s.projections, checkProjection p = .ok ()) ∧ Addressed access s.projections := by
  unfold checkSource
  dsimp only
  by_cases hname : s.name.isEmpty = true
  · rw [if_pos hname]
    exact ⟨nofun, fun h => absurd hname h.1⟩
  rw [if_neg hname, bind_eq_ok]
  constructor
  · rintro ⟨way, hway, h⟩
    split at h
    · cases h
    next hmixed =>
    obtain ⟨⟨⟩, hall, h⟩ := bind_eq_ok.1 h
    cases way with
    | keyed =>
      dsimp only at h
      split at h
      · cases h
      next hpath =>
      cases h
      exact ⟨hname, hway, hmixed, forM_eq_ok.1 hall, hpath⟩
    | structured =>
      dsimp only at h
      split at h
      · cases h
      next hkey =>
      obtain ⟨⟨⟩, hpaths, h⟩ := bind_eq_ok.1 h
      cases h
      exact ⟨hname, hway, hmixed, forM_eq_ok.1 hall, hkey,
        fun p hp => forM_eq_ok.1 (forM_eq_ok.1 hpaths p hp)⟩
  · rintro ⟨-, hway, hmixed, hall, haddressed⟩
    refine ⟨access, hway, ?_⟩
    rw [if_neg hmixed]
    refine bind_eq_ok.2 ⟨(), forM_eq_ok.2 hall, ?_⟩
    cases access with
    | keyed =>
      dsimp only
      rw [if_neg haddressed]
      rfl
    | structured =>
      dsimp only
      rw [if_neg haddressed.1]
      exact bind_eq_ok.2 ⟨(), forM_eq_ok.2 fun p hp => forM_eq_ok.2 (haddressed.2 p hp), rfl⟩

/-- What has been checked of a source: each projection on its own, and where values are addressed
by path, every path. -/
theorem of_checkSource {catalog : Catalog} {s : SourceRef} {access : Access}
    (h : checkSource catalog s = .ok access) :
    (∀ p ∈ s.projections, checkProjection p = .ok ()) ∧
      ∀ kind, access = .structured kind → ∀ p ∈ s.projections, ∀ selector ∈ selectors p,
        checkSelector selector = .ok () := by
  obtain ⟨-, -, -, hall, haddressed⟩ := checkSource_eq_ok.1 h
  refine ⟨hall, ?_⟩
  rintro kind rfl
  exact haddressed.2

/-- A binding is checked source by source, in its order. -/
theorem check_eq_ok {catalog : Catalog} {b : Binding} {refs : List (SourceRef × Access)} :
    check catalog b = .ok refs ↔
      List.Forall₂ (fun s ref => ref.1 = s ∧ checkSource catalog s = .ok ref.2) b.sources refs := by
  have hstep : (fun s ref => (do return (s, ← checkSource catalog s) : Result _) = .ok ref) =
      fun (s : SourceRef) (ref : SourceRef × Access) =>
        ref.1 = s ∧ checkSource catalog s = .ok ref.2 := by
    funext s ref
    rw [eq_iff_iff, bind_eq_ok]
    constructor
    · rintro ⟨access, hchecked, he⟩
      cases he
      exact ⟨rfl, hchecked⟩
    · rintro ⟨rfl, hchecked⟩
      exact ⟨ref.2, hchecked, rfl⟩
  unfold check
  rw [mapM_eq_ok, hstep]

/-- Checking leaves out no source. -/
theorem map_fst_check {catalog : Catalog} {b : Binding} {refs : List (SourceRef × Access)}
    (h : check catalog b = .ok refs) : refs.map (·.1) = b.sources := by
  have hall := check_eq_ok.1 h
  clear h
  generalize b.sources = l at hall ⊢
  induction hall with
  | nil => rfl
  | cons hfirst _ ih => rw [List.map_cons, ih, hfirst.1]

/-- Every source of a checked binding is addressed as its own check says. -/
theorem checkSource_of_check {catalog : Catalog} {b : Binding} {refs : List (SourceRef × Access)}
    (h : check catalog b = .ok refs) : ∀ ref ∈ refs, checkSource catalog ref.1 = .ok ref.2 := by
  intro ref href
  obtain ⟨_, -, rfl, hchecked⟩ := exists_of_forall₂ (check_eq_ok.1 h) ref href
  exact hchecked

/-- Every projection of a checked binding is valid. -/
theorem validate_of_check {catalog : Catalog} {b : Binding} {refs : List (SourceRef × Access)}
    (h : check catalog b = .ok refs) : ∀ ref ∈ refs, ∀ p ∈ ref.1.projections,
      p.validate = .ok () :=
  fun ref href p hp =>
    validate_of_checkProjection ((of_checkSource (checkSource_of_check h ref href)).1 p hp)

end Binding

end ServiceBinding
