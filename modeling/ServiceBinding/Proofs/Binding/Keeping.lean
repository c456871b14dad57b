import ServiceBinding.Proofs.Binding.Checks
import ServiceBinding.Proofs.Binding.Gathering
import ServiceBinding.Proofs.Crypto.Material

/-!
Key stores and passwords are kept. Whatever a plan was made with, the same plan is made again when
its own content is what has been kept, with whatever new draws (`gather_again`): each password is
found again under its key, and each store opens with it and has the entries expected.
-/
namespace ServiceBinding.Binding
open Convergence Crypto Object
variable {ρ : Type} {P : Primitives}

/-- Whether all values of a source are shorter than `2^31` octets. -/
def Source.Small (source : Source) : Prop :=
  ∀ selector value, source.lookup selector = .ok value → value.length < 2 ^ 31

/-- Whether all sources that a reader ever answers with are small. -/
def SourceReader.Small (reader : SourceReader ρ) : Prop :=
  ∀ space name access r source r',
    (reader.read space name access).exec r = (.ok source, r') → source.Small

/-- A reader of small values is small. -/
theorem SourceReader.small_shared {values : Dict Bytes}
    (small : ∀ key value, values.get? key = some value → value.length < 2 ^ 31) :
    (SourceReader.shared values : SourceReader ρ).Small := by
  intro space name access r source r' h selector value hl
  rcases access with (_ | _) | kind
  · obtain ⟨s, _, hs, h⟩ := Action.exec_bind_ok.1 h
    cases hs
    cases h
    unfold Source.lookup secretValues at hl
    dsimp only at hl
    split at hl
    · next found hget =>
      cases hl
      refine small selector _ ?_
      rw [← hget, Dict.get?_union, Dict.get?_map, Option.getD_some]
      cases values.get? selector <;> rfl
    · cases hl
  · obtain ⟨s, _, hs, _⟩ := Action.exec_bind_ok.1 h
    cases hs
  · obtain ⟨s, _, hs, _⟩ := Action.exec_bind_ok.1 h
    cases hs

namespace Plan

/-! ### Passwords and stores -/

theorem keptPassword_ne_empty (kept : Dict Bytes) (r : Draw) (key : String) :
    (keptPassword kept r key).isEmpty = false := by
  unfold keptPassword
  cases hf : ((kept.get? key).bind Bytes.toText?).filter (!·.isEmpty) with
  | none =>
    rw [Option.getD_none, ← Bool.not_eq_true, String.isEmpty_iff]
    unfold Draw.password
    rw [String.ofList_eq_empty_iff, List.ofFn_eq_nil_iff]
    decide
  | some password =>
    have h := Option.mem_filter_iff.1 hf
    simpa using h.2

/-- A password that has been kept is used again. -/
theorem keptPassword_again {content : Dict Bytes} {key password : String}
    (h : content.get? key = some (Bytes.ofText password)) (filled : password.isEmpty = false)
    (r : Draw) : keptPassword content r key = password := by
  unfold keptPassword
  rw [h, Option.bind_some, Bytes.toText?_ofText, Option.filter_some, if_pos (by rw [filled]; rfl)]
  rfl

/-- Whether the password opens the store, and the entries in it are those expected. -/
def Opens (P : Primitives) (store : Bytes) (password : String) (expected : List Keystore.Entry) :
    Prop :=
  Keystore.decode P.digest store password = .ok expected

theorem keptStore?_eq_some {kept : Dict Bytes} {key password : String}
    {expected : List Keystore.Entry} {store : Bytes} :
    keptStore? P kept key password expected = some store ↔
      kept.get? key = some store ∧ Opens P store password expected := by
  unfold keptStore? Opens
  rw [Option.filter_eq_some_iff]
  refine and_congr_right fun _ => ?_
  cases Keystore.decode P.digest store password <;> simp

/-- A new store opens with its password. -/
theorem opens_newStore {r : Draw} {t : StoreTransform} {cert : Bytes} {key : Option Bytes}
    (fits : t.kind = .trustStore → key = none) (small : cert.length < 256 ^ 4)
    {expected : List Keystore.Entry} (expects : expectedEntries P t cert key = .ok expected)
    {password : String} {store : Bytes} (made : newStore P r cert key password = .ok store) :
    Opens P store password expected := by
  unfold newStore at made
  rw [mapError_eq_ok] at made
  unfold expectedEntries at expects
  cases hk : t.kind with
  | trustStore =>
    rw [fits hk] at made
    rw [hk] at expects
    exact Material.decode_trustStore small made (mapError_eq_ok.1 expects)
  | keyStore =>
    rw [hk] at expects
    cases key with
    | none => cases expects
    | some key => exact Material.decode_keyStore small made (mapError_eq_ok.1 expects)

theorem opens_chosenStore {kept : Dict Bytes} {r : Draw} {t : StoreTransform} {cert : Bytes}
    {key : Option Bytes} (fits : t.kind = .trustStore → key = none) (small : cert.length < 256 ^ 4)
    {expected : List Keystore.Entry} (expects : expectedEntries P t cert key = .ok expected)
    {store : Bytes} (chosen : chosenStore P kept r t cert key expected = .ok store) :
    Opens P store (keptPassword kept r t.password) expected := by
  unfold chosenStore at chosen
  cases hs : keptStore? P kept t.store (keptPassword kept r t.password) expected with
  | some found =>
    rw [hs] at chosen
    cases chosen
    exact (keptStore?_eq_some.1 hs).2
  | none =>
    rw [hs] at chosen
    exact opens_newStore fits small expects chosen

/-- A store that has been kept with its password is chosen again. -/
theorem chosenStore_again {kept : Dict Bytes} {t : StoreTransform} {cert : Bytes}
    {key : Option Bytes} {expected : List Keystore.Entry} {store : Bytes} {password : String}
    (stored : kept.get? t.store = some store) (opens : Opens P store password expected) {r : Draw}
    (same : keptPassword kept r t.password = password) :
    chosenStore P kept r t cert key expected = .ok store := by
  unfold chosenStore
  rw [same, keptStore?_eq_some.2 ⟨stored, opens⟩]

/-! ### Plans -/

/-- A store is added again as it was, once it is kept with its password. -/
theorem addStore_again {kept : Dict Bytes} {r : Draw} {source : Source} (small : source.Small)
    {p p' : Plan} {t : StoreTransform} (fits : t.kind = .trustStore → t.privateKey = none)
    (h : p.addStore P kept r source t = .ok p') {last : Plan} (grows : p'.Grows last)
    (r' : Draw) : p.addStore P last.content r' source t = .ok p' := by
  obtain ⟨cert, key, expected, store, hcert, hkey, hexp, hstore, ha, hb, rfl⟩ :=
    addStore_eq_ok.1 h
  have hfits : t.kind = .trustStore → key = none := by
    intro hk
    rw [fits hk] at hkey
    exact (Except.ok.inj hkey).symm
  have hopens := opens_chosenStore hfits ((small _ _ hcert).trans (by decide)) hexp hstore
  have hpassword : last.content.get? t.password =
      some (Bytes.ofText (keptPassword kept r t.password)) :=
    grows.content _ _ (get?_withKey_self _ _ _)
  have hkept : last.content.get? t.store = some store :=
    grows.content _ _ ((grows_withKey hb).content _ _ (get?_withKey_self _ _ _))
  have hsame := keptPassword_again hpassword (keptPassword_ne_empty _ _ _) r'
  refine addStore_eq_ok.2 ⟨cert, key, expected, store, hcert, hkey, hexp, ?_, ha, ?_, ?_⟩
  · exact chosenStore_again hkept hopens hsame
  · rw [hsame]
    exact hb
  · rw [hsame]

theorem realize_again {kept : Dict Bytes} {r : Draw} {source : Source} (small : source.Small)
    {p p' : Plan} {projection : Projection} (valid : projection.validate = .ok ())
    (h : p.realize P kept r source projection = .ok p') {last : Plan} (grows : p'.Grows last)
    (r' : Draw) : p.realize P last.content r' source projection = .ok p' := by
  rw [realize_eq_ok] at h ⊢
  cases h with
  | store ht h =>
    have hvalid := Projection.transform_of_validate valid ht
    have guarded := StoreTransform.privateKey_of_validate hvalid
    exact .store ht (addStore_again small guarded h grows r')
  | literal ht hs he hl hvalue htext => exact .literal ht hs he hl hvalue htext
  | reference ht hs he hl hkeyed hvalue => exact .reference ht hs he hl hkeyed hvalue
  | derived ht hs he hl hstructured hvalue hk ha =>
    exact .derived ht hs he hl hstructured hvalue hk ha
  | file ht hs he hm hvalue hk ha => exact .file ht hs he hm hvalue hk ha

theorem realizeAll_again {kept : Dict Bytes} {draws : Nat → Draw} {source : Source}
    (small : source.Small) {projections : List Projection}
    (valid : ∀ projection ∈ projections, projection.validate = .ok ()) {k : Nat} {p p' : Plan}
    (h : p.realizeAll P kept draws source k projections = .ok p') {last : Plan}
    (grows : p'.Grows last) (draws' : Nat → Draw) :
    p.realizeAll P last.content draws' source k projections = .ok p' := by
  induction projections generalizing k p with
  | nil => exact h
  | cons projection rest ih =>
    obtain ⟨q, hq, h⟩ := bind_eq_ok.1 h
    rw [List.forall_mem_cons] at valid
    refine bind_eq_ok.2 ⟨q, ?_, ih valid.2 h⟩
    exact realize_again small valid.1 hq ((grows_realizeAll h).trans grows) _

/-- A plan that has been made is made again from what it has put into the secret. -/
theorem gather_again {kept : Dict Bytes} {draws : Nat → Draw}
    {sources : List (SourceRef × Source)} (small : ∀ s ∈ sources, s.2.Small)
    (valid : ∀ s ∈ sources, ∀ projection ∈ s.1.projections, projection.validate = .ok ()) {k : Nat}
    {p p' : Plan} (h : p.gather P kept draws k sources = .ok p') {last : Plan}
    (grows : p'.Grows last) (draws' : Nat → Draw) :
    p.gather P last.content draws' k sources = .ok p' := by
  induction sources generalizing k p with
  | nil => exact h
  | cons source rest ih =>
    obtain ⟨q, hq, h⟩ := bind_eq_ok.1 h
    rw [List.forall_mem_cons] at small valid
    refine bind_eq_ok.2 ⟨q, ?_, ih small.2 valid.2 h⟩
    exact realizeAll_again small.1 valid.1 hq ((grows_gather h).trans grows) _

end Plan

end ServiceBinding.Binding
