import Mathlib.Data.List.Perm.Basic
import ServiceBinding.Proofs.Binding.Requests

/-!
What requests without transforms add to a plan. Each of them has a share of its own, which depends
on neither the plan nor anything that has been kept (`realize_eq_share`), and a plan is gathered
from the shares just if no key of the secret is to have two values (`addShares_eq_ok`). So in
another order the same requests give the same content, and the same files and variables up to order
(`exists_permuted`).
-/
namespace ServiceBinding.Binding
open Crypto Object

/-- What a request adds to a plan: a value of the secondary secret, a file, a variable. -/
structure Share where
  entry : Option (String × Bytes) := none
  item : Option Item := none
  var : Option EnvVar := none

/-- The share of a request that is no transform, in the secondary secret of some name. -/
def Request.share (secondary : String) (s : Request) : Result Share :=
  match Plan.selector? s.projection with
  | none => throw (.unattributed "projection has neither from nor path")
  | some selector => do
    let value ← s.source.lookup selector
    match s.projection.env, s.projection.mount with
    | some env, _ =>
      if s.projection.literal then
        match value.toText? with
        | some text => return { var := some (.plain env text) }
        | none => throw (.unattributed ("value for env " ++ env ++ " is not valid UTF-8 text"))
      else
        match s.source with
        | .keyed kind name _ => return { var := some (Plan.reference env kind name selector) }
        | .structured .. =>
          let key ← s.source.derivedKey selector
          return { entry := some (key, value),
                   var := some (Plan.reference env .secret secondary key) }
    | none, some file =>
      let key ← Plan.fileKey s.source selector file
      return { entry := some (key, value), item := some { key := key, path := file } }
    | none, none =>
      throw (.unattributed "projection must set exactly one of env, mount, transform")

namespace Plan
variable {P : Primitives} {kept : Dict Bytes}

/-- Adds a share. -/
def addShare (p : Plan) (s : Share) : Result Plan := do
  let p ← match s.entry with
    | some (key, value) => p.put key value
    | none => pure p
  return { p with items := p.items ++ s.item.toList, env := p.env ++ s.var.toList }

/-- Adds some shares one after the other. -/
def addShares : Plan → List Share → Result Plan
  | p, [] => .ok p
  | p, s :: rest => do addShares (← p.addShare s) rest

theorem addShare_eq_ok {p q : Plan} {s : Share} :
    p.addShare s = .ok q ↔ (∀ key value, s.entry = some (key, value) → p.Admits key value) ∧
      q = { p with
        content := match s.entry with
          | some (key, value) => p.content.insert key value
          | none => p.content
        items := p.items ++ s.item.toList
        env := p.env ++ s.var.toList } := by
  obtain ⟨entry, item, var⟩ := s
  unfold addShare
  cases entry with
  | none => simp [pure, Except.pure, Bind.bind, Except.bind, eq_comm]
  | some entry =>
    obtain ⟨key, value⟩ := entry
    dsimp only
    rw [bind_eq_ok]
    simp only [put_eq_ok, Option.some.injEq, Prod.mk.injEq]
    constructor
    · rintro ⟨_, ⟨admits, rfl⟩, h⟩
      cases h
      exact ⟨fun _ _ ⟨hk, hv⟩ => hk ▸ hv ▸ admits, rfl⟩
    · rintro ⟨admits, rfl⟩
      exact ⟨_, ⟨admits key value ⟨rfl, rfl⟩, rfl⟩, rfl⟩

theorem secondary_of_addShare {p q : Plan} {s : Share} (h : p.addShare s = .ok q) :
    q.secondary = p.secondary := by
  obtain ⟨-, rfl⟩ := addShare_eq_ok.1 h
  rfl

theorem addShare_var (p : Plan) (var : EnvVar) :
    p.addShare { var := some var } = .ok (p.addVariable var) := by
  show Except.ok { p with items := p.items ++ [], env := p.env ++ [var] } = _
  rw [List.append_nil]
  rfl

theorem addShare_entry_var (p : Plan) (key : String) (value : Bytes) (var : EnvVar) :
    p.addShare { entry := some (key, value), var := some var } =
      p.put key value >>= fun q => .ok (q.addVariable var) := by
  refine bind_congr fun q => ?_
  show Except.ok { q with items := q.items ++ [], env := q.env ++ [var] } = _
  rw [List.append_nil]
  rfl

theorem addShare_entry_item (p : Plan) (key file : String) (value : Bytes) :
    p.addShare { entry := some (key, value), item := some { key := key, path := file } } =
      p.put key value >>= fun q => .ok (q.mount key file) := by
  refine bind_congr fun q => ?_
  show Except.ok { q with items := q.items ++ [_], env := q.env ++ [] } = _
  rw [List.append_nil]
  rfl

theorem put_secondaryVariable (p : Plan) (key env : String) (value : Bytes) :
    (p.put key value >>= fun q => .ok (q.secondaryVariable env key)) =
      p.put key value >>= fun q => .ok (q.addVariable (reference env .secret p.secondary key)) := by
  cases hput : p.put key value with
  | error e => rfl
  | ok q =>
    obtain ⟨-, rfl⟩ := put_eq_ok.1 hput
    rfl

/-- A request that is no transform adds its share, whatever has been kept. -/
theorem realize_eq_share {s : Request} (plain : s.projection.transform = none) (r : Draw)
    (p : Plan) :
    p.realize P kept r s.source s.projection = s.share p.secondary >>= p.addShare := by
  unfold realize Request.share selector?
  rw [plain]
  cases s.projection.source.or s.projection.path with
  | none => rfl
  | some selector =>
    dsimp only
    rw [bind_assoc]
    refine bind_congr fun value => ?_
    cases s.projection.env with
    | some env =>
      dsimp only
      unfold addEnv
      cases s.projection.literal with
      | true =>
        simp only [if_true]
        cases value.toText? with
        | none => rfl
        | some text => exact (addShare_var p _).symm
      | false =>
        simp only [Bool.false_eq_true, if_false]
        cases s.source with
        | keyed kind name values => exact (addShare_var p _).symm
        | structured label form =>
          dsimp only
          rw [bind_assoc]
          refine bind_congr fun key => ?_
          rw [pure_bind, addShare_entry_var]
          exact put_secondaryVariable p key env value
    | none =>
      cases s.projection.mount with
      | none => rfl
      | some file =>
        dsimp only
        rw [addFile_eq, bind_assoc]
        refine bind_congr fun key => ?_
        rw [pure_bind, addShare_entry_item]
        rfl

/-- Requests without transforms can be realized just if each has a share and these can be added. -/
theorem realizeRequests_eq_ok {l : List Request} (plain : ∀ s ∈ l, s.projection.transform = none)
    {draws : Nat → Draw} {k : Nat} {p q : Plan} :
    p.realizeRequests P kept draws k l = .ok q ↔ ∃ shares,
      List.Forall₂ (fun s share => s.share p.secondary = .ok share) l shares ∧
        p.addShares shares = .ok q := by
  induction l generalizing k p with
  | nil =>
    simp only [List.forall₂_nil_left_iff, exists_eq_left]
    rfl
  | cons s rest ih =>
    rw [List.forall_mem_cons] at plain
    rw [realizeRequests, realize_eq_share plain.1, bind_assoc, bind_eq_ok]
    simp only [List.forall₂_cons_left_iff]
    constructor
    · rintro ⟨share, hshare, h⟩
      obtain ⟨mid, hmid, h⟩ := bind_eq_ok.1 h
      obtain ⟨shares, hshares, h⟩ := (ih plain.2).1 h
      rw [secondary_of_addShare hmid] at hshares
      exact ⟨_, ⟨share, shares, hshare, hshares, rfl⟩, bind_eq_ok.2 ⟨mid, hmid, h⟩⟩
    · rintro ⟨_, ⟨share, shares, hshare, hshares, rfl⟩, h⟩
      obtain ⟨mid, hmid, h⟩ := bind_eq_ok.1 h
      rw [← secondary_of_addShare hmid] at hshares
      exact ⟨share, hshare, bind_eq_ok.2 ⟨mid, hmid, (ih plain.2).2 ⟨shares, hshares, h⟩⟩⟩

/-- Whether a plan is another one with some shares: the keys have the values that they had or are
given, and nothing else is there. -/
structure Combines (p : Plan) (shares : List Share) (q : Plan) : Prop where
  secondary : q.secondary = p.secondary
  items : q.items = p.items ++ shares.filterMap (·.item)
  env : q.env = p.env ++ shares.filterMap (·.var)
  gives : ∀ share ∈ shares, ∀ key value, share.entry = some (key, value) →
    isSecretKey key = true ∧ q.content.get? key = some value
  keeps : ∀ key value, p.content.get? key = some value → q.content.get? key = some value
  only : ∀ key value, q.content.get? key = some value →
    p.content.get? key = some value ∨ ∃ share ∈ shares, share.entry = some (key, value)

theorem Combines.nil_iff {p q : Plan} : p.Combines [] q ↔ q = p := by
  constructor
  · rintro ⟨secondary, items, env, -, keeps, only⟩
    have content : q.content = p.content := by
      refine Dict.ext_get? fun key => Option.ext fun value => ⟨fun h => ?_, keeps key value⟩
      exact (only key value h).resolve_right fun ⟨_, h, _⟩ => nomatch h
    rw [List.filterMap_nil, List.append_nil] at items env
    obtain ⟨secondary', content', items', env'⟩ := q
    obtain rfl : secondary' = p.secondary := secondary
    obtain rfl : content' = p.content := content
    obtain rfl : items' = p.items := items
    obtain rfl : env' = p.env := env
    rfl
  · rintro rfl
    exact ⟨rfl, (List.append_nil _).symm, (List.append_nil _).symm, List.forall_mem_nil _,
      fun _ _ h => h, fun _ _ => .inl⟩

/-- The keys of a plan with one more share. -/
theorem get?_addShare {p q : Plan} {s : Share} (h : p.addShare s = .ok q) {key : String}
    {value : Bytes} : q.content.get? key = some value ↔
      p.content.get? key = some value ∨ s.entry = some (key, value) := by
  obtain ⟨admits, rfl⟩ := addShare_eq_ok.1 h
  obtain ⟨entry, item, var⟩ := s
  cases entry with
  | none => simp
  | some entry =>
    obtain ⟨key', value'⟩ := entry
    obtain ⟨-, agrees⟩ := admits key' value' rfl
    dsimp only
    rw [Dict.get?_insert, Option.some.injEq, Prod.mk.injEq]
    split
    · next he =>
      subst he
      rw [Option.some.injEq]
      exact ⟨fun hv => .inr ⟨rfl, hv⟩, fun hv => hv.elim (fun hk => (agrees _ hk).symm) (·.2)⟩
    · next he => simp [Ne.symm he]

theorem combines_cons {p mid q : Plan} {s : Share} {rest : List Share}
    (h : p.addShare s = .ok mid) : p.Combines (s :: rest) q ↔ mid.Combines rest q := by
  have hkey {key : String} {value : Bytes} := @get?_addShare p mid s h key value
  obtain ⟨admits, hmid⟩ := addShare_eq_ok.1 h
  have hsecondary : mid.secondary = p.secondary := secondary_of_addShare h
  have hitems : mid.items = p.items ++ s.item.toList := by rw [hmid]
  have henv : mid.env = p.env ++ s.var.toList := by rw [hmid]
  have hitem : (s :: rest).filterMap (·.item) = s.item.toList ++ rest.filterMap (·.item) := by
    cases hs : s.item <;> simp [hs]
  have hvar : (s :: rest).filterMap (·.var) = s.var.toList ++ rest.filterMap (·.var) := by
    cases hs : s.var <;> simp [hs]
  constructor
  · rintro ⟨secondary, items, env, gives, keeps, only⟩
    rw [List.forall_mem_cons] at gives
    refine ⟨secondary.trans hsecondary.symm, ?_, ?_, gives.2, fun key value hk => ?_,
      fun key value hk => ?_⟩
    · rw [items, hitems, hitem, List.append_assoc]
    · rw [env, henv, hvar, List.append_assoc]
    · rcases hkey.1 hk with hk | hs
      · exact keeps key value hk
      · exact (gives.1 key value hs).2
    · rw [hkey]
      rcases only key value hk with hk | ⟨share, hmem, hs⟩
      · exact .inl (.inl hk)
      · rcases List.mem_cons.1 hmem with rfl | hmem
        · exact .inl (.inr hs)
        · exact .inr ⟨share, hmem, hs⟩
  · rintro ⟨secondary, items, env, gives, keeps, only⟩
    refine ⟨secondary.trans hsecondary, ?_, ?_, List.forall_mem_cons.2 ⟨fun key value hs =>
      ⟨(admits key value hs).1, keeps _ _ (hkey.2 (.inr hs))⟩, gives⟩,
      fun key value hk => keeps _ _ (hkey.2 (.inl hk)), fun key value hk => ?_⟩
    · rw [items, hitems, hitem, List.append_assoc]
    · rw [env, henv, hvar, List.append_assoc]
    · rcases only key value hk with hk | ⟨share, hmem, hs⟩
      · exact (hkey.1 hk).imp_right fun hs => ⟨s, List.mem_cons_self, hs⟩
      · exact .inr ⟨share, List.mem_cons_of_mem _ hmem, hs⟩

/-- Shares can be added just if there is a plan that combines them. -/
theorem addShares_eq_ok {p q : Plan} {shares : List Share} :
    p.addShares shares = .ok q ↔ p.Combines shares q := by
  induction shares generalizing p with
  | nil =>
    rw [Combines.nil_iff]
    exact ⟨fun h => (Except.ok.inj h).symm, fun h => h ▸ rfl⟩
  | cons s rest ih =>
    rw [addShares, bind_eq_ok]
    constructor
    · rintro ⟨mid, hmid, h⟩
      exact (combines_cons hmid).2 (ih.1 h)
    · intro h
      -- What the share gives is there in the end, and so agrees with what was there before.
      have admits : ∀ key value, s.entry = some (key, value) → p.Admits key value := by
        intro key value hs
        obtain ⟨hkey, hthere⟩ := h.gives s List.mem_cons_self key value hs
        exact ⟨hkey, fun known hk => Option.some.inj ((h.keeps key known hk).symm.trans hthere)⟩
      have hmid := addShare_eq_ok.2 ⟨admits, rfl⟩
      exact ⟨_, hmid, ih.2 ((combines_cons hmid).1 h)⟩

/-! ### Order -/

/-- Whether two plans are the same but for the order of files and variables. -/
structure Permuted (p q : Plan) : Prop where
  secondary : q.secondary = p.secondary
  content : q.content = p.content
  items : p.items.Perm q.items
  env : p.env.Perm q.env

theorem Permuted.symm {p q : Plan} (h : p.Permuted q) : q.Permuted p :=
  ⟨h.secondary.symm, h.content.symm, h.items.symm, h.env.symm⟩

/-- The same shares in another order give the same plan in another order. -/
theorem Combines.perm {p q : Plan} {shares shares' : List Share} (h : p.Combines shares q)
    (perm : shares.Perm shares') : ∃ q', p.Combines shares' q' ∧ q.Permuted q' := by
  refine ⟨{ q with
    items := p.items ++ shares'.filterMap (·.item)
    env := p.env ++ shares'.filterMap (·.var) }, ⟨h.secondary, rfl, rfl,
      fun share hmem => h.gives share (perm.mem_iff.2 hmem), h.keeps, fun key value hk => ?_⟩,
      ⟨rfl, rfl, ?_, ?_⟩⟩
  · obtain hk | ⟨share, hmem, hs⟩ := h.only key value hk
    · exact .inl hk
    · exact .inr ⟨share, perm.mem_iff.1 hmem, hs⟩
  · rw [h.items]
    exact .append_left _ (perm.filterMap _)
  · rw [h.env]
    exact .append_left _ (perm.filterMap _)

/-- **The order of requests does not matter**: without transforms, the same requests in another
order can be realized as well, whatever has been kept, and give the same plan up to order. -/
theorem exists_permuted {l l' : List Request} (plain : ∀ s ∈ l, s.projection.transform = none)
    (perm : l.Perm l') {draws : Nat → Draw} {k : Nat} {p q : Plan}
    (h : p.realizeRequests P kept draws k l = .ok q) :
    ∃ q', p.realizeRequests P kept draws k l' = .ok q' ∧ q.Permuted q' := by
  obtain ⟨shares, hshares, h⟩ := (realizeRequests_eq_ok plain).1 h
  obtain ⟨shares', hshares', perm'⟩ := List.perm_comp_forall₂ perm.symm hshares
  obtain ⟨q', hq', permuted⟩ := (addShares_eq_ok.1 h).perm perm'.symm
  have plain' : ∀ s ∈ l', s.projection.transform = none := fun s hs =>
    plain s (perm.mem_iff.2 hs)
  exact ⟨q', (realizeRequests_eq_ok plain').2 ⟨shares', hshares', addShares_eq_ok.2 hq'⟩, permuted⟩

end Plan

end ServiceBinding.Binding
