import ServiceBinding.Crypto.Keystore
import ServiceBinding.Proofs.Crypto.Der
import ServiceBinding.Proofs.Results

/-!
The layout of key stores as a relation between entries and octets, with no mention of how it is
read, and that reading follows it exactly: a store is read to some entries just if it lays them out
under the password (`decode_eq_ok_iff_isStore`). Each part of the reader takes a piece of its form
from the front and nothing else (`Takes`).
-/
namespace ServiceBinding.Crypto.Keystore
variable {α β : Type}

/-! ### The layout -/

/-- A text after the number of its octets. -/
def IsText (s : String) (b : Bytes) : Prop :=
  (Bytes.ofText s).length < 256 ^ 2 ∧ b = Bytes.word 2 (Bytes.ofText s).length ++ Bytes.ofText s

/-- Octets after their number. -/
def IsBlock (content b : Bytes) : Prop :=
  content.length < 256 ^ 4 ∧ b = Bytes.word 4 content.length ++ content

/-- A certificate after its type. -/
def IsCertificate (certificate b : Bytes) : Prop :=
  ∃ type block, IsText "X.509" type ∧ IsBlock certificate block ∧ b = type ++ block

/-- Pieces of some forms, one after the other. -/
inductive IsRow (form : α → Bytes → Prop) : List α → Bytes → Prop
  | nil : IsRow form [] []
  | cons {a : α} {l : List α} {b b' : Bytes} (first : form a b) (rest : IsRow form l b') :
    IsRow form (a :: l) (b ++ b')

/-- Pieces in a row after their number. -/
def IsCounted (form : α → Bytes → Prop) (l : List α) (b : Bytes) : Prop :=
  l.length < 256 ^ 4 ∧ ∃ row, IsRow form l row ∧ b = Bytes.word 4 l.length ++ row

/-- A DER envelope: a sequence of a sequence that begins with the identifier of the protection and
an octet string, with anything behind each of these. -/
def IsEnvelope (covered b : Bytes) : Prop :=
  ∃ parameters algorithm string rest outer after : Bytes,
    Der.IsElement 0x30 (protectorId ++ parameters) algorithm ∧
    Der.IsElement 0x04 covered string ∧
    Der.IsElement 0x30 (algorithm ++ string ++ rest) outer ∧ b = outer ++ after

variable (d : Digest)

/-- A key under a password: a salt, the key under the stream that starts from the salt, and the
check of the key. -/
def IsCovered (secret key covered : Bytes) : Prop :=
  ∃ salt hidden : Bytes, salt.length = 20 ∧
    key = Bytes.xor hidden (keystream d secret salt hidden.length) ∧
    covered = salt ++ hidden ++ keyCheck d secret key

/-- An entry: its mark, its name and a time, then a certificate, or a key in an envelope and the
chain of certificates for it. -/
inductive IsEntry (secret : Bytes) : Entry → Bytes → Prop
  | trusted {name : String} {certificate text time row : Bytes} (named : IsText name text)
    (timed : time.length = 8) (certified : IsCertificate certificate row) :
    IsEntry secret (.trusted name certificate) (Bytes.word 4 2 ++ text ++ time ++ row)
  | privateKey {name : String} {key covered info text time block row : Bytes} {chain : List Bytes}
    (named : IsText name text) (timed : time.length = 8) (sized : IsBlock info block)
    (wrapped : IsEnvelope covered info) (hides : IsCovered d secret key covered)
    (certified : IsCounted IsCertificate chain row) :
    IsEntry secret (.privateKey name key chain) (Bytes.word 4 1 ++ text ++ time ++ block ++ row)

/-- The body of a store. -/
def IsBody (secret : Bytes) (entries : List Entry) (b : Bytes) : Prop :=
  ∃ row, IsCounted (IsEntry d secret) entries row ∧
    b = Bytes.word 4 0xFEEDFEED ++ Bytes.word 4 2 ++ row

/-- A store: its body and the digest over the password, the fixed text and the body. -/
def IsStore (password : String) (entries : List Entry) (store : Bytes) : Prop :=
  ∃ body, IsBody d (Text.utf16 password) entries body ∧
    store = body ++
      d.apply (Text.utf16 password ++ Bytes.ofText "Mighty Aphrodite" ++ body)

/-! ### Readings -/

/-- Whether a reading takes just the pieces of a form, and leaves alone what follows. -/
def Takes (read : Reader α) (form : α → Bytes → Prop) : Prop :=
  ∀ b a rest, read.run b = .ok (a, rest) ↔ ∃ front, form a front ∧ b = front ++ rest

theorem Takes.congr {read : Reader α} {form form' : α → Bytes → Prop} (h : Takes read form)
    (same : ∀ a b, form a b ↔ form' a b) : Takes read form' := by
  have hform : form = form' := funext fun a => funext fun b => propext (same a b)
  exact hform ▸ h

theorem Takes.pure (a : α) : Takes (Pure.pure a) fun a' b => a = a' ∧ b = [] := by
  intro b a' rest
  constructor
  · rintro ⟨⟩
    exact ⟨[], ⟨rfl, rfl⟩, rfl⟩
  · rintro ⟨_, ⟨rfl, rfl⟩, rfl⟩
    rfl

theorem Takes.throw (e : CertificateError) :
    Takes (MonadExcept.throw e : Reader α) fun _ _ => False := by
  intro b a rest
  constructor
  · rintro ⟨⟩
  · rintro ⟨_, ⟨⟩, _⟩

theorem Takes.lift (r : Except CertificateError α) :
    Takes (liftM r : Reader α) fun a b => r = .ok a ∧ b = [] := by
  cases r with
  | ok a => exact (Takes.pure a).congr fun a' b => by rw [Except.ok.injEq]
  | error e => exact (Takes.throw e).congr fun a b => by simp

/-- Two readings in a row take a piece of the one and then a piece of the other. -/
theorem Takes.bind {read : Reader α} {next : α → Reader β} {form : α → Bytes → Prop}
    {form' : α → β → Bytes → Prop} (h : Takes read form) (h' : ∀ a, Takes (next a) (form' a)) :
    Takes (read >>= next) fun c b => ∃ a front, form a front ∧ ∃ back, form' a c back ∧
      b = front ++ back := by
  intro b c rest
  rw [StateT.run_bind, bind_eq_ok]
  constructor
  · rintro ⟨⟨a, mid⟩, ha, hc⟩
    obtain ⟨front, hfront, rfl⟩ := (h _ _ _).1 ha
    obtain ⟨back, hback, rfl⟩ := (h' a _ _ _).1 hc
    exact ⟨front ++ back, ⟨a, front, hfront, back, hback, rfl⟩, (List.append_assoc ..).symm⟩
  · rintro ⟨_, ⟨a, front, hfront, back, hback, rfl⟩, rfl⟩
    exact ⟨(a, back ++ rest), (h _ _ _).2 ⟨front, hfront, List.append_assoc ..⟩,
      (h' a _ _ _).2 ⟨back, hback, rfl⟩⟩

/-- A reading that depends on a test. -/
theorem Takes.ite {p : Prop} [Decidable p] {read read' : Reader α} {form form' : α → Bytes → Prop}
    (h : Takes read form) (h' : Takes read' form') :
    Takes (if p then read else read') fun a b => p ∧ form a b ∨ ¬ p ∧ form' a b := by
  by_cases hp : p
  · rw [if_pos hp]
    exact h.congr fun a b => by simp [hp]
  · rw [if_neg hp]
    exact h'.congr fun a b => by simp [hp]

/-- A reading that goes on unless a test succeeds. -/
theorem Takes.unless {p : Prop} [Decidable p] {next : PUnit → Reader α}
    {form : α → Bytes → Prop} (e : CertificateError) (h : Takes (next ⟨⟩) form) :
    Takes (if p then MonadExcept.throw e >>= next else next ⟨⟩) fun a b => ¬ p ∧ form a b := by
  have hstop : Takes (MonadExcept.throw e >>= next) fun _ _ => False := fun b a rest =>
    Takes.throw e b a rest
  exact (hstop.ite h).congr fun a b => by simp

/-! ### Parts -/

theorem takes_takeBytes (n : Nat) : Takes (takeBytes n) fun a b => a.length = n ∧ b = a := by
  intro b a rest
  show takeBytes n b = _ ↔ _
  rw [takeBytes]
  constructor
  · intro h
    split at h
    · cases h
    · next hlen =>
      cases h
      refine ⟨b.take n, ⟨?_, rfl⟩, (List.take_append_drop n b).symm⟩
      rw [List.length_take]
      omega
  · rintro ⟨_, ⟨rfl, rfl⟩, rfl⟩
    rw [if_neg (by rw [List.length_append]; omega), List.take_left, List.drop_left]

theorem takes_takeWord (width : Nat) :
    Takes (takeWord width) fun n b => n < 256 ^ width ∧ b = Bytes.word width n := by
  refine ((takes_takeBytes width).bind fun octets => Takes.pure _).congr fun n b => ?_
  constructor
  · rintro ⟨octets, _, ⟨rfl, rfl⟩, _, ⟨rfl, rfl⟩, rfl⟩
    rw [List.append_nil, Bytes.word_value]
    exact ⟨Bytes.value_lt _, rfl⟩
  · rintro ⟨hn, rfl⟩
    exact ⟨_, _, ⟨Bytes.length_word width n, rfl⟩, [], ⟨Bytes.value_word hn, rfl⟩,
      (List.append_nil _).symm⟩

theorem takes_takeText : Takes takeText IsText := by
  refine Takes.congr ((takes_takeWord 2).bind fun n => (takes_takeBytes n).bind fun octets =>
    (?_ : Takes _ fun s b => octets = Bytes.ofText s ∧ b = [])) fun s b => ?_
  · cases ho : octets.toText? with
    | none =>
      refine (Takes.throw _).congr fun s b => ⟨False.elim, ?_⟩
      rintro ⟨rfl, -⟩
      rw [Bytes.toText?_ofText] at ho
      cases ho
    | some s =>
      refine (Takes.pure s).congr fun s' b => and_congr_left' ⟨?_, ?_⟩
      · rintro rfl
        exact (Bytes.ofText_of_toText? ho).symm
      · rintro rfl
        rw [Bytes.toText?_ofText] at ho
        exact (Option.some.inj ho).symm
  constructor
  · rintro ⟨n, _, ⟨hn, rfl⟩, _, ⟨octets, _, ⟨rfl, rfl⟩, _, ⟨rfl, rfl⟩, rfl⟩, rfl⟩
    exact ⟨hn, by rw [List.append_nil]⟩
  · rintro ⟨hlen, rfl⟩
    exact ⟨_, _, ⟨hlen, rfl⟩, _, ⟨_, _, ⟨rfl, rfl⟩, [], ⟨rfl, rfl⟩, rfl⟩, by rw [List.append_nil]⟩

theorem takes_takeBlock : Takes takeBlock IsBlock := by
  refine ((takes_takeWord 4).bind fun n => takes_takeBytes n).congr fun content b => ?_
  constructor
  · rintro ⟨n, _, ⟨hn, rfl⟩, _, ⟨rfl, rfl⟩, rfl⟩
    exact ⟨hn, rfl⟩
  · rintro ⟨hlen, rfl⟩
    exact ⟨_, _, ⟨hlen, rfl⟩, _, ⟨rfl, rfl⟩, rfl⟩

theorem takes_takeCertificate : Takes takeCertificate IsCertificate := by
  refine (takes_takeText.bind fun type => takes_takeBlock.ite (.throw _)).congr
    fun certificate b => ?_
  constructor
  · rintro ⟨type, text, htext, block, ⟨rfl, hblock⟩ | ⟨-, ⟨⟩⟩, rfl⟩
    exact ⟨text, block, htext, hblock, rfl⟩
  · rintro ⟨text, block, htext, hblock, rfl⟩
    exact ⟨certificateType, text, htext, block, .inl ⟨rfl, hblock⟩, rfl⟩

/-- As many pieces as were asked for, by induction on their number. -/
theorem Takes.many {one : Reader α} {form : α → Bytes → Prop} (h : Takes one form) (n : Nat) :
    Takes (takeMany one n) fun l b => l.length = n ∧ IsRow form l b := by
  induction n with
  | zero =>
    refine (Takes.pure []).congr fun l b => ?_
    constructor
    · rintro ⟨rfl, rfl⟩
      exact ⟨rfl, .nil⟩
    · rintro ⟨hlen, hrow⟩
      cases hrow with
      | nil => exact ⟨rfl, rfl⟩
      | cons => cases hlen
  | succ n ih =>
    refine (h.bind fun a => ih.bind fun l => Takes.pure (a :: l)).congr fun l b => ?_
    constructor
    · rintro ⟨a, b₁, ha, _, ⟨rest, b₂, ⟨rfl, hrest⟩, _, ⟨rfl, rfl⟩, rfl⟩, rfl⟩
      rw [List.append_nil]
      exact ⟨rfl, .cons ha hrest⟩
    · rintro ⟨hlen, hrow⟩
      cases hrow with
      | nil => cases hlen
      | cons hfirst hrest =>
        exact ⟨_, _, hfirst, _, ⟨_, _, ⟨Nat.succ.inj hlen, hrest⟩, [], ⟨rfl, rfl⟩, rfl⟩, by
          rw [List.append_nil]⟩

theorem Takes.counted {one : Reader α} {form : α → Bytes → Prop} (h : Takes one form) :
    Takes (takeWord 4 >>= takeMany one) (IsCounted form) := by
  refine ((takes_takeWord 4).bind fun n => h.many n).congr fun l b => ?_
  constructor
  · rintro ⟨n, _, ⟨hn, rfl⟩, row, ⟨rfl, hrow⟩, rfl⟩
    exact ⟨hn, row, hrow, rfl⟩
  · rintro ⟨hlen, row, hrow, rfl⟩
    exact ⟨_, _, ⟨hlen, rfl⟩, row, ⟨rfl, hrow⟩, rfl⟩

/-! ### Protected keys -/

theorem envelopePart_eq_ok_iff {b : Bytes} {e : Der.Element} :
    envelopePart b = .ok e ↔
      ∃ front, Der.IsElement e.tag e.content front ∧ b = front ++ e.rest := by
  rw [← Der.read?_eq_some_iff, envelopePart]
  cases Der.read? b <;> simp

theorem openEnvelope_eq_ok_iff {b covered : Bytes} :
    openEnvelope b = .ok covered ↔ IsEnvelope covered b := by
  rw [openEnvelope, bind_eq_ok]
  constructor
  · rintro ⟨outer, houter, h⟩
    obtain ⟨front, hfront, rfl⟩ := envelopePart_eq_ok_iff.1 houter
    split at h
    · cases h
    next htag =>
    obtain ⟨algorithm, halgorithm, h⟩ := bind_eq_ok.1 h
    obtain ⟨first, hfirst, hcontent⟩ := envelopePart_eq_ok_iff.1 halgorithm
    split at h
    · cases h
    next hprotector =>
    obtain ⟨part, hpart, h⟩ := bind_eq_ok.1 h
    obtain ⟨second, hsecond, hrest⟩ := envelopePart_eq_ok_iff.1 hpart
    split at h
    · cases h
    next hstring =>
    cases h
    rw [not_or, not_not, Bool.not_eq_true', Bool.not_eq_false, List.isPrefixOf_iff_prefix]
      at hprotector
    rw [not_not] at htag hstring
    obtain ⟨parameters, hparameters⟩ := hprotector.2
    refine ⟨parameters, first, second, part.rest, front, outer.rest, ?_, ?_, ?_, rfl⟩
    · rw [hparameters, show (0x30 : UInt8) = algorithm.tag from hprotector.1.symm]
      exact hfirst
    · rw [show (0x04 : UInt8) = part.tag from hstring.symm]
      exact hsecond
    · rw [List.append_assoc, ← hrest, ← hcontent, show (0x30 : UInt8) = outer.tag from htag.symm]
      exact hfront
  · rintro ⟨parameters, first, second, rest, front, after, hfirst, hsecond, hfront, rfl⟩
    refine ⟨⟨0x30, first ++ second ++ rest, after⟩,
      envelopePart_eq_ok_iff.2 ⟨front, hfront, rfl⟩, ?_⟩
    have hinner : envelopePart (first ++ second ++ rest) =
        .ok ⟨0x30, protectorId ++ parameters, second ++ rest⟩ :=
      envelopePart_eq_ok_iff.2 ⟨first, hfirst, List.append_assoc ..⟩
    have hstring : envelopePart (second ++ rest) = .ok ⟨0x04, covered, rest⟩ :=
      envelopePart_eq_ok_iff.2 ⟨second, hsecond, rfl⟩
    have hstarts : protectorId.isPrefixOf (protectorId ++ parameters) = true :=
      List.isPrefixOf_iff_prefix.2 (List.prefix_append ..)
    rw [if_neg (fun h => h rfl)]
    refine bind_eq_ok.2 ⟨_, hinner, ?_⟩
    rw [if_neg (by rw [hstarts]; simp [Der.sequence])]
    refine bind_eq_ok.2 ⟨_, hstring, ?_⟩
    rw [if_neg (fun h => h rfl)]
    rfl

theorem uncoverKey_eq_ok_iff {secret covered key : Bytes} :
    uncoverKey d secret covered = .ok key ↔ IsCovered d secret key covered := by
  unfold uncoverKey
  constructor
  · intro h
    split at h
    · cases h
    next hlen =>
    dsimp only at h
    split at h
    · next hcheck =>
      cases h
      refine ⟨covered.take digestLength, _, ?_, rfl, ?_⟩
      · rw [List.length_take]
        unfold digestLength at hlen ⊢
        omega
      · rw [hcheck, List.append_assoc, List.take_append_drop, List.take_append_drop]
    · cases h
  · rintro ⟨salt, hidden, hsalt, rfl, rfl⟩
    have hcheck := d.length_apply
      (secret ++ Bytes.xor hidden (keystream d secret salt hidden.length))
    have hsalt : salt.length = digestLength := hsalt
    generalize hc : keyCheck d secret (Bytes.xor hidden (keystream d secret salt hidden.length)) =
      check
    have hcheck : check.length = digestLength := hc ▸ hcheck
    rw [if_neg (by simp only [List.length_append]; omega)]
    dsimp only
    rw [List.append_assoc, List.take_left' hsalt, List.drop_left' hsalt, List.length_append, hcheck,
      Nat.add_sub_cancel, List.take_left, List.drop_left, if_pos hc]

/-! ### Entries -/

/-- What follows the header of a trusted certificate. -/
theorem takes_trusted (name : String) :
    Takes (takeCertificate >>= fun certificate => Pure.pure (Entry.trusted name certificate))
      fun entry b => ∃ certificate, entry = .trusted name certificate ∧
        IsCertificate certificate b := by
  refine (takes_takeCertificate.bind fun certificate => Takes.pure _).congr fun entry b => ?_
  constructor
  · rintro ⟨certificate, row, hrow, _, ⟨rfl, rfl⟩, rfl⟩
    exact ⟨certificate, rfl, by rwa [List.append_nil]⟩
  · rintro ⟨certificate, rfl, hrow⟩
    exact ⟨certificate, b, hrow, [], ⟨rfl, rfl⟩, (List.append_nil b).symm⟩

/-- What follows the header of a private key. -/
theorem takes_privateKey (secret : Bytes) (name : String) :
    Takes (do
      let info ← takeBlock
      let covered ← openEnvelope info
      let key ← uncoverKey d secret covered
      let n ← takeWord 4
      let chain ← takeMany takeCertificate n
      return Entry.privateKey name key chain)
      fun entry b => ∃ key chain covered info block row, entry = .privateKey name key chain ∧
        IsBlock info block ∧ IsEnvelope covered info ∧ IsCovered d secret key covered ∧
        IsCounted IsCertificate chain row ∧ b = block ++ row := by
  have hread := takes_takeBlock.bind fun info => (Takes.lift (openEnvelope info)).bind
    fun covered => (Takes.lift (uncoverKey d secret covered)).bind fun key =>
    takes_takeCertificate.counted.bind fun chain => Takes.pure (Entry.privateKey name key chain)
  simp only [bind_assoc] at hread
  refine hread.congr fun entry b => ?_
  constructor
  · rintro ⟨info, block, hblock, _, ⟨covered, _, ⟨hopen, rfl⟩, _, ⟨key, _, ⟨huncover, rfl⟩, _,
      ⟨chain, row, hrow, _, ⟨rfl, rfl⟩, rfl⟩, rfl⟩, rfl⟩, rfl⟩
    refine ⟨key, chain, covered, info, block, row, rfl, hblock, openEnvelope_eq_ok_iff.1 hopen,
      (uncoverKey_eq_ok_iff d).1 huncover, hrow, ?_⟩
    rw [List.append_nil, List.nil_append, List.nil_append]
  · rintro ⟨key, chain, covered, info, block, row, rfl, hblock, hopen, huncover, hrow, rfl⟩
    have hopen := openEnvelope_eq_ok_iff.2 hopen
    have huncover := (uncoverKey_eq_ok_iff d).2 huncover
    exact ⟨info, block, hblock, row, ⟨covered, [], ⟨hopen, rfl⟩, row, ⟨key, [], ⟨huncover, rfl⟩,
      row, ⟨chain, row, hrow, [], ⟨rfl, rfl⟩, (List.append_nil row).symm⟩, rfl⟩, rfl⟩, rfl⟩

theorem takes_takeEntry (secret : Bytes) : Takes (takeEntry d secret) (IsEntry d secret) := by
  refine ((takes_takeWord 4).bind fun mark => takes_takeText.bind fun name =>
    (takes_takeWord 8).bind fun _ => (takes_trusted name).ite
      ((takes_privateKey d secret name).ite (.throw _))).congr fun entry b => ?_
  constructor
  · rintro ⟨mark, _, ⟨-, rfl⟩, _, ⟨name, text, hname, _, ⟨n, _, ⟨-, rfl⟩, row, h, rfl⟩, rfl⟩, rfl⟩
    have htime := Bytes.length_word 8 n
    obtain ⟨rfl, certificate, rfl, hrow⟩ | ⟨-, h⟩ := h
    · have hentry : IsEntry d secret _ _ := .trusted hname htime hrow
      rw [List.append_assoc, List.append_assoc] at hentry
      exact hentry
    obtain ⟨rfl, key, chain, covered, info, block, row, rfl, hblock, hopen, huncover, hrow, rfl⟩ |
      ⟨-, ⟨⟩⟩ := h
    have hentry := IsEntry.privateKey hname htime hblock hopen huncover hrow
    rw [List.append_assoc, List.append_assoc, List.append_assoc] at hentry
    exact hentry
  · -- Any eight octets are the word of a time.
    have hword {time : Bytes} (timed : time.length = 8) :
        Bytes.value time < 256 ^ 8 ∧ time = Bytes.word 8 (Bytes.value time) := by
      rw [← timed, Bytes.word_value]
      exact ⟨Bytes.value_lt time, rfl⟩
    intro h
    cases h with
    | @trusted name certificate text time row named timed certified =>
      rw [List.append_assoc, List.append_assoc]
      exact ⟨2, _, ⟨by decide, rfl⟩, _, ⟨name, text, named, _, ⟨_, time, hword timed, row,
        .inl ⟨rfl, certificate, rfl, certified⟩, rfl⟩, rfl⟩, rfl⟩
    | @privateKey name key covered info text time block row chain named timed sized wrapped hides
        certified =>
      rw [List.append_assoc, List.append_assoc, List.append_assoc]
      exact ⟨1, _, ⟨by decide, rfl⟩, _, ⟨name, text, named, _, ⟨_, time, hword timed, block ++ row,
        .inr ⟨by decide, .inl ⟨rfl, key, chain, covered, info, block, row, rfl, sized, wrapped,
          hides, certified, rfl⟩⟩, rfl⟩, rfl⟩, rfl⟩

/-! ### Stores -/

theorem takes_takeBody (secret : Bytes) : Takes (takeBody d secret) (IsBody d secret) := by
  refine ((takes_takeWord 4).bind fun n => Takes.unless _ ((takes_takeWord 4).bind fun version =>
    Takes.unless _ (takes_takeEntry d secret).counted)).congr fun entries b => ?_
  constructor
  · rintro ⟨n, _, ⟨-, rfl⟩, _, ⟨hmagic, version, _, ⟨-, rfl⟩, row, ⟨hversion, hrow⟩, rfl⟩, rfl⟩
    rw [not_not] at hmagic hversion
    subst hmagic hversion
    exact ⟨row, hrow, (List.append_assoc ..).symm⟩
  · rintro ⟨row, hrow, rfl⟩
    rw [List.append_assoc]
    exact ⟨magic, _, ⟨by decide, rfl⟩, _, ⟨fun h => h rfl, formatVersion, _, ⟨by decide, rfl⟩, row,
      ⟨fun h => h rfl, hrow⟩, rfl⟩, rfl⟩

/-- What decides on a store: its last octets are the digest of the others, which are a body. -/
theorem decode_eq_ok_iff {store : Bytes} {password : String} {entries : List Entry} :
    decode d store password = .ok entries ↔ ∃ body,
      store = body ++ integrity d (Text.utf16 password) body ∧
      (takeBody d (Text.utf16 password)).run body = .ok (entries, []) := by
  unfold decode
  constructor
  · intro h
    split at h
    · cases h
    dsimp only at h
    split at h
    · cases h
    next hsum =>
    obtain ⟨⟨found, rest⟩, hbody, h⟩ := bind_eq_ok.1 h
    dsimp only at h
    split at h
    · next hrest =>
      cases h
      rw [List.isEmpty_iff] at hrest
      rw [not_not] at hsum
      refine ⟨store.take (store.length - digestLength), ?_, hrest ▸ hbody⟩
      rw [hsum, List.take_append_drop]
    · cases h
  · rintro ⟨body, rfl, hbody⟩
    have hsum : (integrity d (Text.utf16 password) body).length = digestLength := d.length_apply _
    rw [if_neg (by rw [List.length_append, hsum]; omega), List.length_append, hsum,
      Nat.add_sub_cancel, List.take_left, List.drop_left]
    dsimp only
    rw [if_neg (fun h => h rfl), hbody]
    rfl

/-- A store is read to the entries that it lays out, and anything else is refused. -/
theorem decode_eq_ok_iff_isStore {store : Bytes} {password : String} {entries : List Entry} :
    decode d store password = .ok entries ↔ IsStore d password entries store := by
  rw [decode_eq_ok_iff]
  constructor
  · rintro ⟨body, rfl, hbody⟩
    obtain ⟨front, hfront, rfl⟩ := (takes_takeBody d _ _ _ _).1 hbody
    exact ⟨front, hfront, by rw [List.append_nil]; rfl⟩
  · rintro ⟨body, hbody, rfl⟩
    exact ⟨body, rfl, (takes_takeBody d _ _ _ _).2 ⟨body, hbody, (List.append_nil body).symm⟩⟩

end ServiceBinding.Crypto.Keystore
