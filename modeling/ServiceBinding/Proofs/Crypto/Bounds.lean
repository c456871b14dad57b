import ServiceBinding.Proofs.Crypto.Layout

/-!
Reading a key store never reaches beyond the octets that are there. The reader is written once more
over cuts that fail when there are not enough octets (`Guarded.cut`), with a failure that no check
of the reader catches, and gives the same results as before: all of its cuts are in bounds
(`Guarded.run_decode`).
-/
namespace ServiceBinding.Crypto.Keystore
variable {α β : Type}

/-! ### Guarded reading -/

/-- A result that there is only if every access was in bounds. -/
abbrev Guarded (α : Type) := ExceptT CertificateError Option α

namespace Guarded

/-- The failure of an access out of bounds. -/
def outOfBounds : Guarded α := ExceptT.mk none

/-- The first octets and the others. -/
def cut (n : Nat) (b : Bytes) : Guarded (Bytes × Bytes) :=
  if n ≤ b.length then return (b.take n, b.drop n) else outOfBounds

/-- The octets before the last ones, and these. -/
def cutLast (n : Nat) (b : Bytes) : Guarded (Bytes × Bytes) :=
  if n ≤ b.length then cut (b.length - n) b else outOfBounds

/-- Octets copied to a place for a number of them. -/
def fill (n : Nat) (b : Bytes) : Guarded Bytes :=
  if b.length = n then return b else outOfBounds

def malformed : Guarded α := throw (.invalidStore "malformed DER")

/-- The length that some octets begin with, and what follows it. -/
def readLength : Bytes → Guarded (Nat × Bytes)
  | [] => malformed
  | first :: rest =>
    if first < 0x80 then return (first.toNat, rest)
    else
      let count := first.toNat - 0x80
      if count = 0 ∨ 8 < count ∨ rest.length < count then malformed
      else do
        let (octets, rest) ← cut count rest
        return (Bytes.value octets, rest)

/-- The element that some octets begin with. -/
def envelopePart : Bytes → Guarded Der.Element
  | [] => malformed
  | tag :: rest => do
    let (length, rest) ← readLength rest
    if rest.length < length then malformed
    else do
      let (content, rest) ← cut length rest
      return ⟨tag, content, rest⟩

def openEnvelope (b : Bytes) : Guarded Bytes := do
  let outer ← envelopePart b
  if outer.tag ≠ Der.sequence then
    throw (.invalidStore "EncryptedPrivateKeyInfo is not a sequence")
  let algorithm ← envelopePart outer.content
  if algorithm.tag ≠ Der.sequence ∨ !protectorId.isPrefixOf algorithm.content then
    throw (.invalidStore "private key is not protected with the JKS key protector")
  let covered ← envelopePart algorithm.rest
  if covered.tag ≠ Der.octetString then
    throw (.invalidStore "protected key is not an octet string")
  return covered.content

variable (d : Digest)

def uncoverKey (secret covered : Bytes) : Guarded Bytes :=
  if covered.length < 2 * digestLength then
    throw (.invalidStore "protected key is truncated")
  else do
    let (salt, rest) ← cut digestLength covered
    let (hidden, check) ← cutLast digestLength rest
    let key := Bytes.xor hidden (keystream d secret salt hidden.length)
    if keyCheck d secret key = check then return key
    else throw (.invalidStore "private key check digest mismatch")

/-- A guarded reading of the octets that are left of a store. -/
abbrev Reader (α : Type) := StateT Bytes Guarded α

def takeBytes (n : Nat) : Reader Bytes := fun b =>
  if b.length < n then throw truncated else cut n b

def takeWord (width : Nat) : Reader Nat := do
  let octets ← takeBytes width
  return Bytes.value (← fill width octets)

def takeText : Reader String := do
  let octets ← takeBytes (← takeWord 2)
  match octets.toText? with
  | some s => return s
  | none => throw (.invalidStore "alias is not valid UTF-8")

def takeBlock : Reader Bytes := do takeBytes (← takeWord 4)

def takeCertificate : Reader Bytes := do
  let type ← takeText
  if type = certificateType then takeBlock
  else throw (.invalidStore ("unsupported certificate type " ++ type))

def takeMany (one : Reader α) : Nat → Reader (List α)
  | 0 => return []
  | n + 1 => do return (← one) :: (← takeMany one n)

def takeEntry (secret : Bytes) : Reader Entry := do
  let mark ← takeWord 4
  let name ← takeText
  let _ ← takeWord 8
  if mark = trustedMark then return .trusted name (← takeCertificate)
  else if mark = privateKeyMark then
    let covered ← openEnvelope (← takeBlock)
    let key ← uncoverKey d secret covered
    let chain ← takeMany takeCertificate (← takeWord 4)
    return .privateKey name key chain
  else throw (.invalidStore ("unknown entry tag " ++ toString mark))

def takeBody (secret : Bytes) : Reader (List Entry) := do
  if (← takeWord 4) ≠ magic then throw (.invalidStore "not a JKS store")
  let version ← takeWord 4
  if version ≠ formatVersion then
    throw (.invalidStore ("unsupported JKS version " ++ toString version))
  takeMany (takeEntry d secret) (← takeWord 4)

/-- The entries of a store, read with guarded accesses. -/
def decode (store : Bytes) (password : String) : Guarded (List Entry) := do
  if store.length < digestLength then throw truncated
  let secret := Text.utf16 password
  let (body, sum) ← cutLast digestLength store
  if integrity d secret body ≠ sum then
    throw (.invalidStore "integrity check failed: wrong password or corrupted store")
  let (entries, rest) ← (takeBody d secret).run body
  if rest.isEmpty then return entries
  else throw (.invalidStore "trailing bytes after last entry")

/-! ### Agreement -/

/-- Whether a guarded computation stays in bounds and gives some result. -/
def Gives (g : Guarded α) (r : Except CertificateError α) : Prop := g.run = some r

theorem Gives.pure (a : α) : Gives (Pure.pure a) (Pure.pure a) := rfl

theorem Gives.throw (e : CertificateError) :
    Gives (MonadExcept.throw e : Guarded α) (MonadExcept.throw e) := rfl

theorem Gives.bind {g : Guarded α} {r : Except CertificateError α} {f : α → Guarded β}
    {f' : α → Except CertificateError β} (h : Gives g r) (h' : ∀ a, Gives (f a) (f' a)) :
    Gives (g >>= f) (r >>= f') := by
  unfold Gives at h ⊢
  rw [ExceptT.run_bind, h]
  cases r with
  | ok a => exact h' a
  | error e => rfl

theorem Gives.ite {p : Prop} [Decidable p] {g g' : Guarded α} {r r' : Except CertificateError α}
    (h : p → Gives g r) (h' : ¬ p → Gives g' r') :
    Gives (if p then g else g') (if p then r else r') := by
  split
  · next hp => exact h hp
  · next hp => exact h' hp

theorem cut_bind {n : Nat} {b : Bytes} (h : n ≤ b.length) (f : Bytes × Bytes → Guarded α) :
    cut n b >>= f = f (b.take n, b.drop n) := by
  rw [cut, if_pos h, pure_bind]

theorem cutLast_bind {n : Nat} {b : Bytes} (h : n ≤ b.length) (f : Bytes × Bytes → Guarded α) :
    cutLast n b >>= f = f (b.take (b.length - n), b.drop (b.length - n)) := by
  rw [cutLast, if_pos h, cut_bind (Nat.sub_le _ _)]

theorem Gives.unless {p : Prop} [Decidable p] {f : PUnit → Guarded α}
    {f' : PUnit → Except CertificateError α} (e : CertificateError) (h : Gives (f ⟨⟩) (f' ⟨⟩)) :
    Gives (if p then MonadExcept.throw e >>= f else f ⟨⟩)
      (if p then MonadExcept.throw e >>= f' else f' ⟨⟩) :=
  .ite (fun _ => rfl) fun _ => h

/-- What DER reading finds, or the error of what is no DER. -/
def found (r : Option α) : Except CertificateError α :=
  match r with
  | some a => .ok a
  | none => .error (.invalidStore "malformed DER")

theorem found_some (a : α) : found (some a) = Pure.pure a := rfl

theorem found_bind (r : Option α) (f : α → Option β) :
    found (r >>= f) = found r >>= fun a => found (f a) := by
  cases r <;> rfl

/-- What a length takes from the octets behind it has been compared with their number. -/
theorem gives_readLength (b : Bytes) : Gives (readLength b) (found (Der.readLength? b)) := by
  cases b with
  | nil => rfl
  | cons first rest =>
    rw [readLength, Der.readLength?]
    by_cases small : first < 0x80
    · rw [if_pos small, if_pos small, found_some]
      exact .pure _
    · rw [if_neg small, if_neg small]
      dsimp only
      split
      · rfl
      · rw [cut_bind (by omega), found_some]
        dsimp only
        exact .pure _

theorem gives_envelopePart (b : Bytes) :
    Gives (envelopePart b) (Keystore.envelopePart b) := by
  have hfound : Keystore.envelopePart b = found (Der.read? b) := by
    unfold Keystore.envelopePart
    cases Der.read? b <;> rfl
  rw [hfound]
  cases b with
  | nil => rfl
  | cons tag rest =>
    rw [envelopePart, Der.read?, found_bind]
    refine (gives_readLength rest).bind fun out => ?_
    dsimp only
    split
    · rfl
    · rw [cut_bind (by omega)]
      exact .pure _

theorem gives_openEnvelope (b : Bytes) :
    Gives (openEnvelope b) (Keystore.openEnvelope b) :=
  (gives_envelopePart b).bind fun _ => .unless _ ((gives_envelopePart _).bind fun _ =>
    .unless _ ((gives_envelopePart _).bind fun _ => .unless _ (.pure _)))

variable (d : Digest)

theorem gives_uncoverKey (secret covered : Bytes) :
    Gives (uncoverKey d secret covered) (Keystore.uncoverKey d secret covered) := by
  unfold uncoverKey Keystore.uncoverKey
  split
  · exact .throw _
  next hlen =>
  have hrest : digestLength ≤ (covered.drop digestLength).length := by
    rw [List.length_drop]
    omega
  rw [cut_bind (by omega)]
  dsimp only
  rw [cutLast_bind hrest]
  exact .ite (fun _ => .pure _) fun _ => .throw _

/-! ### Readings -/

/-- Whether a guarded reading stays in bounds and reads the same as another one. -/
def Follows (g : Reader α) (read : Keystore.Reader α) : Prop :=
  ∀ b, Gives (g.run b) (read.run b)

theorem Follows.pure (a : α) : Follows (Pure.pure a) (Pure.pure a) := fun _ => .pure _

theorem Follows.throw (e : CertificateError) :
    Follows (MonadExcept.throw e : Reader α) (MonadExcept.throw e) := fun _ => .throw e

theorem Follows.lift {g : Guarded α} {r : Except CertificateError α} (h : Gives g r) :
    Follows (liftM g) (liftM r) := fun _ => h.bind fun _ => .pure _

theorem Follows.bind {g : Reader α} {read : Keystore.Reader α} {f : α → Reader β}
    {f' : α → Keystore.Reader β} (h : Follows g read) (h' : ∀ a, Follows (f a) (f' a)) :
    Follows (g >>= f) (read >>= f') := fun b => (h b).bind fun (a, rest) => h' a rest

theorem Follows.ite {p : Prop} [Decidable p] {g g' : Reader α} {read read' : Keystore.Reader α}
    (h : Follows g read) (h' : Follows g' read') :
    Follows (if p then g else g') (if p then read else read') := by
  split
  · exact h
  · exact h'

theorem follows_takeBytes (n : Nat) : Follows (takeBytes n) (Keystore.takeBytes n) := by
  intro b
  show Gives (takeBytes n b) (Keystore.takeBytes n b)
  rw [takeBytes, Keystore.takeBytes]
  split
  · exact .throw _
  · rw [cut, if_pos (by omega)]
    exact .pure _

theorem follows_takeWord (width : Nat) : Follows (takeWord width) (Keystore.takeWord width) := by
  intro b
  show Gives (takeBytes width b >>= fun (octets, rest) => _)
    (Keystore.takeBytes width b >>= fun (octets, rest) => _)
  rw [takeBytes, Keystore.takeBytes]
  split
  · rfl
  · have hlen : (b.take width).length = width := by
      rw [List.length_take]
      omega
    rw [cut_bind (by omega), fill, if_pos hlen]
    exact .pure _

theorem follows_takeText : Follows takeText Keystore.takeText :=
  (follows_takeWord 2).bind fun n => (follows_takeBytes n).bind fun octets => by
    cases octets.toText? with
    | none => exact .throw _
    | some s => exact .pure s

theorem follows_takeBlock : Follows takeBlock Keystore.takeBlock :=
  (follows_takeWord 4).bind follows_takeBytes

theorem follows_takeCertificate : Follows takeCertificate Keystore.takeCertificate :=
  follows_takeText.bind fun _ => .ite follows_takeBlock (.throw _)

theorem Follows.many {one : Reader α} {one' : Keystore.Reader α} (h : Follows one one') (n : Nat) :
    Follows (takeMany one n) (Keystore.takeMany one' n) := by
  induction n with
  | zero => exact .pure []
  | succ n ih => exact h.bind fun a => ih.bind fun l => .pure (a :: l)

theorem follows_takeEntry (secret : Bytes) :
    Follows (takeEntry d secret) (Keystore.takeEntry d secret) :=
  (follows_takeWord 4).bind fun _ => follows_takeText.bind fun name =>
    (follows_takeWord 8).bind fun _ =>
      .ite (follows_takeCertificate.bind fun certificate => .pure (Entry.trusted name certificate))
        (.ite (follows_takeBlock.bind fun info => (Follows.lift (gives_openEnvelope info)).bind
          fun covered => (Follows.lift (gives_uncoverKey d secret covered)).bind fun key =>
            (follows_takeWord 4).bind fun n => (follows_takeCertificate.many n).bind fun chain =>
              .pure (Entry.privateKey name key chain)) (.throw _))

theorem follows_takeBody (secret : Bytes) :
    Follows (takeBody d secret) (Keystore.takeBody d secret) :=
  (follows_takeWord 4).bind fun _ => .ite (fun _ => rfl) ((follows_takeWord 4).bind fun _ =>
    .ite (fun _ => rfl) ((follows_takeWord 4).bind (follows_takeEntry d secret).many))

/-- **Every access is in bounds**: the guarded reader does not fail and reads what the reader
does. -/
theorem run_decode (store : Bytes) (password : String) :
    (decode d store password).run = some (Keystore.decode d store password) := by
  show Gives _ _
  unfold decode Keystore.decode
  refine .ite (fun _ => rfl) fun hlen => ?_
  dsimp only
  rw [cutLast_bind (by omega)]
  exact .ite (fun _ => rfl) fun _ => (follows_takeBody d _ _).bind fun (entries, rest) =>
    .ite (fun _ => .pure _) fun _ => .throw _

end Guarded

variable (d : Digest)

/-- **A store is accepted just if it is laid out as one**, for every digest, byte string and
password. The reader stays within the octets that it has, and what it gives is a list of entries
just if the octets are the body that lays these out, in their order and with nothing after the
last one, and the digest over the password, the fixed text and the body. -/
theorem decode_exact (store : Bytes) (password : String) :
    (Guarded.decode d store password).run = some (decode d store password) ∧
      ∀ entries, decode d store password = .ok entries ↔ IsStore d password entries store :=
  ⟨Guarded.run_decode d store password, fun _ => decode_eq_ok_iff_isStore d⟩

end ServiceBinding.Crypto.Keystore
