import ServiceBinding.Proofs.Convergence.Comparing

/-!
Services and what the platform allocates to them. What is written for a service has the addresses
that it already had, and the node ports that it had where none are asked for. Asking for other
addresses is therefore a difference that no write takes away, and the only one
(`rewritten_equal_iff`).
-/
namespace ServiceBinding.Convergence
open Object

/-! ### Members -/

/-- A text that may be left out is satisfied by the same text only. -/
theorem memberFits_str_iff {wanted found : Option String} :
    Json.MemberFits (wanted.map .str) (found.map .str) ↔ wanted = none ∨ wanted = found := by
  cases wanted <;> cases found <;>
    simp [Json.MemberFits, Json.fits, Json.isContained, Json.isNull, Json.isEmptyContainer]

theorem texts_isContained_iff {wanted found : List String} :
    (Json.texts wanted).isContained (.texts found) = true ↔ wanted = found := by
  rw [Json.texts, Json.texts, Json.ofList_isContained_iff]
  simp only [Json.isContained, beq_iff_eq, List.forall₂_eq_eq_eq]

/-- Texts that may be left out are satisfied by the same texts only, none counting as left out. -/
theorem memberFits_texts_iff {wanted found : Option (List String)} :
    Json.MemberFits (wanted.map .texts) (found.map .texts) ↔
      wanted = none ∨ wanted.getD [] = found.getD [] := by
  cases wanted with
  | none => simp [Json.MemberFits]
  | some wanted =>
    cases found with
    | none =>
      simp [Json.MemberFits, Json.fits, Json.texts, Json.ofList, Json.isNull,
        Json.isEmptyContainer]
    | some found => simp [Json.MemberFits, Json.fits, texts_isContained_iff]

/-- What is asked for is satisfied by itself, with something else where nothing is asked for. -/
theorem memberFits_or {α : Type} {write : α → Json} (each : ∀ a, (write a).Distinct)
    (wanted other : Option α) :
    Json.MemberFits (wanted.map write) ((wanted.or other).map write) := by
  cases wanted with
  | none => rintro j ⟨⟩
  | some a => exact Json.memberFits_self (by simp [each])

/-! ### What is kept -/

theorem nodePort_isContained (p : ServicePort) (other : Option Int32) :
    p.toJson.isContained ({ p with nodePort := p.nodePort.or other } : ServicePort).toJson =
      true := by
  refine Json.record_isContained (by simp) ?_
  simp only [List.forall₂_cons, List.forall₂_nil_left_iff, true_and, and_true]
  refine ⟨?_, ?_, memberFits_or (by simp) _ _, ?_, ?_, ?_⟩
  all_goals exact Json.memberFits_self (by simp)

/-- Whether no addresses are wanted but those found. -/
def AddressesAgree (wanted found : Option ServiceSpec) : Prop :=
  ∀ spec ∈ wanted, ∀ live ∈ found,
    (spec.clusterIP = none ∨ spec.clusterIP = live.clusterIP) ∧
      (spec.clusterIPs = none ∨ spec.clusterIPs.getD [] = live.clusterIPs.getD [])

theorem AddressesAgree.refl (spec : Option ServiceSpec) : AddressesAgree spec spec := by
  rintro s hs live hlive
  cases hs.symm.trans hlive
  exact ⟨.inr rfl, .inr rfl⟩

/-- Addresses that are found as part of what is wanted agree with it. -/
theorem addressesAgree_of_isContained {wanted found : Option ServiceSpec}
    (contained : (optionalJson ServiceSpec.toJson wanted).isContained
      (optionalJson ServiceSpec.toJson found) = true) : AddressesAgree wanted found := by
  rintro spec ⟨⟩ live ⟨⟩
  have hmembers := (Json.record_isContained_iff_forall₂ (by rfl) (by simp [ServiceSpec.members])).1
    (ServiceSpec.isContained_iff.1 contained).1
  simp only [ServiceSpec.members, List.forall₂_cons] at hmembers
  obtain ⟨hip, hips, _⟩ := hmembers
  exact ⟨memberFits_str_iff.1 hip, memberFits_texts_iff.1 hips⟩

/-- What is written has everything wanted but other addresses. -/
theorem keepAllocated_contains_iff {wanted live : ServiceSpec} :
    wanted.toJson.isContained (keepAllocated wanted live).toJson = true ↔
      AddressesAgree (some wanted) (some live) := by
  refine ServiceSpec.isContained_iff.trans
    ((and_iff_left (Json.isContained_self wanted.rest.distinct_toJson)).trans ?_)
  refine (Json.record_isContained_iff_forall₂ (by rfl) (by simp [ServiceSpec.members])).trans ?_
  simp only [ServiceSpec.members, List.forall₂_cons, List.forall₂_nil_left_iff, and_true]
  -- All members but the addresses are those wanted, or stand where nothing is wanted.
  have hself {α : Type} {write : α → Json} (each : ∀ a, (write a).Distinct) (a : Option α) :
      Json.MemberFits (a.map write) (a.map write) :=
    Json.memberFits_self (by simp [each])
  have hports : Json.MemberFits (wanted.ports.map (.ofList ServicePort.toJson))
      ((keepAllocated wanted live).ports.map (.ofList ServicePort.toJson)) := by
    unfold keepAllocated
    cases wanted.ports with
    | none => rintro j ⟨⟩
    | some l =>
      rintro j ⟨⟩
      refine Json.ofList_isContained_iff.2 ?_
      rw [List.forall₂_map_right_iff, List.forall₂_same]
      exact fun p _ => nodePort_isContained p _
  constructor
  · rintro ⟨hip, hips, _⟩ spec ⟨⟩ found ⟨⟩
    exact ⟨memberFits_str_iff.1 hip, memberFits_texts_iff.1 hips⟩
  · intro h
    obtain ⟨hip, hips⟩ := h wanted rfl live rfl
    exact ⟨memberFits_str_iff.2 hip, memberFits_texts_iff.2 hips, hself (by simp) _,
      memberFits_or (by simp) _ _, hself (by simp) _, hself (by simp) _, hports,
      hself (by simp) _, hself (by simp) _, hself (by simp) _⟩

/-! ### Comparing -/

theorem compareService_eq_equal {wanted found : Service} :
    compareService wanted found = .equal ↔
      metaAgrees wanted.metadata found.metadata = true ∧
        (optionalJson ServiceSpec.toJson wanted.spec).isContained
          (optionalJson ServiceSpec.toJson found.spec) = true := by
  unfold compareService
  simp only [of_eq_equal, Bool.and_eq_true]

theorem applies_compareService : Applies compareService := by
  intro wanted found updated h
  obtain ⟨_, rfl⟩ := of_eq_differs.1 h
  rfl

section Updated
variable {wanted found updated : Service}

/-- What is written for a service: the specification found if it agrees, and else the one wanted
with what has been allocated. -/
theorem spec_of_differs (differs : compareService wanted found = .differs updated) :
    updated.spec = found.spec ∧
        (optionalJson ServiceSpec.toJson wanted.spec).isContained
          (optionalJson ServiceSpec.toJson found.spec) = true ∨
      updated.spec = some (applyServiceSpec wanted.spec found.spec) ∧
        ∃ spec, wanted.spec = some spec := by
  obtain ⟨_, rfl⟩ := of_eq_differs.1 differs
  dsimp only
  split
  · next agrees => exact .inl ⟨rfl, agrees⟩
  · next h =>
    refine .inr ⟨rfl, ?_⟩
    cases hw : wanted.spec with
    | none =>
      rw [hw, optionalJson, Option.map_none, Option.getD_none, Json.isContained] at h
      exact absurd rfl h
    | some spec => exact ⟨spec, rfl⟩

/-- Writing a service leaves its addresses, or gives it those wanted if it had no specification. -/
theorem addressesAgree_updated (differs : compareService wanted found = .differs updated) :
    AddressesAgree wanted.spec updated.spec ↔ AddressesAgree wanted.spec found.spec := by
  rcases spec_of_differs differs with ⟨same, _⟩ | ⟨applied, spec, hspec⟩
  · rw [same]
  · rw [applied, hspec]
    cases found.spec with
    | none => exact ⟨fun _ _ _ _ h => (nomatch h), fun _ => .refl _⟩
    | some live =>
      constructor
      · rintro h _ ⟨⟩ _ ⟨⟩
        exact h spec rfl (keepAllocated spec live) rfl
      · rintro h _ ⟨⟩ _ ⟨⟩
        exact h spec rfl live rfl

/-- A service that has been written is as wanted just if the addresses agree. -/
theorem compareService_updated_iff (differs : compareService wanted found = .differs updated) :
    compareService wanted updated = .equal ↔ AddressesAgree wanted.spec found.spec := by
  have hmeta : metaAgrees wanted.metadata updated.metadata = true := by
    rw [show updated.metadata = applyMeta wanted.metadata found.metadata from
      applies_compareService _ _ _ differs]
    exact metaAgrees_applyMeta _ _ _
  rw [compareService_eq_equal, and_iff_right hmeta]
  rcases spec_of_differs differs with ⟨same, agrees⟩ | ⟨applied, spec, hspec⟩
  · rw [same]
    exact iff_of_true agrees (addressesAgree_of_isContained agrees)
  · rw [applied, hspec]
    cases found.spec with
    | none =>
      exact iff_of_true (Json.isContained_self spec.distinct_toJson) fun _ _ _ h => (nomatch h)
    | some live => exact keepAllocated_contains_iff

end Updated

/-! ### Writing again and again -/

/-- What a service has become after some comparisons, each followed by the write it asks for. -/
def rewritten (wanted found : Service) : Nat → Service
  | 0 => found
  | n + 1 =>
    match compareService wanted (rewritten wanted found n) with
    | .equal => rewritten wanted found n
    | .differs updated => updated

theorem addressesAgree_rewritten (wanted found : Service) (n : Nat) :
    AddressesAgree wanted.spec (rewritten wanted found n).spec ↔
      AddressesAgree wanted.spec found.spec := by
  induction n with
  | zero => rfl
  | succ n ih =>
    rw [← ih, rewritten]
    split
    · rfl
    · next differs => exact addressesAgree_updated differs

/-- **Services rest unless other addresses are wanted**: what is written for a service that differs
is found as wanted just if the addresses wanted, so far as there are any, are those that it had.
Then every later comparison finds it so as well; and if they are not, each of them asks for
another write. -/
theorem rewritten_equal_iff (wanted found : Service) :
    (∀ updated, compareService wanted found = .differs updated →
      (compareService wanted updated = .equal ↔ AddressesAgree wanted.spec found.spec)) ∧
    ∀ n, compareService wanted (rewritten wanted found (n + 1)) = .equal ↔
      AddressesAgree wanted.spec found.spec := by
  refine ⟨fun updated differs => compareService_updated_iff differs, fun n => ?_⟩
  rw [← addressesAgree_rewritten wanted found n, rewritten]
  cases h : compareService wanted (rewritten wanted found n) with
  | equal =>
    exact iff_of_true h (addressesAgree_of_isContained (compareService_eq_equal.1 h).2)
  | differs updated => exact compareService_updated_iff h

/-- A service whose selector has changed, behind a port that has been allocated. -/
theorem rewritten_equal_selectorChanged :
    let port (nodePort : Option Int32) : ServicePort :=
      ⟨some "http", 8080, nodePort, none, none, none⟩
    let wanted : Service := { spec := some {
      ports := some [port none]
      selector := some (.ofList [("app", "nuxeo")]) } }
    let found : Service := { spec := some {
      clusterIP := some "10.0.0.12"
      ports := some [port (some 30080)]
      selector := some (.ofList [("app", "old")]) } }
    ∃ updated, compareService wanted found = .differs updated ∧
      compareService wanted updated = .equal := by
  intro port wanted found
  obtain ⟨updated, differs⟩ : ∃ updated, compareService wanted found = .differs updated :=
    ⟨_, of_eq_differs.2 ⟨by decide +kernel, rfl⟩⟩
  refine ⟨updated, differs, ((rewritten_equal_iff wanted found).1 updated differs).2 ?_⟩
  rintro spec ⟨⟩ live ⟨⟩
  exact ⟨.inl rfl, .inl rfl⟩

/-- A service without an address of its own is wanted where one has been allocated. -/
theorem not_equal_headless :
    let wanted : Service := { spec := some { clusterIP := some "None" } }
    let found : Service := { spec := some { clusterIP := some "10.0.0.12" } }
    ∃ updated, compareService wanted found = .differs updated ∧
      compareService wanted updated ≠ .equal := by
  intro wanted found
  exact ⟨found, by decide +kernel, by decide +kernel⟩

end ServiceBinding.Convergence
