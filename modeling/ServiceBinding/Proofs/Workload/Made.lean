import ServiceBinding.Binding.Projector
import ServiceBinding.Proofs.Convergence.Comparing
import ServiceBinding.Proofs.Results

/-!
The objects that are made for an instance: each has the name it is stored under in its metadata,
and the instance for its only owner.
-/
namespace ServiceBinding
open Binding Convergence Object

/-! ### Names -/

theorem Binding.secondarySecret_name {i : Instance} {binding : String} {content : Dict Bytes}
    {wanted : Secret} (made : secondarySecret i binding content = .ok wanted) :
    wanted.metadata.name = some (secondaryName i.name binding) := by
  obtain ⟨owned, ho, h⟩ := bind_eq_ok.1 made
  cases h
  obtain ⟨ref, _, h⟩ := bind_eq_ok.1 ho
  cases h
  rfl

theorem Workload.bindingConf_name {i : Instance} {text : String} {wanted : ConfigMap}
    (made : bindingConf i text = .ok wanted) : wanted.metadata.name = some (confName i) := by
  obtain ⟨owned, ho, h⟩ := bind_eq_ok.1 made
  cases h
  obtain ⟨ref, _, h⟩ := bind_eq_ok.1 ho
  cases h
  rfl

theorem Workload.deployment_name {i : Instance} {d : Deployment}
    (built : Workload.deployment i = .ok d) : d.metadata.name = some i.name := by
  obtain ⟨_, _, h⟩ := bind_eq_ok.1 built
  obtain ⟨m, hm, h⟩ := bind_eq_ok.1 h
  cases h
  obtain ⟨ref, _, h⟩ := bind_eq_ok.1 hm
  cases h
  rfl

/-- Configuration text can be stored for every instance that a deployment can be built for. -/
theorem Workload.exists_bindingConf {i : Instance} {d : Deployment}
    (built : Workload.deployment i = .ok d) (text : String) :
    ∃ wanted, bindingConf i text = .ok wanted := by
  obtain ⟨_, _, h⟩ := bind_eq_ok.1 built
  obtain ⟨m, hm, _⟩ := bind_eq_ok.1 h
  obtain ⟨ref, href, _⟩ := bind_eq_ok.1 hm
  unfold bindingConf ownedMeta
  rw [href]
  exact ⟨_, rfl⟩

/-! ### Owners -/

theorem Workload.ownerUid_eq_ok {i : Instance} {uid : String} :
    ownerUid i = .ok uid ↔ i.metadata.uid = some uid := by
  unfold ownerUid
  cases i.metadata.uid with
  | none => exact ⟨fun h => (nomatch h), fun h => (nomatch h)⟩
  | some uid' => rw [Except.ok.injEq, Option.some.injEq]

theorem Workload.ownedMeta_isMadeFor {i : Instance} {name uid : String} {m : Meta}
    (identified : ownerUid i = .ok uid) (made : ownedMeta i name = .ok m) : IsMadeFor m uid := by
  obtain ⟨ref, href, h⟩ := bind_eq_ok.1 made
  cases h
  refine ⟨ref, rfl, ?_⟩
  unfold ownerRef at href
  unfold ownerUid at identified
  split at href
  · next name' uid' _ huid =>
    cases href
    rw [huid] at identified
    exact Except.ok.inj identified
  · cases href

theorem Workload.deployment_isMadeFor {i : Instance} {uid : String} {d : Deployment}
    (identified : ownerUid i = .ok uid) (built : Workload.deployment i = .ok d) :
    IsMadeFor d.metadata uid := by
  obtain ⟨_, _, h⟩ := bind_eq_ok.1 built
  obtain ⟨m, hm, h⟩ := bind_eq_ok.1 h
  cases h
  exact ownedMeta_isMadeFor identified hm

theorem Workload.bindingConf_isMadeFor {i : Instance} {text uid : String} {wanted : ConfigMap}
    (identified : ownerUid i = .ok uid) (made : bindingConf i text = .ok wanted) :
    IsMadeFor wanted.metadata uid := by
  obtain ⟨m, hm, h⟩ := bind_eq_ok.1 made
  cases h
  exact ownedMeta_isMadeFor identified hm

theorem Binding.secondarySecret_isMadeFor {i : Instance} {binding uid : String}
    {content : Dict Bytes} {wanted : Secret} (identified : Workload.ownerUid i = .ok uid)
    (made : secondarySecret i binding content = .ok wanted) : IsMadeFor wanted.metadata uid := by
  obtain ⟨m, hm, h⟩ := bind_eq_ok.1 made
  cases h
  obtain ⟨ref, href, hu⟩ := Workload.ownedMeta_isMadeFor identified hm
  exact ⟨ref, href, hu⟩

end ServiceBinding
