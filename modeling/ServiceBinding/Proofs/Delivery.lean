import ServiceBinding.Proofs.Binding.Checks
import ServiceBinding.Proofs.Binding.Settling
import ServiceBinding.Proofs.Binding.Turns

/-!
Values reach the server. For each binding that a sweep reports as applied, every value that it
asks for is delivered (`Delivered`): what was looked up in the source is in the secondary secret,
the files and variables of the pod lead to it, and the secret holds nothing else. What delivers
it is done in the binding's own turn; the bindings that follow and the cleaning up do not touch
its volume, its mount, its variables or its secret.
-/
namespace ServiceBinding
open Binding Cluster Convergence Crypto Object Workload
variable {ρ : Type}

namespace Binding

/-! ### Values -/

/-- Whether a key of a binding's secondary secret is shown to the server as a file: the pod has one
container, the server's, which has one mount of the binding's volume, read-only; that volume is the
only one of its name, it takes its files from the secondary secret alone, and one of them is the
file. -/
structure Shown (i : Instance) (mountBase binding : String) (pod : PodSpec) (file key : String) :
    Prop where
  volume : ∃ items, (pod.volumes.getD []).filter (·.name == volumeName binding) =
    [filesVolume (secondaryName i.name binding) binding items] ∧
      items.filter (·.path == file) = [{ key := key, path := file }]
  mount : ∃ c, pod.containers = [c] ∧ c.name = serverContainer ∧
    (c.volumeMounts.getD []).filter (·.name == volumeName binding) =
      [{ name := volumeName binding
         mountPath := Text.trimEndSlashes mountBase ++ "/" ++ binding
         readOnly := some true }]

/-- The ways in which a variable gives a value that was looked up in a source: as it is, by
reference to the source, or by reference to a key of the secondary secret. -/
inductive Gives (uid secondary : String) (found : Option Secret) (ref : SourceRef)
    (source : Source) (selector env : String) (literal : Bool) (value : Bytes) : EnvVar → Prop
  | text (isLiteral : literal = true) {text : String} (reads : value.toText? = some text) :
    Gives uid secondary found ref source selector env literal value (.plain env text)
  | reference (isReference : literal = false) {kind : KeyedKind} {values : Dict Bytes}
      (keyed : source = .keyed kind ref.name values) :
    Gives uid secondary found ref source selector env literal value
      (Plan.reference env kind ref.name selector)
  | derived (isReference : literal = false) {label : String} {form : Json}
      (structured : source = .structured label form) {key : String}
      (holds : Holds uid found key value) :
    Gives uid secondary found ref source selector env literal value
      (Plan.reference env .secret secondary key)

/-- Whether everything that a binding asks of its sources is delivered, in a pod and by the
secondary secret that is found. -/
structure Delivered (i : Instance) (uid mountBase binding : String)
    (sources : List (SourceRef × Source)) (pod : PodSpec) (found : Option Secret) : Prop where
  mounted : ∀ s ∈ sources, ∀ projection ∈ s.1.projections, ∀ file,
    projection.mount = some file → ∃ selector value key,
      projection.source.or projection.path = some selector ∧ s.2.lookup selector = .ok value ∧
        Shown i mountBase binding pod file key ∧ Holds uid found key value
  exposed : ∀ s ∈ sources, ∀ projection ∈ s.1.projections, ∀ env,
    projection.env = some env → env ≠ templatesVariable → ∃ selector value var c,
      projection.source.or projection.path = some selector ∧ s.2.lookup selector = .ok value ∧
        pod.containers = [c] ∧ c.name = serverContainer ∧
          (c.env.getD []).filter (·.name == env) = [var] ∧
            Gives uid (secondaryName i.name binding) found s.1 s.2 selector env projection.literal
              value var
  /-- The secret has no key that no projection needs. -/
  needed : ∀ key value, Holds uid found key value →
    ∃ s ∈ sources, ∃ projection ∈ s.1.projections, Needs s.2 projection key
  /-- Without a need for keys there is no secret, or none of the owner's. -/
  unneeded : (∀ s ∈ sources, ∀ projection ∈ s.1.projections, ∀ key, ¬ Needs s.2 projection key) →
    Gone uid found

section Drafts
variable {E : Equipment ρ} {i : Instance} {b : Binding} {pod₀ pod : PodSpec} {c : Container}
  {before found : Option Secret} {r r' : ρ} {uid : String} {d : Draft}

/-- The file of a binding whose plan has been applied, at the end of a sweep. -/
theorem shown_of_fitted {binding mountBase file key : String} {shown : List Item}
    (fitted : Fitted pod c) (hitem : { key := key, path := file } ∈ shown)
    (nodup : (shown.map (·.path)).Nodup)
    (hvolume : volume? pod (volumeName binding) =
      some (filesVolume (secondaryName i.name binding) binding shown))
    (hmount : mount? c (volumeName binding) = some (Plan.filesMount binding mountBase)) :
    Shown i mountBase binding pod file key where
  volume := by
    refine ⟨shown, filter_name_eq_singleton fitted.volumes hvolume, ?_⟩
    exact filter_name_eq_singleton nodup (find?_name_of_mem nodup hitem)
  mount := ⟨c, fitted.alone, fitted.server, filter_name_eq_singleton fitted.mounts hmount⟩

/-- A variable of the server at the end of a sweep. -/
theorem given_of_fitted {var : EnvVar} {env : String} (fitted : Fitted pod c)
    (given : envVar? c var.name = some var) (named : var.name = env) :
    ∃ c, pod.containers = [c] ∧ c.name = serverContainer ∧
      (c.env.getD []).filter (·.name == env) = [var] := by
  subst named
  exact ⟨c, fitted.alone, fitted.server, filter_name_eq_singleton fitted.env given⟩

theorem Drafted.valid_of_mem (h : Drafted E i b before pod₀ r uid d r')
    {s : SourceRef × Source} (hs : s ∈ d.sources) {projection : Projection}
    (hp : projection ∈ s.1.projections) : projection.validate = .ok () := by
  obtain ⟨_, _, _, href, _⟩ := SourceReader.mem_readAll h.read s hs
  exact validate_of_check h.checked _ href projection hp

theorem Drafted.mounted (h : Drafted E i b before pod₀ r uid d r')
    (rested : Rested i b.name uid d.plan.content found) (fitted : Fitted pod c)
    (shown : d.plan.items ≠ [] → ∃ shown, volume? pod (volumeName b.name) =
      some (filesVolume d.plan.secondary b.name shown) ∧ d.plan.items ⊆ shown ∧
        (shown.map (·.path)).Nodup ∧
          mount? c (volumeName b.name) = some (Plan.filesMount b.name E.settings.mountBase))
    {s : SourceRef × Source} (hs : s ∈ d.sources) {projection : Projection}
    (hp : projection ∈ s.1.projections) {file : String} (hf : projection.mount = some file) :
    ∃ selector value key, projection.source.or projection.path = some selector ∧
      s.2.lookup selector = .ok value ∧ Shown i E.settings.mountBase b.name pod file key ∧
        Holds uid found key value := by
  obtain ⟨hhidden, hplain⟩ :=
    Projection.env_of_mount (h.valid_of_mem hs hp) (by rw [hf]; rfl)
  obtain ⟨_, q, q', _, hreal, hlast⟩ := Plan.realized_of_gather h.gathered s hs projection hp
  cases hreal with
  | store ht => cases hplain.symm.trans ht
  | literal _ _ he | reference _ _ he | derived _ _ he => cases hhidden.symm.trans he
  | @file selector file' key value _ hselects _ hm hvalue _ _ =>
    cases hf.symm.trans hm
    have hitem := hlast.items (List.mem_append_right _ (List.mem_singleton_self _))
    have hkey := h.holds rested hlast (Plan.get?_withKey_self _ _ _)
    obtain ⟨items, hvolume, hsubset, hpaths, hmount⟩ := shown (List.ne_nil_of_mem hitem)
    rw [(Plan.grows_gather h.gathered).secondary] at hvolume
    have hshown := shown_of_fitted fitted (hsubset hitem) hpaths hvolume hmount
    exact ⟨selector, value, key, hselects, hvalue, hshown, hkey⟩

theorem Drafted.exposed (h : Drafted E i b before pod₀ r uid d r')
    (rested : Rested i b.name uid d.plan.content found) (fitted : Fitted pod c)
    (exposed : ∀ var ∈ d.plan.env, var.name ≠ templatesVariable →
      envVar? c var.name = some var)
    {s : SourceRef × Source} (hs : s ∈ d.sources) {projection : Projection}
    (hp : projection ∈ s.1.projections) {env : String} (he : projection.env = some env)
    (hn : env ≠ templatesVariable) :
    ∃ selector value var c, projection.source.or projection.path = some selector ∧
      s.2.lookup selector = .ok value ∧ pod.containers = [c] ∧ c.name = serverContainer ∧
        (c.env.getD []).filter (·.name == env) = [var] ∧
          Gives uid (secondaryName i.name b.name) found s.1 s.2 selector env projection.literal
            value var := by
  obtain ⟨hhidden, hplain⟩ :=
    Projection.transform_of_env (h.valid_of_mem hs hp) (by rw [he]; rfl)
  obtain ⟨_, q, q', hfirst, hreal, hlast⟩ := Plan.realized_of_gather h.gathered s hs projection hp
  -- Whichever variable it is, it has the name asked for and is in the plan.
  have hvar : ∀ {p : Plan} {var : EnvVar}, (p.addVariable var).Grows d.plan → var.name = env →
      ∃ c, pod.containers = [c] ∧ c.name = serverContainer ∧
        (c.env.getD []).filter (·.name == env) = [var] := by
    intro p var hp hname
    have hmem := hp.env (List.mem_append_right _ (List.mem_singleton_self _))
    exact given_of_fitted fitted (exposed var hmem (hname ▸ hn)) hname
  cases hreal with
  | store ht => cases hplain.symm.trans ht
  | @literal selector env' text value _ hselects he' hl hvalue hreads =>
    cases he.symm.trans he'
    obtain ⟨c, halone, hserver, hfilter⟩ := hvar hlast rfl
    exact ⟨selector, value, _, c, hselects, hvalue, halone, hserver, hfilter, .text hl hreads⟩
  | @reference selector env' name kind values value _ hselects he' hl hkeyed hvalue =>
    cases he.symm.trans he'
    obtain ⟨c, halone, hserver, hfilter⟩ := hvar hlast rfl
    obtain ⟨access, _, _, _, hsource⟩ := SourceReader.mem_readAll h.read s hs
    rw [hkeyed] at hsource
    obtain rfl := SourceReader.name_of_read hsource
    exact ⟨selector, value, _, c, hselects, hvalue, halone, hserver, hfilter,
      .reference hl hkeyed⟩
  | @derived selector env' label key form value _ hselects he' hl hstructured hvalue _ _ =>
    cases he.symm.trans he'
    obtain ⟨c, halone, hserver, hfilter⟩ := hvar hlast rfl
    have hsecondary : (q.withKey key value).secondary = secondaryName i.name b.name :=
      hfirst.secondary
    have hkey := h.holds rested ((Plan.grows_addVariable _ _).trans hlast)
      (Plan.get?_withKey_self q key value)
    refine ⟨selector, value, _, c, hselects, hvalue, halone, hserver, hfilter, ?_⟩
    rw [hsecondary]
    exact .derived hl hstructured hkey
  | file _ _ hh => cases he.symm.trans hh

theorem Drafted.delivered (h : Drafted E i b before pod₀ r uid d r')
    (rested : Rested i b.name uid d.plan.content found) (fitted : Fitted pod c)
    (shown : d.plan.items ≠ [] → ∃ shown, volume? pod (volumeName b.name) =
      some (filesVolume d.plan.secondary b.name shown) ∧ d.plan.items ⊆ shown ∧
        (shown.map (·.path)).Nodup ∧
          mount? c (volumeName b.name) = some (Plan.filesMount b.name E.settings.mountBase))
    (exposed : ∀ var ∈ d.plan.env, var.name ≠ templatesVariable →
      envVar? c var.name = some var) :
    Delivered i uid E.settings.mountBase b.name d.sources pod found where
  mounted _ hs _ hp _ hf := h.mounted rested fitted shown hs hp hf
  exposed _ hs _ hp _ he hn := h.exposed rested fitted exposed hs hp he hn
  needed _ _ hk := h.needed ((rested.holds_iff h.identified).1 hk)
  unneeded hnone := rested.gone (h.unneeded hnone)

end Drafts
end Binding

/-! ### Sweeps -/

/-- **What is asked for is delivered**: at the end of a sweep, whatever the reader answers and
whatever is stored, each binding that is reported as applied has all its values delivered, as they
were read in its turn. -/
theorem Binding.Projector.projectAll_delivers (E : Equipment ρ) (i : Instance)
    (valid : i.spec.validate = .ok ()) (d : Deployment) (pod : PodSpec)
    (built : Workload.deployment i = .ok d) (podded : Workload.podSpec d = .ok pod) (c : Cluster)
    (r : ρ) (earlier later : List Binding) (b : Binding)
    (split : i.spec.bindings = earlier ++ b :: later)
    (applied : b.name ∈ ((E.projector.projectAll i pod).run (c, r)).1.2.applied) :
    let turn := ((E.projector.projectEach i { pod := pod } earlier).run (c, r)).2.2
    let swept := (E.projector.projectAll i pod).run (c, r)
    ∃ uid expansion refs sources r', i.metadata.uid = some uid ∧
      expand b E.settings.mountBase = .ok expansion ∧
        check E.catalog expansion.binding = .ok refs ∧
          (E.reader.readAll (spaceOf i) refs).exec turn = (.ok sources, r') ∧
            sources.map (·.1) = expansion.binding.sources ∧
              Delivered i uid E.settings.mountBase b.name sources swept.1.1
                (swept.2.1.secrets.get? (spaceOf i) (secondaryName i.name b.name)) := by
  obtain ⟨p, _, t, turn, x, _, t', r', p', _, t'', last, y, _, c', hturn, each, first, each',
    pruned, hswept⟩ := run_projectAll_around E i pod split c r
  rw [hswept] at applied ⊢
  rw [hturn]
  dsimp only at applied ⊢
  have nodup := InstanceSpec.nodup_names valid
  rw [split] at nodup
  obtain ⟨⟨pod₁, conf⟩, rfl⟩ := (mem_applied_iff nodup each each').1 applied
  obtain ⟨hb', hb⟩ := apart_of_nodup nodup
  rw [List.map_append, List.map_cons, List.nodup_append, List.nodup_cons] at nodup
  obtain ⟨hearlier, ⟨_, hlater⟩, hapart⟩ := nodup
  obtain ⟨uid, draft, drafted, rfl, _, settled⟩ := first.drafted
  refine ⟨uid, draft.expansion, draft.refs, draft.sources, r',
    Workload.ownerUid_eq_ok.1 drafted.identified, drafted.expanded, drafted.checked, drafted.read,
    ?_, ?_⟩
  · rw [SourceReader.map_fst_readAll drafted.read, map_fst_check drafted.checked]
  obtain ⟨k, fitted, _, fresh⟩ := fitted_of_deployment built podded
  obtain ⟨k₁, fitted₁, kept₁⟩ := each.fitted hearlier fitted fun b _ => fresh b.name
  obtain ⟨k₂, applied₂⟩ := Plan.applied_of_apply fitted₁ (kept₁.fresh hb' (fresh b.name))
    drafted.applied
  have fresh₂ : ∀ b' ∈ later, Fresh b'.name draft.pod k₂ := by
    refine applied₂.keeps.fresh_rest hb fun b' hb' => kept₁.fresh (fun h => ?_) (fresh b'.name)
    exact hapart _ h _ (List.mem_cons_of_mem _ (List.mem_map_of_mem hb')) rfl
  obtain ⟨k₃, fitted₃, kept₃⟩ := each'.fitted (c := k₂) hlater applied₂.fitted fresh₂
  -- Neither the later bindings nor the cleaning up work on the secret.
  have hfound : c'.secrets.get? (spaceOf i) (secondaryName i.name b.name) =
      t'.get? (spaceOf i) (secondaryName i.name b.name) := by
    rw [pruned.declared (b := b) (by rw [split]; simp)]
    exact each'.secret_eq drafted.identified hlater hb
  rw [hfound]
  refine drafted.delivered settled.rested fitted₃ (fun hitems => ?_)
    fun var hv hn => kept₃.kept _ _ hn (applied₂.exposed var hv hn)
  obtain ⟨shown, hvolume, hsame, hpaths, hmount⟩ := applied₂.shown hitems
  obtain ⟨hvolume', hmount'⟩ := kept₃.elsewhere _ (volumeName_notMem hb)
  exact ⟨shown, hvolume'.trans hvolume, fun item => (hsame item).2, hpaths, hmount'.trans hmount⟩

theorem Binding.Projector.projectAll_delivers_passwordMounted :
    ∃ d pod b,
      passwordMounted.spec.validate = .ok () ∧ Workload.deployment passwordMounted = .ok d ∧
      Workload.podSpec d = .ok pod ∧ passwordMounted.spec.bindings = [] ++ b :: [] ∧
      let swept := (Equipment.onePassword.projector.projectAll passwordMounted pod).run ({}, ())
      b.name ∈ swept.1.2.applied ∧
      ∃ uid expansion refs sources r', passwordMounted.metadata.uid = some uid ∧
        expand b "/etc/nuxeo/binding" = .ok expansion ∧
          check .builtin expansion.binding = .ok refs ∧
            ((SourceReader.shared (.insert {} "password" (Bytes.ofText "x"))).readAll "prod"
              refs).exec () = (.ok sources, r') ∧
              sources.map (·.1) = expansion.binding.sources ∧
                Delivered passwordMounted uid "/etc/nuxeo/binding" b.name sources swept.1.1
                  (swept.2.1.secrets.get? "prod" (secondaryName "nx" b.name)) := by
  have valid : passwordMounted.spec.validate = .ok () := by decide +kernel
  refine ⟨_, _, _, valid, rfl, rfl, rfl, ?_, ?_⟩
  · decide +kernel
  · exact projectAll_delivers Equipment.onePassword passwordMounted valid _ _ rfl rfl {} () [] []
      _ rfl (by decide +kernel)

end ServiceBinding
