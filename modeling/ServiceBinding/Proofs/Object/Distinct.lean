import ServiceBinding.Object.Deployment
import ServiceBinding.Object.Service
import ServiceBinding.Proofs.Json.Rest

/-!
The JSON forms of what is in deployments and services have each key once, so what has been stored as
it was wanted is found to have everything that was wanted. Pods, containers and services have
members that are kept as they are, which are contained apart from their own
(`PodSpec.isContained_iff`).
-/
namespace ServiceBinding.Object
open Json

/-! ### Metadata -/

@[simp] theorem OwnerRef.distinct_toJson (o : OwnerRef) : o.toJson.Distinct :=
  distinct_record (by simp) (by simp)

@[simp] theorem Meta.distinct_toJson (m : Meta) : m.toJson.Distinct :=
  distinct_recordWith (by simp)

@[simp] theorem LabelRule.distinct_toJson (r : LabelRule) : r.toJson.Distinct :=
  distinct_record (by simp) (by simp)

@[simp] theorem LabelSelector.distinct_toJson (l : LabelSelector) : l.toJson.Distinct :=
  distinct_record (by simp) (by simp)

/-! ### Volumes -/

@[simp] theorem Item.distinct_toJson (i : Item) : i.toJson.Distinct :=
  distinct_record (by simp) (by simp)

@[simp] theorem SecretVolume.distinct_toJson (s : SecretVolume) : s.toJson.Distinct :=
  distinct_record (by simp) (by simp)

@[simp] theorem ConfigMapVolume.distinct_toJson (c : ConfigMapVolume) : c.toJson.Distinct :=
  distinct_record (by simp) (by simp)

theorem ConfigMapVolume.fits_none (c : ConfigMapVolume) : c.toJson.fits none = false :=
  fits_none_of_mem (List.mem_cons_of_mem _ (List.mem_cons_of_mem _ List.mem_cons_self))

@[simp] theorem ObjectItems.distinct_toJson (o : ObjectItems) : o.toJson.Distinct :=
  distinct_record (by simp) (by simp)

@[simp] theorem TokenSource.distinct_toJson (t : TokenSource) : t.toJson.Distinct :=
  distinct_record (by simp) (by simp)

@[simp] theorem FieldRef.distinct_toJson (f : FieldRef) : f.toJson.Distinct :=
  distinct_record (by simp) (by simp)

@[simp] theorem ResourceRef.distinct_toJson (r : ResourceRef) : r.toJson.Distinct :=
  distinct_record (by simp) (by simp)

@[simp] theorem DownwardItem.distinct_toJson (d : DownwardItem) : d.toJson.Distinct :=
  distinct_record (by simp) (by simp)

@[simp] theorem DownwardSource.distinct_toJson (d : DownwardSource) : d.toJson.Distinct :=
  distinct_record (by simp) (by simp)

@[simp] theorem TrustBundle.distinct_toJson (b : TrustBundle) : b.toJson.Distinct :=
  distinct_record (by simp) (by simp)

@[simp] theorem ProjectedSource.distinct_toJson (p : ProjectedSource) : p.toJson.Distinct :=
  distinct_record (by simp) (by simp)

@[simp] theorem ProjectedVolume.distinct_toJson (p : ProjectedVolume) : p.toJson.Distinct :=
  distinct_record (by simp) (by simp)

@[simp] theorem EmptyDir.distinct_toJson (e : EmptyDir) : e.toJson.Distinct :=
  distinct_record (by simp) (by simp)

@[simp] theorem HostPath.distinct_toJson (h : HostPath) : h.toJson.Distinct :=
  distinct_record (by simp) (by simp)

@[simp] theorem ClaimVolume.distinct_toJson (c : ClaimVolume) : c.toJson.Distinct :=
  distinct_record (by simp) (by simp)

@[simp] theorem Volume.distinct_toJson (v : Volume) : v.toJson.Distinct :=
  distinct_recordWith (by simp [members])

theorem Volume.isContained_iff {v v' : Volume} :
    v.toJson.isContained v'.toJson = true ↔
      (record v.members).isContained (record v'.members) = true ∧
        v.rest.toJson.isContained v'.rest.toJson = true :=
  recordWith_isContained_iff rfl (by simp [members]) (by simp [members, sourceNames])

/-! ### Pods -/

@[simp] theorem KeyRef.distinct_toJson (k : KeyRef) : k.toJson.Distinct :=
  distinct_record (by simp) (by simp)

@[simp] theorem ValueSource.distinct_toJson (v : ValueSource) : v.toJson.Distinct :=
  distinct_record (by simp) (by simp)

@[simp] theorem EnvVar.distinct_toJson (e : EnvVar) : e.toJson.Distinct :=
  distinct_record (by simp) (by simp)

@[simp] theorem EnvSource.distinct_toJson (s : EnvSource) : s.toJson.Distinct :=
  distinct_record (by simp) (by simp)

@[simp] theorem EnvFrom.distinct_toJson (e : EnvFrom) : e.toJson.Distinct :=
  distinct_record (by simp) (by simp)

@[simp] theorem Mount.distinct_toJson (m : Mount) : m.toJson.Distinct :=
  distinct_record (by simp) (by simp)

@[simp] theorem ContainerPort.distinct_toJson (c : ContainerPort) : c.toJson.Distinct :=
  distinct_record (by simp) (by simp)

@[simp] theorem DeviceClaim.distinct_toJson (c : DeviceClaim) : c.toJson.Distinct :=
  distinct_record (by simp) (by simp)

@[simp] theorem Needs.distinct_toJson (n : Needs) : n.toJson.Distinct :=
  distinct_record (by simp) (by simp)

theorem Container.isContained_iff {c c' : Container} :
    c.toJson.isContained c'.toJson = true ↔
      (record c.members).isContained (record c'.members) = true ∧
        c.rest.toJson.isContained c'.rest.toJson = true :=
  recordWith_isContained_iff rfl (by simp [members]) (by simp [members, containerNames])

theorem PodSpec.isContained_iff {p p' : PodSpec} :
    p.toJson.isContained p'.toJson = true ↔
      (record p.members).isContained (record p'.members) = true ∧
        p.rest.toJson.isContained p'.rest.toJson = true :=
  recordWith_isContained_iff rfl (by simp [members]) (by simp [members, podNames])

theorem PodSpec.fits_none (p : PodSpec) : p.toJson.fits none = false :=
  recordWith_fits_none (by simp [members]) List.mem_cons_self

/-! ### Deployments -/

@[simp] theorem IntOrText.distinct_toJson (n : IntOrText) : n.toJson.Distinct := by
  cases n
  · exact distinct_int32 _
  · exact .str _

@[simp] theorem RollingUpdate.distinct_toJson (r : RollingUpdate) : r.toJson.Distinct :=
  distinct_record (by simp) (by simp)

@[simp] theorem Strategy.distinct_toJson (s : Strategy) : s.toJson.Distinct :=
  distinct_record (by simp) (by simp)

/-! ### Services -/

@[simp] theorem ServicePort.distinct_toJson (p : ServicePort) : p.toJson.Distinct :=
  distinct_record (by simp) (by simp)

@[simp] theorem ServiceSpec.distinct_toJson (s : ServiceSpec) : s.toJson.Distinct :=
  distinct_recordWith (by simp [members])

theorem ServiceSpec.isContained_iff {s s' : ServiceSpec} :
    s.toJson.isContained s'.toJson = true ↔
      (record s.members).isContained (record s'.members) = true ∧
        s.rest.toJson.isContained s'.rest.toJson = true :=
  recordWith_isContained_iff rfl (by simp [members]) (by simp [members, serviceNames])

end ServiceBinding.Object
