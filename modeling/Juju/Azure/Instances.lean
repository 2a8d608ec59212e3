import Mathlib.Data.List.Dedup
import Mathlib.Data.List.Forall2
import Juju.Azure.Naming

/-!
# Listing instances: `AllInstances` and `Instances`

`AllInstances` lists the environment's cloud services by prefix and turns
every role of every single-deployment service into an instance.
`Instances(ids)` decodes each id, asks Azure for the services named, and
answers slot by slot.

`Instances` looks each decoded service up in the map of the services the
listing returned. A service that was asked for but not listed (deleted, or
never there) is Go's nil pointer, and `getInstance` dereferences it
(`instances_nil_service`). The error it returns is computed from the nil slots
only after the listing returned something: an empty listing is
`ErrNoInstances` with a nil slice, a listing whose services all fail in
`getInstance` is `ErrPartialInstances` with every slot nil.

With every decoded service listed and no request failing, `Instances`
answers slot by slot with `slotOf` (`instances_nofault`): the instance
`getInstance` builds from the decoded service and role, whether or not the
role is one of the service's.

Result:
* `instances_nil_service`: a decoded service the listing leaves out is
  dereferenced as a nil pointer, and a listing whose services all fail in
  `getInstance` leaves every slot nil with `ErrPartialInstances`.
-/
namespace Juju.Azure

/-! ## AllInstances -/

/-- The instances of one service: one per role of its single deployment,
none for a service with no or several deployments (part_001:1057-1067). -/
def serviceInstances (hs : HostedService) : Except AzErr (List AzureInstance) :=
  match hs.deployments with
  | [d] => d.roleList.mapM (getInstance hs)
  | _ => .ok []

/-- The loop of `AllInstances` over the listed services. -/
def allInstancesLoop : List Str → Go (List AzureInstance)
  | [] => pure []
  | n :: ns => do
    let hs ← getHostedServiceProperties n
    let is ← Go.ofExcept (serviceInstances hs)
    let rest ← allInstancesLoop ns
    pure (is ++ rest)

/-- mirrors part_001:1036-1070 (`azureEnviron.AllInstances`) -/
def allInstances (envName : Str) : Go (List AzureInstance) := do
  getManagementAPI
  let names ← listPrefixedHostedServices (getEnvPrefix envName)
  allInstancesLoop names

/-! ## Instances -/

/-- The first loop of `Instances` (part_001:964-976): each id decoded, the
zero value for an id without the prefix. -/
def parseIds (envName : Str) (ids : List Str) : List (Str × Str) :=
  ids.map fun id =>
    let parts := splitInstanceId envName id
    if parts.1 = [] then ([], []) else parts

/-- The map `hostedServices` (part_001:988-995): the properties of every
listed service, the last one fetched first. -/
def fetchServices (acc : List (Str × HostedService)) : List Str → Go (List (Str × HostedService))
  | [] => pure acc
  | n :: ns => do
    let hs ← getHostedServiceProperties n
    fetchServices ((n, hs) :: acc) ns

/-- Go's map index `hostedServices[name]`: nil when the name is missing. -/
def lookupService (hosted : List (Str × HostedService)) (name : Str) : Option HostedService :=
  (hosted.find? fun e => e.1 = name).map (·.2)

/-- The dereference at the top of `getInstance` (part_001:719). -/
def nilDereference : String := "invalid memory address or nil pointer dereference"

/-- The second loop of `Instances` (part_001:999-1011): a slot is left nil
for an undecodable id and for a `getInstance` error. -/
def resolveIds (hosted : List (Str × HostedService)) :
    List (Str × Str) → Go (List (Option AzureInstance))
  | [] => pure []
  | (s, r) :: rest => do
    let slot ← if s = [] then pure none else
      match lookupService hosted s with
      | none => Go.crash nilDereference
      | some hs => pure (getInstance hs r).toOption
    let slots ← resolveIds hosted rest
    pure (slot :: slots)

/-- `Instances` up to its last statement, with the early returns as errors. -/
def instancesBody (envName : Str) (ids : List Str) :
    Go (List (Option AzureInstance) × Option AzErr) := do
  getManagementAPI
  let parsed := parseIds envName ids
  let serviceNames := ((parsed.map (·.1)).filter (· ≠ [])).dedup
  let services ← listSpecificHostedServices serviceNames
  if services = [] then Go.throw .noInstances
  let hosted ← fetchServices [] services
  let slots ← resolveIds hosted parsed
  pure (slots, if slots.any Option.isNone then some .partialInstances else none)

/-- mirrors part_001:953-1018 (`azureEnviron.Instances`): the slice (nil on
an early return) and the error. -/
def instances (envName : Str) (ids : List Str) :
    Go (List (Option AzureInstance) × Option AzErr) := do
  match ← Go.attempt (instancesBody envName ids) with
  | .ok r => pure r
  | .error e => pure ([], some e)

/-! ## What AllInstances returns -/

theorem getInstance_serviceName {hs : HostedService} {r : Str} {i : AzureInstance}
    (h : getInstance hs r = .ok i) : i.serviceName = hs.serviceName := by
  unfold getInstance at h
  split at h
  · rename_i d _
    cases hi : identify hs d r <;> simp only [hi, Except.map] at h <;> cases h
    rfl
  · cases h

theorem mapM_ok {f : α → Except ε β} :
    ∀ {l : List α} {bs : List β}, l.mapM f = .ok bs → List.Forall₂ (fun a b => f a = .ok b) l bs
  | [], bs, h => by cases h; exact .nil
  | a :: l, bs, h => by
    rw [List.mapM_cons] at h
    cases hfa : f a with
    | error e => rw [hfa] at h; cases h
    | ok b =>
      cases hl : l.mapM f with
      | error e => rw [hfa, hl] at h; cases h
      | ok bs' =>
        rw [hfa, hl] at h
        cases h
        exact .cons hfa (mapM_ok hl)

theorem mapM_of_forall {f : α → Except ε β} :
    ∀ {l : List α}, (∀ a ∈ l, ∃ b, f a = .ok b) → ∃ bs, l.mapM f = .ok bs
  | [], _ => ⟨[], rfl⟩
  | a :: l, h => by
    obtain ⟨b, hb⟩ := h a (List.mem_cons_self _ _)
    obtain ⟨bs, hbs⟩ := mapM_of_forall fun a' ha' => h a' (List.mem_cons_of_mem _ ha')
    exact ⟨b :: bs, by rw [List.mapM_cons, hb, hbs]; rfl⟩

theorem forall₂_right {l : List α} {bs : List β} {P : β → Prop} :
    List.Forall₂ (fun _ b => P b) l bs → ∀ b ∈ bs, P b
  | .nil => fun _ h => absurd h (List.not_mem_nil _)
  | .cons hb h => List.forall_mem_cons.mpr ⟨hb, forall₂_right h⟩

theorem fetchServices_nofault (ss : List HostedService) :
    ∀ (L : List Str) (acc : List (Str × HostedService)), (∀ n ∈ L, (findService ss n).isSome) →
    ∃ hosted, fetchServices acc L ⟨ss, []⟩ = (.ok hosted, ⟨ss, []⟩) ∧
      ∀ n, lookupService hosted n = if n ∈ L then findService ss n else lookupService acc n
  | [], acc, _ => ⟨acc, rfl, by simp⟩
  | n :: ns, acc, h => by
    obtain ⟨s, hs⟩ := Option.isSome_iff_exists.mp (h n (List.mem_cons_self _ _))
    obtain ⟨hosted, he, hl⟩ :=
      fetchServices_nofault ss ns ((n, s) :: acc) fun m hm => h m (List.mem_cons_of_mem _ hm)
    refine ⟨hosted, by rw [fetchServices, Go.bind_ok _ (getHostedServiceProperties_found ss hs), he],
      fun m => ?_⟩
    rw [hl m]
    by_cases hmn : m = n
    · subst hmn; split <;> simp [lookupService, hs]
    · simp [lookupService, hmn, Ne.symm hmn]

/-- The second loop fills each slot from the map when every decoded service
is in it. -/
theorem resolveIds_eq (hosted : List (Str × HostedService)) (w : World) :
    ∀ parsed : List (Str × Str), (∀ p ∈ parsed, p.1 ≠ [] → (lookupService hosted p.1).isSome) →
    resolveIds hosted parsed w = (.ok (parsed.map fun p => if p.1 = [] then none else
      (lookupService hosted p.1).bind fun hs => (getInstance hs p.2).toOption), w)
  | [], _ => rfl
  | (s, r) :: rest, h => by
    have ih := resolveIds_eq hosted w rest fun p hp => h p (List.mem_cons_of_mem _ hp)
    by_cases hs : s = []
    · simp [resolveIds, hs, Go.bind_apply, ih]
    · obtain ⟨hs', e⟩ := Option.isSome_iff_exists.mp (h (s, r) (List.mem_cons_self _ _) hs)
      simp [resolveIds, hs, Go.bind_apply, ih, e]

/-- What `Instances` puts in the slot of `id` once every decoded service is
listed. -/
def slotOf (ss : List HostedService) (envName id : Str) : Option AzureInstance :=
  if (splitInstanceId envName id).1 = [] then none
  else (findService ss (splitInstanceId envName id).1).bind fun hs =>
    (getInstance hs (splitInstanceId envName id).2).toOption

theorem mem_parsedNames {envName n : Str} {ids : List Str} :
    n ∈ (((parseIds envName ids).map (·.1)).filter (· ≠ [])).dedup ↔
      ∃ id ∈ ids, (splitInstanceId envName id).1 = n ∧ n ≠ [] := by
  simp only [List.mem_dedup, parseIds, List.map_map, List.mem_filter, List.mem_map, Function.comp, ne_eq,
    decide_not, Bool.not_eq_true', decide_eq_false_iff_not]
  constructor
  · rintro ⟨⟨id, hid, rfl⟩, hne⟩
    refine ⟨id, hid, ?_, hne⟩
    split at hne <;> simp_all
  · rintro ⟨id, hid, rfl, hne⟩
    exact ⟨⟨id, hid, by simp [hne]⟩, hne⟩

/-- With every decoded service in the cloud, `Instances` answers slot by slot
from `slotOf`, or with `ErrNoInstances` when no id carries the prefix. -/
theorem instancesBody_nofault (envName : Str) (ids : List Str) (ss : List HostedService)
    (hexist : ∀ id ∈ ids, (splitInstanceId envName id).1 ≠ [] →
      (findService ss (splitInstanceId envName id).1).isSome) :
    instancesBody envName ids ⟨ss, []⟩ =
      if ∀ id ∈ ids, (splitInstanceId envName id).1 = [] then (.err .noInstances, ⟨ss, []⟩)
      else (.ok (ids.map (slotOf ss envName),
        if (ids.map (slotOf ss envName)).any Option.isNone then some .partialInstances else none),
        ⟨ss, []⟩) := by
  simp only [instancesBody, Go.bind_apply, getManagementAPI_nofault, listSpecificHostedServices_nofault]
  set services := (ss.filter fun s => s.serviceName ∈
    (((parseIds envName ids).map (·.1)).filter (· ≠ [])).dedup).map (·.serviceName) with hsv
  have hmem : ∀ n, n ∈ services ↔ (∃ id ∈ ids, (splitInstanceId envName id).1 = n ∧ n ≠ []) := by
    intro n
    simp only [hsv, List.mem_map, List.mem_filter, mem_parsedNames, decide_eq_true_eq]
    constructor
    · rintro ⟨s, ⟨-, h⟩, rfl⟩; exact h
    · rintro ⟨id, hid, rfl, hne⟩
      obtain ⟨s, hs, hn⟩ := findService_isSome.mp (hexist id hid hne)
      exact ⟨s, ⟨hs, hn ▸ ⟨id, hid, rfl, hne⟩⟩, hn⟩
  obtain ⟨hosted, hf, hl⟩ := fetchServices_nofault ss services [] fun n hn => by
    obtain ⟨id, hid, rfl, hne⟩ := (hmem n).mp hn
    exact hexist id hid hne
  by_cases h : ∀ id ∈ ids, (splitInstanceId envName id).1 = []
  · have : services = [] := List.eq_nil_iff_forall_not_mem.mpr fun n hn => by
      obtain ⟨id, hid, rfl, hne⟩ := (hmem n).mp hn
      exact hne (h id hid)
    rw [if_pos this, if_pos h]
    rfl
  · have : services ≠ [] := by
      push_neg at h
      obtain ⟨id, hid, hne⟩ := h
      exact List.ne_nil_of_mem ((hmem _).mpr ⟨id, hid, rfl, hne⟩)
    rw [if_neg this, if_neg h]
    have hres : ∀ p ∈ parseIds envName ids, p.1 ≠ [] → (lookupService hosted p.1).isSome := by
      intro p hp hne
      obtain ⟨id, hid, rfl⟩ := List.mem_map.mp hp
      have hne' : (splitInstanceId envName id).1 ≠ [] := by intro e; simp [e] at hne
      simp only [hne', if_false] at hne ⊢
      rw [hl, if_pos ((hmem _).mpr ⟨id, hid, rfl, hne'⟩)]
      exact hexist id hid hne'
    have hslots : (parseIds envName ids).map (fun p => if p.1 = [] then none else
        (lookupService hosted p.1).bind fun hs => (getInstance hs p.2).toOption) =
        ids.map (slotOf ss envName) := by
      simp only [parseIds, List.map_map]
      refine List.map_congr_left fun id hid => ?_
      by_cases hne : (splitInstanceId envName id).1 = []
      · simp [slotOf, hne]
      · simp [slotOf, hne, hl, (hmem _).mpr ⟨id, hid, rfl, hne⟩]
    simp only [Go.bind_apply, Go.pure_apply, hf, resolveIds_eq hosted _ _ hres, hslots]
theorem instances_nofault (envName : Str) (ids : List Str) (ss : List HostedService)
    (hexist : ∀ id ∈ ids, (splitInstanceId envName id).1 ≠ [] →
      (findService ss (splitInstanceId envName id).1).isSome) :
    (instances envName ids ⟨ss, []⟩).1 =
      if ∀ id ∈ ids, (splitInstanceId envName id).1 = [] then .ok ([], some .noInstances)
      else .ok (ids.map (slotOf ss envName),
        if (ids.map (slotOf ss envName)).any Option.isNone then some .partialInstances else none) := by
  rw [instances, Go.bind_apply, Go.attempt_apply, instancesBody_nofault envName ids ss hexist]
  split_ifs <;> rfl

/-! ## What a slot holds -/

/-- The layouts `getInstance` accepts: one legacy deployment with one role,
or one current deployment. -/
def LegacyOrCurrent (hs : HostedService) : Prop :=
  ∃ d, hs.deployments = [d] ∧
    ((d.name = deploymentNameV1 hs.serviceName ∧ d.roleList.length = 1) ∨
      d.name = deploymentNameV2 hs.serviceName)

/-- `id` is the id of an instance of the cloud, with names as gwacl makes
them: a legacy service named `id`, or a role `r` of a current service `s`
with `id = s ++ "-" ++ r`. -/
def InstanceIdOf (ss : List HostedService) (envName id : Str) : Prop :=
  ∃ hs ∈ ss, ∃ x, IsIdent x ∧ hs.serviceName = getEnvPrefix envName ++ x ∧
    ∃ d, hs.deployments = [d] ∧
      ((d.name = deploymentNameV1 hs.serviceName ∧ d.roleList.length = 1 ∧ id = hs.serviceName) ∨
        (d.name = deploymentNameV2 hs.serviceName ∧
          ∃ r ∈ d.roleList, IsIdent r ∧ id = hs.serviceName ++ '-' :: r))

theorem getInstance_ok_of_layout {hs : HostedService} (h : LegacyOrCurrent hs) (roleName : Str) :
    ∃ i, getInstance hs roleName = .ok i := by
  obtain ⟨d, hd, ⟨hv1, hlen⟩ | hv2⟩ := h
  · obtain ⟨r0, hr0⟩ := List.length_eq_one.mp hlen
    obtain ⟨i, hi, -⟩ := getInstance_legacy roleName hd hv1 hr0
    exact ⟨i, hi⟩
  · obtain ⟨i, hi, -⟩ := getInstance_current roleName hd hv2
    exact ⟨i, hi⟩

theorem slotOf_some {ss : List HostedService} {envName id : Str} {i : AzureInstance}
    (h : slotOf ss envName id = some i) :
    ∃ hs ∈ ss, hs.serviceName = (splitInstanceId envName id).1 ∧
      getInstance hs (splitInstanceId envName id).2 = .ok i := by
  unfold slotOf at h
  split at h
  · cases h
  · obtain ⟨hs, hf, hg⟩ := Option.bind_eq_some.mp h
    obtain ⟨hm, hn⟩ := findService_some hf
    refine ⟨hs, hm, hn, ?_⟩
    revert hg
    cases getInstance hs _ <;> simp [Except.toOption]

/-- The error handling of `Instances` on the current service `juju-e-abc`:
a decoded service that the listing leaves out (`juju-e-gone`) is
dereferenced as a nil pointer, and a listed service that `getInstance`
rejects (two deployments) leaves every slot nil with `ErrPartialInstances`. -/
theorem instances_nil_service :
    (instances "e".toList ["juju-e-abc-r1".toList, "juju-e-gone-r2".toList]
      ⟨[⟨"juju-e-abc".toList, [], [⟨"juju-e-abc-v2".toList, ["r1".toList], ["r1".toList]⟩]⟩], []⟩).1 =
      .panic nilDereference ∧
    (instances "e".toList ["juju-e-abc-r1".toList]
      ⟨[⟨"juju-e-abc".toList, [], [⟨"juju-e-abc-v2".toList, ["r1".toList], []⟩,
        ⟨"juju-e-abc".toList, [], []⟩]⟩], []⟩).1 = .ok ([none], some .partialInstances) := by
  decide

end Juju.Azure
