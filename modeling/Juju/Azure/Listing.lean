import Juju.Azure.CreateOutcome

/-!
# What `AllInstances` lists, `Instances` and `StartInstance`

`AllInstances` (part_001:1036-1070) turns every role of every
single-deployment service with the environment's prefix into an instance.
Two other functions meet what it lists.

`Instances(ids)` (part_001:953-1018) decodes the ids back into services and
roles. On a laid-out cloud (`LayoutInv`, which every run keeps) whose
environment services `newHostedService` made, with role names over gwacl's
alphabet, the id of every listed instance decodes to its service and role,
and `getInstance` there builds the same instance (`slotOf_getInstance`). For
a legacy service the decoded role is empty, and `getInstance` does not read
it (`getInstance_legacy_roleName`).

`StartInstance` (part_001:634-704) adds one role. Its instance is built by
`getInstance` from the service as `createInstance` read it, with the role
added to the role list only: the new role instance is not in it, so the
instance returned has none, while the one `AllInstances` lists afterwards
has it (`Created.listed`).

Results:
* `instances_allInstances`: with no failing request, `Instances` of the ids
  `AllInstances` returns answers with those instances, slot for slot, and no
  error; with no instance at all it answers `ErrNoInstances`.
* `instances_unlisted_ids`: the converse fails. `Instances` also answers
  with an instance for the id of a role the service lacks, for a role id on
  a legacy service and for the bare name of a current service, where
  `StopInstances` finds no role to delete for the first two.
* `allInstances_startInstance`: after a successful `StartInstance`, whatever
  failed on the way, `AllInstances` lists, up to order, what it listed before
  and one new instance: the one returned, completed with its role instance.
-/
namespace Juju.Azure

/-! ## What `AllInstances` returns -/

theorem forall₂_mem_iff {α β : Type} {R : α → β → Prop} (hR : ∀ a b b', R a b → R a b' → b = b') :
    ∀ {l : List α} {bs : List β}, List.Forall₂ R l bs → ∀ b, b ∈ bs ↔ ∃ a ∈ l, R a b
  | _, _, .nil => by simp
  | a :: _, b :: _, .cons hab t => fun b' => by
    rw [List.mem_cons, forall₂_mem_iff hR t b', List.exists_mem_cons_iff]
    exact or_congr_left ⟨fun e => e ▸ hab, fun h => hR a b' b h hab⟩

theorem serviceInstances_mem {hs : HostedService} {is : List AzureInstance}
    (h : serviceInstances hs = .ok is) (i : AzureInstance) :
    i ∈ is ↔ ∃ r ∈ serviceRoles hs, getInstance hs r = .ok i := by
  rcases hd : hs.deployments with _ | ⟨d, _ | ⟨d', ds⟩⟩ <;>
    simp only [serviceInstances, serviceRoles, hd] at h ⊢
  case cons.nil =>
    exact forall₂_mem_iff (fun r i i' h h' => by rw [h] at h'; cases h'; rfl) (mapM_ok h) i
  all_goals cases h; simp

/-- The loop of `AllInstances` where no request fails, over services of the
cloud, returns the instances of their roles. -/
theorem allInstancesLoop_mem {ss : List HostedService} (hu : (ss.map (·.serviceName)).Nodup) :
    ∀ {l : List HostedService} {is : List AzureInstance} {w : World}, (∀ s ∈ l, s ∈ ss) →
      allInstancesLoop (l.map (·.serviceName)) ⟨ss, []⟩ = (.ok is, w) →
      ∀ i, i ∈ is ↔ ∃ s ∈ l, ∃ r ∈ serviceRoles s, getInstance s r = .ok i
  | [], is, w, _, h => by
    simp only [List.map_nil, allInstancesLoop, Go.pure_apply, Prod.mk.injEq, Outcome.ok.injEq] at h
    obtain ⟨rfl, -⟩ := h
    simp
  | s :: l, is, w, hl, h => by
    rw [List.map_cons, allInstancesLoop, Go.bind_ok _ (getHostedServiceProperties_found ss
      (findService_of_mem hu (hl s (List.mem_cons_self _ _))))] at h
    rcases hsi : serviceInstances s with e | iss
    · rw [hsi] at h
      cases h
    rw [hsi, Go.bind_ok _ (Go.ofExcept_apply _ _), Go.bind_apply] at h
    rcases hr : allInstancesLoop (l.map (·.serviceName)) ⟨ss, []⟩ with ⟨rest | e | m, w'⟩ <;>
      rw [hr] at h <;> cases h
    intro i
    rw [List.mem_append, serviceInstances_mem hsi,
      allInstancesLoop_mem hu (fun s' h' => hl s' (List.mem_cons_of_mem _ h')) hr,
      List.exists_mem_cons_iff]

/-- `AllInstances` where no request fails returns the instances of the roles
of the services whose names carry the prefix. -/
theorem allInstances_mem {envName : Str} {ss : List HostedService}
    (hu : (ss.map (·.serviceName)).Nodup) {is : List AzureInstance} {w : World}
    (h : allInstances envName ⟨ss, []⟩ = (.ok is, w)) (i : AzureInstance) :
    i ∈ is ↔ ∃ s ∈ ss, getEnvPrefix envName <+: s.serviceName ∧
      ∃ r ∈ serviceRoles s, getInstance s r = .ok i := by
  simp only [allInstances, Go.bind_apply, getManagementAPI_nofault,
    listPrefixedHostedServices_nofault] at h
  rw [allInstancesLoop_mem hu (fun s hs => (List.mem_filter.mp hs).1) h]
  simp only [List.mem_filter, List.isPrefixOf_iff_prefix, and_assoc]

/-- The id of an instance of a laid-out service the environment made, with
roles over gwacl's alphabet, is the id of an existing instance. -/
theorem instanceIdOf_getInstance {envName : Str} {ss : List HostedService} {s : HostedService}
    (hs : s ∈ ss) (hl : Layout s) (hc : CreatedFor envName s)
    (hident : ∀ d ∈ s.deployments, ∀ r ∈ d.roleList, IsIdent r) {r : Str} (hr : r ∈ serviceRoles s)
    {i : AzureInstance} (hi : getInstance s r = .ok i) : InstanceIdOf ss envName i.instanceId := by
  obtain ⟨x, hx, hname⟩ := hc
  rcases hl with h0 | ⟨d, hd, ⟨hv1, hlen⟩ | ⟨hv2, -⟩⟩
  · simp [serviceRoles, h0] at hr
  · obtain ⟨r0, hr0⟩ := List.length_eq_one.mp hlen
    obtain ⟨i', hi', hid, -⟩ := getInstance_legacy r hd hv1 hr0
    rw [hi] at hi'
    cases hi'
    exact ⟨s, hs, x, hx, hname, d, hd, .inl ⟨hv1, hlen, hid⟩⟩
  · obtain ⟨i', hi', hid, -⟩ := getInstance_current r hd hv2
    rw [hi] at hi'
    cases hi'
    rw [serviceRoles, hd] at hr
    exact ⟨s, hs, x, hx, hname, d, hd, .inr ⟨hv2, r, hr, hident d (by simp [hd]) r hr, hid⟩⟩

/-- Every id `AllInstances` lists, in a laid-out cloud whose environment
services `newHostedService` made with roles over gwacl's alphabet, is the id
of an existing instance. -/
theorem instanceIdOf_of_allInstances {envName : Str} {ss : List HostedService}
    (h : LayoutInv envName ss)
    (hmade : ∀ hs ∈ ss, getEnvPrefix envName <+: hs.serviceName →
      CreatedFor envName hs ∧ ∀ d ∈ hs.deployments, ∀ r ∈ d.roleList, IsIdent r)
    {is : List AzureInstance} {w : World} (his : allInstances envName ⟨ss, []⟩ = (.ok is, w))
    {i : AzureInstance} (hi : i ∈ is) : InstanceIdOf ss envName i.instanceId := by
  obtain ⟨s, hs, hp, r, hr, hgi⟩ := (allInstances_mem h.nodup his i).mp hi
  exact instanceIdOf_getInstance hs (h.tidy s hs hp).1 (hmade s hs hp).1 (hmade s hs hp).2 hr hgi

/-! ## Reading the ids back -/

theorem getInstance_legacy_roleName {hs : HostedService} {d : Deployment}
    (hd : hs.deployments = [d]) (hn : d.name = deploymentNameV1 hs.serviceName) (r r' : Str) :
    getInstance hs r = getInstance hs r' := by
  simp only [getInstance, hd, identify, if_pos hn]

/-- The slot of the id of an instance of a laid-out service the environment
made holds that very instance. -/
theorem slotOf_getInstance {envName : Str} {ss : List HostedService} {s : HostedService}
    (hu : (ss.map (·.serviceName)).Nodup) (hs : s ∈ ss) (hl : Layout s) (hc : CreatedFor envName s)
    (hident : ∀ d ∈ s.deployments, ∀ r ∈ d.roleList, IsIdent r) {r : Str} (hr : r ∈ serviceRoles s)
    {i : AzureInstance} (hi : getInstance s r = .ok i) : slotOf ss envName i.instanceId = some i := by
  obtain ⟨x, hx, hname⟩ := hc
  rcases hl with h0 | ⟨d, hd, ⟨hv1, hlen⟩ | ⟨hv2, -⟩⟩
  · simp [serviceRoles, h0] at hr
  · obtain ⟨r0, hr0⟩ := List.length_eq_one.mp hlen
    obtain ⟨i', hi', hid, -⟩ := getInstance_legacy r hd hv1 hr0
    rw [hi] at hi'
    cases hi'
    rw [hid, slotOf, hname, splitInstanceId_legacy envName x hx.dash_not_mem, ← hname,
      findService_of_mem hu hs]
    simp [hname, getEnvPrefix, getInstance_legacy_roleName hd hv1 [] r, hi, Except.toOption]
  · obtain ⟨i', hi', hid, -⟩ := getInstance_current r hd hv2
    rw [hi] at hi'
    cases hi'
    rw [serviceRoles, hd] at hr
    rw [hid, slotOf, hname, List.append_assoc,
      splitInstanceId_current envName x r hx.dash_not_mem (hident d (by simp [hd]) r hr).dash_not_mem,
      ← hname, findService_of_mem hu hs]
    simp [hname, getEnvPrefix, hi, Except.toOption]

/-- `AllInstances` and `Instances` agree. In a laid-out cloud whose
environment services `newHostedService` made, with role names over gwacl's
alphabet, `Instances` of the ids `AllInstances` returns answers, when no
request fails, with those instances slot for slot and no error, or with
`ErrNoInstances` when there are none. -/
theorem instances_allInstances (envName : Str) (ss : List HostedService) (h : LayoutInv envName ss)
    (hmade : ∀ hs ∈ ss, getEnvPrefix envName <+: hs.serviceName →
      CreatedFor envName hs ∧ ∀ d ∈ hs.deployments, ∀ r ∈ d.roleList, IsIdent r) :
    ∃ is, allInstances envName ⟨ss, []⟩ = (.ok is, ⟨ss, []⟩) ∧
      (instances envName (is.map (·.instanceId)) ⟨ss, []⟩).1 =
        .ok (if is = [] then ([], some .noInstances) else (is.map some, none)) := by
  obtain ⟨is, his, -, -⟩ := allInstances_of_layoutInv h
  have hslot : ∀ i ∈ is, slotOf ss envName i.instanceId = some i := fun i hi => by
    obtain ⟨s, hs, hp, r, hr, hgi⟩ := (allInstances_mem h.nodup his i).mp hi
    exact slotOf_getInstance h.nodup hs (h.tidy s hs hp).1 (hmade s hs hp).1 (hmade s hs hp).2 hr hgi
  refine ⟨is, his, ?_⟩
  rw [instances_nofault envName _ ss fun id hid _ => ?_]
  · have hmap : (is.map (·.instanceId)).map (slotOf ss envName) = is.map some := by
      rw [List.map_map]
      exact List.map_congr_left hslot
    rcases is with _ | ⟨i, is⟩
    · rfl
    · have hdecode : (splitInstanceId envName i.instanceId).1 ≠ [] := fun he => by
        have := hslot i (List.mem_cons_self _ _)
        simp [slotOf, he] at this
      rw [if_neg fun hall => hdecode (hall _ (List.mem_cons_self _ _)), hmap]
      simp
  · obtain ⟨i, hi, rfl⟩ := List.mem_map.mp hid
    obtain ⟨s, hs, hn, -⟩ := slotOf_some (hslot i hi)
    exact findService_isSome.mpr ⟨s, hs, hn⟩

/-- The agreement on a cloud with a current service `juju-e-abc` with two
roles, one of them not running, and a legacy service `juju-e-old`. -/
theorem instances_allInstances_abc :
    let ss : List HostedService :=
      [⟨"juju-e-abc".toList, [], [⟨"juju-e-abc-v2".toList, ["r1".toList, "r2".toList],
          ["r1".toList]⟩]⟩,
        ⟨"juju-e-old".toList, [], [⟨"juju-e-old".toList, ["r0".toList], ["r0".toList]⟩]⟩]
    LayoutInv "e".toList ss ∧
      (∀ hs ∈ ss, getEnvPrefix "e".toList <+: hs.serviceName →
        CreatedFor "e".toList hs ∧ ∀ d ∈ hs.deployments, ∀ r ∈ d.roleList, IsIdent r) ∧
      ∃ is, allInstances "e".toList ⟨ss, []⟩ = (.ok is, ⟨ss, []⟩) ∧
        (instances "e".toList (is.map (·.instanceId)) ⟨ss, []⟩).1 =
          .ok (if is = [] then ([], some .noInstances) else (is.map some, none)) := by
  intro ss
  have h : LayoutInv "e".toList ss := ⟨by decide, fun hs hm hp => by
    simp only [ss, List.mem_cons, List.mem_singleton, List.not_mem_nil, or_false] at hm
    rcases hm with rfl | rfl
    · exact ⟨.inr ⟨_, rfl, .inr ⟨rfl, by simp⟩⟩, ⟨"abc".toList, by decide, rfl⟩, by decide⟩
    · exact ⟨.inr ⟨_, rfl, .inl ⟨rfl, rfl⟩⟩, ⟨"old".toList, by decide, rfl⟩, by decide⟩⟩
  have hmade : ∀ hs ∈ ss, getEnvPrefix "e".toList <+: hs.serviceName →
      CreatedFor "e".toList hs ∧ ∀ d ∈ hs.deployments, ∀ r ∈ d.roleList, IsIdent r := by
    decide
  exact ⟨h, hmade, instances_allInstances _ _ h hmade⟩

/-- The converse fails: on a cloud of a current service `juju-e-abc` with the
role `r1` and a legacy service `juju-e-old`, whose instances are
`juju-e-abc-r1` and `juju-e-old`, `Instances` answers with an instance, and
no error, for the id of a role the service does not have (`juju-e-abc-r2`),
for a role id on the legacy service (`juju-e-old-r9`) and for the bare name
of the current service (`juju-e-abc`), the last two under other ids; and
`StopInstances` of the first two deletes nothing. -/
theorem instances_unlisted_ids :
    let ss : List HostedService :=
      [⟨"juju-e-abc".toList, [], [⟨"juju-e-abc-v2".toList, ["r1".toList], ["r1".toList]⟩]⟩,
        ⟨"juju-e-old".toList, [], [⟨"juju-e-old".toList, ["r0".toList], ["r0".toList]⟩]⟩]
    (∃ is, (allInstances "e".toList ⟨ss, []⟩).1 = .ok is ∧
      is.map (·.instanceId) = ["juju-e-abc-r1".toList, "juju-e-old".toList]) ∧
    (∃ r, (instances "e".toList ["juju-e-abc-r2".toList, "juju-e-old-r9".toList, "juju-e-abc".toList]
        ⟨ss, []⟩).1 = .ok (r, none) ∧
      r.map (Option.map (·.instanceId)) =
        [some "juju-e-abc-r2".toList, some "juju-e-old".toList, some "juju-e-abc-".toList]) ∧
    stopInstances "e".toList ["juju-e-abc-r2".toList, "juju-e-old-r9".toList] ⟨ss, []⟩ =
      (.ok (), ⟨ss, []⟩) :=
  ⟨⟨_, rfl, rfl⟩, ⟨_, rfl, rfl⟩, by decide⟩

/-! ## Starting one instance -/

theorem getInstance_of_current {hs : HostedService} {d : Deployment} (hd : hs.deployments = [d])
    (hv2 : d.name = deploymentNameV2 hs.serviceName) (r : Str) :
    getInstance hs r = .ok ⟨hs.serviceName, hs.label, hs.serviceName ++ '-' :: r, d.name, r,
      d.roleInstanceList.find? (· = r), decide (hs.label = stateServerLabel)⟩ := by
  have := deploymentNameV1_ne_V2 hs.serviceName
  simp [getInstance, hd, identify, hv2, Except.map, Ne.symm this]

/-- The instances `AllInstances` lists from the cloud `ss` (`allInstances_mem`):
those of the roles of the environment's services. -/
def Listed (envName : Str) (ss : List HostedService) (j : AzureInstance) : Prop :=
  ∃ s ∈ ss, getEnvPrefix envName <+: s.serviceName ∧ ∃ r ∈ serviceRoles s, getInstance s r = .ok j

section Listed

variable {envName : Str} {ss : List HostedService} (h : LayoutInv envName ss)

include h in
theorem listed_iff_mem {is : List AzureInstance} {w : World}
    (his : allInstances envName ⟨ss, []⟩ = (.ok is, w)) (j : AzureInstance) :
    Listed envName ss j ↔ j ∈ is :=
  (allInstances_mem h.nodup his j).symm

include h in
theorem allInstances_nodup {is : List AzureInstance} {w : World}
    (his : allInstances envName ⟨ss, []⟩ = (.ok is, w)) : (is.map (·.instanceId)).Nodup := by
  obtain ⟨is0, his0, -, hnd⟩ := allInstances_of_layoutInv h
  rw [his] at his0
  cases his0
  exact hnd

include h in
/-- On a laid-out cloud, `AllInstances` lists, up to order, any list without
repetition of exactly the listed instances. -/
theorem allInstances_perm_of_listed {L : List AzureInstance} (hL : L.Nodup)
    (hmem : ∀ j, Listed envName ss j ↔ j ∈ L) :
    ∃ is, allInstances envName ⟨ss, []⟩ = (.ok is, ⟨ss, []⟩) ∧ is.Perm L := by
  obtain ⟨is, his, -, hnd⟩ := allInstances_of_layoutInv h
  exact ⟨is, his, (List.perm_ext_iff_of_nodup (hnd.of_map _) hL).mpr fun j =>
    (listed_iff_mem h his j).symm.trans (hmem j)⟩

end Listed

theorem listed_append_of_roles_nil {envName : Str} {ss : List HostedService} {t : HostedService}
    (ht : serviceRoles t = []) (j : AzureInstance) :
    Listed envName (ss ++ [t]) j ↔ Listed envName ss j := by
  simp [Listed, or_and_right, exists_or, ht]

/-- Changing one service of the environment in place lists what was listed,
with the instances of its new roles. -/
theorem listed_updateService {envName : Str} {ss : List HostedService} {hs : HostedService}
    (hu : (ss.map (·.serviceName)).Nodup) (hm : hs ∈ ss)
    (hp : getEnvPrefix envName <+: hs.serviceName) {g : HostedService → HostedService}
    (hg : (g hs).serviceName = hs.serviceName) {i' : AzureInstance}
    (hnew : ∀ j, (∃ r ∈ serviceRoles (g hs), getInstance (g hs) r = .ok j) ↔
      (∃ r ∈ serviceRoles hs, getInstance hs r = .ok j) ∨ j = i') (j : AzureInstance) :
    Listed envName (updateService hs.serviceName g ss) j ↔ Listed envName ss j ∨ j = i' := by
  simp only [Listed, updateService, List.mem_map]
  constructor
  · rintro ⟨_, ⟨s, hs', rfl⟩, hps, hr⟩
    by_cases hn : s.serviceName = hs.serviceName
    · obtain rfl := List.inj_on_of_nodup_map hu hs' hm hn
      rw [if_pos rfl] at hr
      exact ((hnew j).mp hr).imp (fun h => ⟨s, hs', hp, h⟩) id
    · rw [if_neg hn] at hps hr
      exact .inl ⟨s, hs', hps, hr⟩
  · rintro (⟨s, hs', hps, hr⟩ | rfl)
    · by_cases hn : s.serviceName = hs.serviceName
      · obtain rfl := List.inj_on_of_nodup_map hu hs' hm hn
        exact ⟨g s, ⟨s, hs', if_pos rfl⟩, hg ▸ hps, (hnew j).mpr (.inl hr)⟩
      · exact ⟨s, ⟨s, hs', if_neg hn⟩, hps, hr⟩
    · exact ⟨g hs, ⟨hs, hm, if_pos rfl⟩, hg ▸ hp, (hnew _).mpr (.inr rfl)⟩

/-- The service `createInstance` got, when it has no deployment: a service
of the environment in a cloud with unique names, listing what `ss` lists. -/
theorem ServiceFor.listed {envName label serviceName : Str} {draw : Nat → Str}
    {ss ss1 : List HostedService} {hs : HostedService}
    (h : ServiceFor (getEnvPrefix envName) label serviceName draw ss ss1 hs)
    (hu : (ss.map (·.serviceName)).Nodup)
    (hname : serviceName ≠ [] → getEnvPrefix envName <+: serviceName) :
    hs ∈ ss1 ∧ (ss1.map (·.serviceName)).Nodup ∧ getEnvPrefix envName <+: hs.serviceName ∧
      ∀ j, Listed envName ss1 j ↔ Listed envName ss j := by
  cases h with
  | given hn hf =>
    obtain ⟨hm, rfl⟩ := findService_some hf
    exact ⟨hm, hu, hname hn, fun _ => Iff.rfl⟩
  | drawn _ _ hfree =>
    refine ⟨List.mem_append_right _ (List.mem_singleton_self _), ?_, List.prefix_append _ _,
      listed_append_of_roles_nil rfl⟩
    simp only [List.any_eq_true, decide_eq_true_eq, not_exists, not_and] at hfree
    simpa [List.nodup_append, hu] using fun s hs => hfree s hs

/-- A role added to a service of a laid-out cloud for which `getInstance`
answers: the service is current, with its one deployment. -/
theorem current_of_getInstance_added {hs : HostedService} {d : Deployment} {ds : List Deployment}
    {roleName : Str} {i : AzureInstance} (hl : Layout hs) (hd : hs.deployments = d :: ds)
    (hi : getInstance { hs with deployments := { d with roleList := d.roleList ++ [roleName] } :: ds }
      roleName = .ok i) :
    ds = [] ∧ d.name = deploymentNameV2 hs.serviceName := by
  rcases hl with h0 | ⟨d', hd', hk⟩ <;> rw [hd] at *
  · cases h0
  obtain ⟨rfl, rfl⟩ := List.cons_eq_cons.mp hd'
  rcases hk with ⟨hv1, hlen⟩ | ⟨hv2, -⟩
  · obtain ⟨r0, hr0⟩ := List.length_eq_one.mp hlen
    simp [getInstance, identify, hv1, hr0, Except.map] at hi
  · exact ⟨rfl, hv2⟩

theorem find?_append_singleton_of_ne {l : List Str} {x r : Str} (h : x ≠ r) :
    (l ++ [x]).find? (· = r) = l.find? (· = r) := by
  simp [List.find?_append, h]

theorem find?_append_singleton_self (l : List Str) (x : Str) :
    (l ++ [x]).find? (· = x) = some x := by
  rcases hf : l.find? (· = x) with _ | y
  · simp [List.find?_append, hf]
  · have hy := List.find?_some hf
    simp only [decide_eq_true_eq] at hy
    simp [List.find?_append, hf, hy]

/-- What `AllInstances` lists after a successful `createInstance` into a
service of the environment, in a laid-out cloud whose role instances are
instances of roles: what it listed before, and the instance returned with
the role instance of its new role; the instance returned has none. -/
theorem Created.listed {envName label roleName serviceName : Str} {draw : Nat → Str}
    {ss ss' : List HostedService} {i : AzureInstance}
    (hc : Created (getEnvPrefix envName) label roleName serviceName draw ss ss' i)
    (h : LayoutInv envName ss) (hname : serviceName ≠ [] → getEnvPrefix envName <+: serviceName)
    (hri : ∀ hs ∈ ss, ∀ d ∈ hs.deployments, ∀ r ∈ d.roleInstanceList, r ∈ d.roleList) :
    (∀ j, Listed envName ss' j ↔ Listed envName ss j ∨ j = { i with roleInstance := some roleName }) ∧
      i.roleInstance = none := by
  cases hc with
  | @deployed ss1 hs _ hs1 hd hi =>
    rw [getInstance_of_current rfl rfl] at hi
    cases hi
    obtain ⟨hm, hu1, hp, hl1⟩ := hs1.listed h.nodup hname
    refine ⟨fun j => (listed_updateService hu1 hm hp rfl (fun j => ?_) j).trans
      (or_congr_left (hl1 j)), rfl⟩
    have hg := @getInstance_of_current
      { hs with deployments := [⟨deploymentNameV2 hs.serviceName, [roleName], [roleName]⟩] } _ rfl rfl
    simp [serviceRoles, hd, hg]
    exact eq_comm
  | @roleAdded hs d ds _ hn hf hd hr hi =>
    obtain ⟨hm, rfl⟩ := findService_some hf
    obtain ⟨rfl, hv2⟩ := current_of_getInstance_added (h.tidy _ hm (hname hn)).1 hd hi
    rw [@getInstance_of_current { hs with deployments := [{ d with roleList := d.roleList ++ [roleName] }] }
      _ rfl hv2] at hi
    cases hi
    have hnot : roleName ∉ d.roleInstanceList := fun hx => hr (hri hs hm d (by simp [hd]) _ hx)
    refine ⟨fun j => listed_updateService h.nodup hm (hname hn) rfl (fun j => ?_) j,
      List.find?_eq_none.mpr fun x hx => by simpa using ne_of_mem_of_not_mem hx hnot⟩
    have hg := @getInstance_of_current { hs with deployments := [{ d with
      roleList := d.roleList ++ [roleName], roleInstanceList := d.roleInstanceList ++ [roleName] }] }
      _ rfl hv2
    have hgs : updateDeployment d.name (Deployment.withRole roleName) hs = { hs with deployments :=
        [{ d with
          roleList := d.roleList ++ [roleName], roleInstanceList := d.roleInstanceList ++ [roleName] }] } := by
      simp [updateDeployment, hd, Deployment.withRole]
    rw [hgs, show serviceRoles hs = d.roleList by simp [serviceRoles, hd]]
    simp only [serviceRoles, hg, getInstance_of_current hd hv2, List.mem_append, List.mem_singleton,
      or_and_right, exists_or, exists_eq_left, Except.ok.injEq, find?_append_singleton_self]
    refine or_congr (exists_congr fun r => and_congr_right fun hr' => ?_) eq_comm
    rw [find?_append_singleton_of_ne (ne_of_mem_of_not_mem hr' hr).symm]

/-- The instance a successful `createInstance` adds, with its role
instance, was not listed before. -/
theorem Created.not_listed {envName label roleName serviceName : Str} {draw : Nat → Str}
    {ss ss' : List HostedService} {i : AzureInstance}
    (hc : Created (getEnvPrefix envName) label roleName serviceName draw ss ss' i)
    (h : LayoutInv envName ss) (hname : serviceName ≠ [] → getEnvPrefix envName <+: serviceName) :
    ¬Listed envName ss { i with roleInstance := some roleName } := by
  intro hlisted
  cases hc with
  | @deployed ss1 hs _ hs1 hd hi =>
    rw [getInstance_of_current rfl rfl] at hi
    cases hi
    obtain ⟨hm, hu1, -, hl1⟩ := hs1.listed h.nodup hname
    obtain ⟨s, hs', -, r, hr, hi'⟩ := (hl1 _).mpr hlisted
    obtain rfl := List.inj_on_of_nodup_map hu1 hs' hm (getInstance_serviceName hi').symm
    simp [serviceRoles, hd] at hr
  | @roleAdded hs d ds _ hn hf hd hr hi =>
    obtain ⟨hm, rfl⟩ := findService_some hf
    obtain ⟨rfl, hv2⟩ := current_of_getInstance_added (h.tidy _ hm (hname hn)).1 hd hi
    rw [@getInstance_of_current { hs with deployments := [{ d with roleList := d.roleList ++ [roleName] }] }
      _ rfl hv2] at hi
    cases hi
    obtain ⟨s, hs', -, r, hr', hi'⟩ := hlisted
    obtain rfl := List.inj_on_of_nodup_map h.nodup hs' hm (getInstance_serviceName hi').symm
    rw [getInstance_of_current hd hv2] at hi'
    have hrr : r = roleName := congrArg AzureInstance.roleName (Except.ok.inj hi')
    simp only [serviceRoles, hd] at hr'
    exact hr (hrr ▸ hr')

/-- After a successful `createInstance` into a service of the environment,
from a laid-out cloud whose role instances are instances of roles to a
laid-out cloud, `AllInstances` lists, up to order, what it listed before and
the instance returned, with the role instance of its new role. -/
theorem Created.allInstances_perm {envName label roleName serviceName : Str} {draw : Nat → Str}
    {ss ss' : List HostedService} {i : AzureInstance}
    (hc : Created (getEnvPrefix envName) label roleName serviceName draw ss ss' i)
    (h : LayoutInv envName ss) (hname : serviceName ≠ [] → getEnvPrefix envName <+: serviceName)
    (hri : ∀ hs ∈ ss, ∀ d ∈ hs.deployments, ∀ r ∈ d.roleInstanceList, r ∈ d.roleList)
    (hl' : LayoutInv envName ss') {is : List AzureInstance}
    (his : allInstances envName ⟨ss, []⟩ = (.ok is, ⟨ss, []⟩)) :
    ∃ is', allInstances envName ⟨ss', []⟩ = (.ok is', ⟨ss', []⟩) ∧
      is'.Perm (is ++ [{ i with roleInstance := some roleName }]) :=
  allInstances_perm_of_listed hl' (((allInstances_nodup h his).of_map _).append
    (List.nodup_singleton _) (List.disjoint_singleton.mpr fun hm =>
      hc.not_listed h hname ((listed_iff_mem h his _).mpr hm))) fun j => by
    rw [(hc.listed h hname hri).1 j, listed_iff_mem h his, List.mem_append, List.mem_singleton]

/-- A successful `createInstance` into a service of the environment did not
pick a legacy service. -/
theorem Created.noLegacyAt {envName label roleName serviceName : Str} {draw : Nat → Str}
    {ss ss' : List HostedService} {i : AzureInstance}
    (hc : Created (getEnvPrefix envName) label roleName serviceName draw ss ss' i)
    (h : LayoutInv envName ss) (hname : serviceName ≠ [] → getEnvPrefix envName <+: serviceName)
    (hn : serviceName ≠ []) : NoLegacyAt ss serviceName := by
  intro t ht htn hleg
  cases hc with
  | @deployed ss1 hs _ hs1 hd _ =>
    cases hs1 with
    | drawn hn' => exact hn hn'
    | given _ hf =>
      obtain ⟨hm, hname'⟩ := findService_some hf
      obtain rfl := List.inj_on_of_nodup_map h.nodup ht hm (htn.trans hname'.symm)
      obtain ⟨d, hd', -⟩ := hleg
      simp [hd] at hd'
  | @roleAdded hs d ds _ _ hf hd _ hi =>
    obtain ⟨hm, hname'⟩ := findService_some hf
    obtain rfl := List.inj_on_of_nodup_map h.nodup ht hm (htn.trans hname'.symm)
    obtain ⟨rfl, hv2⟩ := current_of_getInstance_added (h.tidy _ hm (htn ▸ hname hn)).1 hd hi
    obtain ⟨d', hd', hv1⟩ := hleg
    rw [hd, List.mem_singleton] at hd'
    subst hd'
    exact deploymentNameV1_ne_V2 _ (hv1.symm.trans hv2)

/-- A successful `createInstance` given no service added the one
`newHostedService` drew, under a name no service had, with the role in a
current deployment, and returned its instance. -/
theorem Created.drawn {pre label roleName : Str} {draw : Nat → Str} {ss ss' : List HostedService}
    {i : AzureInstance} (hc : Created pre label roleName [] draw ss ss' i) :
    ∃ k, ¬(ss.any fun s => s.serviceName = pre ++ draw k) ∧
      ss' = ss ++ [⟨pre ++ draw k, (drawnService pre label draw k).label,
        [⟨deploymentNameV2 (pre ++ draw k), [roleName], [roleName]⟩]⟩] ∧
      i = ⟨pre ++ draw k, (drawnService pre label draw k).label, pre ++ draw k ++ '-' :: roleName,
        deploymentNameV2 (pre ++ draw k), roleName, none,
        decide ((drawnService pre label draw k).label = stateServerLabel)⟩ := by
  generalize hsn : ([] : Str) = sn at hc
  rcases hc with ⟨hs1, -, hi⟩ | ⟨hn⟩
  · cases hs1 with
    | given hn => exact absurd hsn.symm hn
    | @drawn k _ _ hfree =>
      refine ⟨k, hfree, ?_, ?_⟩
      · have hkeep : ∀ s ∈ ss, (if s.serviceName = pre ++ draw k then
            { s with deployments := s.deployments ++
              [⟨deploymentNameV2 (pre ++ draw k), [roleName], [roleName]⟩] } else s) = s :=
          fun s hs => if_neg fun e => hfree (List.any_eq_true.mpr ⟨s, hs, decide_eq_true e⟩)
        simp only [updateService, drawnService, List.map_append, List.map_congr_left hkeep,
          List.map_id', List.map_singleton, if_pos rfl, if_true, List.nil_append]
      · rw [getInstance_of_current rfl rfl] at hi
        cases hi
        rfl
  · exact absurd hsn.symm hn

/-- A successful `createInstance` into a service of the environment, from a
laid-out cloud, leaves a laid-out cloud. -/
theorem createInstance_created (envName : Str) (draw : Nat → Str) (hdraw : ∀ k, IsIdent (draw k))
    (roleName serviceName : Str) (stateServer : Bool) (ss : List HostedService)
    (h : LayoutInv envName ss) (hname : serviceName ≠ [] → getEnvPrefix envName <+: serviceName) :
    Go.Hoare (· = ss) (createInstance envName draw roleName serviceName stateServer)
      (fun ss' i => Created (getEnvPrefix envName) (if stateServer then stateServerLabel else [])
        roleName serviceName draw ss ss' i ∧ LayoutInv envName ss')
      (FailedCreate (getEnvPrefix envName) (if stateServer then stateServerLabel else []) roleName
        serviceName draw ss) := by
  intro w hw
  have hc := createInstance_hoare envName draw roleName serviceName stateServer ss w hw
  have ht := fun hpre =>
    ((@createInstance_triple envName draw hdraw roleName serviceName stateServer).run w hpre).1
  rcases hr : createInstance envName draw roleName serviceName stateServer w with ⟨i | e | m, w'⟩ <;>
    rw [hr] at hc ht
  · subst hw
    exact ⟨hc, ht ⟨h, hc.noLegacyAt h hname⟩⟩
  all_goals exact hc

/-- The service `StartInstance` hands `createInstance`: none, or the one it
picks from the instances of the distribution group. -/
def PickedName (envName : Str) (availabilitySetsEnabled : Bool) (args : StartInstanceParams)
    (serviceName : Str) : Prop :=
  serviceName = [] ∨ ∃ ids, availabilitySetsEnabled = true ∧
    args.distributionGroup = some (.ok ids) ∧ serviceName = pickCloudServiceName envName ids

theorem pickCloudServiceName_prefix (envName : Str) :
    ∀ ids, pickCloudServiceName envName ids ≠ [] →
      getEnvPrefix envName <+: pickCloudServiceName envName ids
  | [] => fun h => absurd rfl h
  | id :: ids => by
    dsimp only [pickCloudServiceName]
    split
    · exact fun _ => splitInstanceId_service_hasPrefix envName id ‹_›
    · exact pickCloudServiceName_prefix envName ids

theorem PickedName.prefix {envName : Str} {availabilitySetsEnabled : Bool}
    {args : StartInstanceParams} {serviceName : Str}
    (h : PickedName envName availabilitySetsEnabled args serviceName) :
    serviceName ≠ [] → getEnvPrefix envName <+: serviceName := by
  rcases h with rfl | ⟨ids, -, -, rfl⟩
  exacts [fun hn => absurd rfl hn, pickCloudServiceName_prefix envName ids]

/-- `StartInstance` with tools, from a laid-out cloud: a success is a
successful `createInstance` into the service it picked, and leaves a
laid-out cloud; a failure leaves the cloud as it was, or is a failed
`createInstance` into that service. -/
theorem startInstance_created (envName : Str) (availabilitySetsEnabled : Bool) (draw : Nat → Str)
    (hdraw : ∀ k, IsIdent (draw k)) (roleName : Str) (args : StartInstanceParams)
    (htools : args.tools ≠ []) (ss : List HostedService) (h : LayoutInv envName ss) :
    Go.Hoare (· = ss) (startInstance envName availabilitySetsEnabled draw roleName args)
      (fun ss' i => ∃ serviceName, PickedName envName availabilitySetsEnabled args serviceName ∧
        Created (getEnvPrefix envName) (if args.jobs.contains .manageEnviron then stateServerLabel else [])
          roleName serviceName draw ss ss' i ∧ LayoutInv envName ss')
      (fun ss' => ss' = ss ∨ ∃ serviceName, PickedName envName availabilitySetsEnabled args serviceName ∧
        FailedCreate (getEnvPrefix envName)
          (if args.jobs.contains .manageEnviron then stateServerLabel else []) roleName serviceName
          draw ss ss') := by
  have keep : ∀ (r : Except AzErr Unit) {E : List HostedService → Prop}, (∀ ss', ss' = ss → E ss') →
      Go.Hoare (· = ss) (Go.ofExcept r) (fun ss' _ => ss' = ss) E :=
    fun r _ hE => Go.Hoare.ofExcept r (fun _ _ h _ => h) fun _ _ h _ => hE _ h
  unfold startInstance
  refine Go.Hoare.bind (?_ : Go.Hoare _ _ (fun ss' _ => ss' = ss) _) fun _ => ?_
  · split
    · exact Go.Hoare.throw _ fun _ => .inl
    · exact Go.Hoare.pure () fun _ h => h
  obtain ⟨t, ts, ht⟩ := List.exists_cons_of_ne_nil htools
  refine Go.Hoare.bind (keep _ fun _ => .inl) fun _ =>
    Go.Hoare.bind (by rw [ht]; exact Go.Hoare.pure () fun _ h => h) fun _ =>
    Go.Hoare.bind (keep _ fun _ => .inl) fun _ =>
    Go.Hoare.bind ((getManagementAPI_outcome ss).weaken (fun _ h => h) (fun _ _ h => h)
      fun _ => .inl) fun _ => Go.Hoare.bind (keep _ fun _ => .inl) fun _ => ?_
  refine Go.Hoare.bind (?_ : Go.Hoare _ _
      (fun ss' sn => ss' = ss ∧ PickedName envName availabilitySetsEnabled args sn) _)
    fun sn => Go.Hoare.of_eq fun _ ⟨hs, hsn⟩ =>
      (createInstance_created envName draw hdraw roleName sn _ ss h hsn.prefix).weaken
        (fun _ h => h.trans hs) (fun _ _ ⟨hc, hl⟩ => ⟨sn, hsn, hc, hl⟩) fun _ hf => .inr ⟨sn, hsn, hf⟩
  rcases hg : args.distributionGroup with _ | ids
  · exact Go.Hoare.pure _ fun _ h => ⟨h, .inl rfl⟩
  · cases availabilitySetsEnabled
    · exact Go.Hoare.pure _ fun _ h => ⟨h, .inl rfl⟩
    · exact Go.Hoare.bind (Go.Hoare.ofExcept ids
        (fun ss' l h hl => (⟨h, hl⟩ : ss' = ss ∧ ids = .ok l)) fun _ _ h _ => .inl h)
        fun l => Go.Hoare.pure _ fun _ h => ⟨h.1, .inr ⟨l, rfl, by rw [hg, h.2], rfl⟩⟩

/-- A successful `StartInstance`, from a laid-out cloud, had tools, and is a
successful `createInstance` into the service it picked that leaves a
laid-out cloud. -/
theorem startInstance_ok {envName : Str} {availabilitySetsEnabled : Bool} {draw : Nat → Str}
    (hdraw : ∀ k, IsIdent (draw k)) {roleName : Str} {args : StartInstanceParams} {w : World}
    (h : LayoutInv envName w.services) {i : AzureInstance} {w' : World}
    (hok : startInstance envName availabilitySetsEnabled draw roleName args w = (.ok i, w')) :
    ∃ serviceName, PickedName envName availabilitySetsEnabled args serviceName ∧
      Created (getEnvPrefix envName) (if args.jobs.contains .manageEnviron then stateServerLabel else [])
        roleName serviceName draw w.services w'.services i ∧ LayoutInv envName w'.services := by
  have htools : args.tools ≠ [] := fun ht => by
    obtain ⟨_, _, -, h1⟩ := Go.bind_eq_ok hok
    obtain ⟨_, _, -, h2⟩ := Go.bind_eq_ok h1
    obtain ⟨_, _, h3, -⟩ := Go.bind_eq_ok h2
    rw [ht] at h3
    cases h3
  have hrun := startInstance_created envName availabilitySetsEnabled draw hdraw roleName args htools
    w.services h w rfl
  rwa [hok] at hrun

/-- Starting an instance adds exactly one to what `AllInstances` lists. In a
laid-out cloud whose role instances are instances of roles, where gwacl draws
names over its alphabet, after a successful `StartInstance` (whatever
requests failed on the way) `AllInstances` lists, up to order, what it listed
before and one instance more: the one `StartInstance` returned, with the role
instance of its role; the returned instance itself has none. -/
theorem allInstances_startInstance (envName : Str) (availabilitySetsEnabled : Bool)
    (draw : Nat → Str) (hdraw : ∀ k, IsIdent (draw k)) (roleName : Str) (args : StartInstanceParams)
    (w : World) (h : LayoutInv envName w.services)
    (hri : ∀ hs ∈ w.services, ∀ d ∈ hs.deployments, ∀ r ∈ d.roleInstanceList, r ∈ d.roleList)
    {i : AzureInstance} {w' : World}
    (hok : startInstance envName availabilitySetsEnabled draw roleName args w = (.ok i, w')) :
    ∃ is is', allInstances envName ⟨w.services, []⟩ = (.ok is, ⟨w.services, []⟩) ∧
      allInstances envName ⟨w'.services, []⟩ = (.ok is', ⟨w'.services, []⟩) ∧
      i.roleInstance = none ∧ is'.Perm (is ++ [{ i with roleInstance := some roleName }]) := by
  obtain ⟨sn, hsn, hc, hl'⟩ := startInstance_ok hdraw h hok
  obtain ⟨is, his, -⟩ := allInstances_of_layoutInv h
  obtain ⟨is', his', hperm⟩ := hc.allInstances_perm h hsn.prefix hri hl' his
  exact ⟨is, is', his, his', (hc.listed h hsn.prefix hri).2, hperm⟩

/-- `StartInstance` of the role `r2` into the current service `juju-e-abc`
of the distribution group. -/
theorem allInstances_startInstance_abc :
    let ss : List HostedService :=
      [⟨"juju-e-abc".toList, [], [⟨"juju-e-abc-v2".toList, ["r1".toList], ["r1".toList]⟩]⟩]
    let args : StartInstanceParams := ⟨false, .ok (), ["t".toList], .ok (), .ok (),
      some (.ok ["juju-e-abc-r1".toList]), []⟩
    (∀ k, IsIdent ((fun _ : Nat => "x".toList) k)) ∧ LayoutInv "e".toList ss ∧
      (∀ hs ∈ ss, ∀ d ∈ hs.deployments, ∀ r ∈ d.roleInstanceList, r ∈ d.roleList) ∧
      ∃ i w', startInstance "e".toList true (fun _ => "x".toList) "r2".toList args ⟨ss, []⟩ = (.ok i, w') ∧
        ∃ is is', allInstances "e".toList ⟨ss, []⟩ = (.ok is, ⟨ss, []⟩) ∧
          allInstances "e".toList ⟨w'.services, []⟩ = (.ok is', ⟨w'.services, []⟩) ∧
          i.roleInstance = none ∧ is'.Perm (is ++ [{ i with roleInstance := some "r2".toList }]) := by
  intro ss args
  have hdraw : ∀ k, IsIdent ((fun _ : Nat => "x".toList) k) := fun _ => (by decide : IsIdent "x".toList)
  have h : LayoutInv "e".toList ss := ⟨by decide, fun hs hm _ => by
    rw [List.mem_singleton.mp hm]
    exact ⟨.inr ⟨_, rfl, .inr ⟨rfl, by simp⟩⟩, ⟨"abc".toList, by decide, rfl⟩, by decide⟩⟩
  have hri : ∀ hs ∈ ss, ∀ d ∈ hs.deployments, ∀ r ∈ d.roleInstanceList, r ∈ d.roleList := by
    decide
  exact ⟨hdraw, h, hri, _, _, rfl,
    allInstances_startInstance "e".toList true _ hdraw "r2".toList args ⟨ss, []⟩ h hri rfl⟩

end Juju.Azure
