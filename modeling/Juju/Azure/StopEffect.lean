import Juju.Azure.Listing

/-!
# What `StopInstances` does with the ids of existing instances

`StopInstances` is meant to remove exactly the instances it is given: of a
current service the named roles go, each with its instance, and a service
goes when all its roles are named, as a legacy service goes with its one
role. `stopEffect` says this service by service, reading an id as
`getInstance` reports it.

The grouping slips (`stopInstances_grouping_slips`) need a legacy id next to
another id of the same service. Distinct ids of existing instances never
give one: a service is either legacy, with a single id, or current, and
then all its ids decode to roles (`legacy_id_unique`). For such ids the
grouping loop gathers each service once, with Go's nil map for a legacy id
and the set of named roles otherwise (`groupIds_grouped`); one iteration of
the deletion loop changes its service as `stopServiceEffect` says
(`stopService_nofault`), which is `stopEffect` there
(`stopServiceEffect_eq_stopEffect`).

Results:
* `stopInstances_named`: for distinct ids of existing instances, in a cloud
  with unique service names and no empty role name, `StopInstances` with no
  failing request returns nil and leaves `ss.filterMap (stopEffect envName ids)`.
* `stopInstances_allInstances`: `AllInstances` and `StopInstances` agree. In
  a laid-out cloud (`LayoutInv`, which every run keeps) whose environment
  services `newHostedService` made, stopping every instance `AllInstances`
  lists deletes exactly the environment's services that have a deployment,
  and `AllInstances` then finds nothing.
* `allInstances_stopInstances`: stopping any distinct ids among those
  `AllInstances` lists removes exactly their instances from its list, up to
  order; the rest, role instances included, is listed as before.
* `stopService_perm`: Go ranges over the map of role names in no fixed
  order; with no failing request, every order deletes the same roles, as
  the model's insertion order does.
-/
namespace Juju.Azure

/-! ## What stopping should do -/

/-- Whether the id `getInstance` reports for the role `r` of `hs` is among `ids`. -/
def roleNamed (ids : List Str) (hs : HostedService) (r : Str) : Bool :=
  match getInstance hs r with
  | .ok i => i.instanceId ∈ ids
  | .error _ => false

/-- What stopping the instances `ids` of the environment should leave of the
service `hs`. Of a service that `newHostedService` made for the environment,
with one deployment, the named roles go with their instances, and the whole
service goes when they are all its roles; every other service stays. -/
def stopEffect (envName : Str) (ids : List Str) (hs : HostedService) : Option HostedService :=
  match hs.deployments with
  | [d] =>
    if CreatedFor envName hs ∧ d.roleList.any (roleNamed ids hs) then
      if d.roleList.all (roleNamed ids hs) then none
      else some { hs with deployments := [{ d with
        roleList := d.roleList.filter (!roleNamed ids hs ·),
        roleInstanceList := d.roleInstanceList.filter (!roleNamed ids hs ·) }] }
    else some hs
  | _ => some hs

example : stopEffect "e".toList ["juju-e-abc-r1".toList]
    ⟨"juju-e-abc".toList, [], [⟨"juju-e-abc-v2".toList, ["r1".toList, "r2".toList],
      ["r1".toList, "r2".toList]⟩]⟩ =
    some ⟨"juju-e-abc".toList, [], [⟨"juju-e-abc-v2".toList, ["r2".toList], ["r2".toList]⟩]⟩ := by
  decide

theorem roleNamed_of_getInstance {ids : List Str} {hs : HostedService} {r : Str} {i : AzureInstance}
    (h : getInstance hs r = .ok i) : roleNamed ids hs r = decide (i.instanceId ∈ ids) := by
  simp [roleNamed, h]

/-- The three ids `getInstance` reports: the service's name (legacy), the
name and the role (current), or none at all. -/
theorem getInstance_instanceId {hs : HostedService} {r : Str} {i : AzureInstance}
    (h : getInstance hs r = .ok i) :
    i.instanceId = hs.serviceName ∨ i.instanceId = hs.serviceName ++ '-' :: r ∨ i.instanceId = [] := by
  unfold getInstance at h
  split at h
  · rename_i d _
    unfold identify at h
    split_ifs at h
    · split at h <;> simp only [Except.map, Except.ok.injEq] at h <;> cases h
      exact .inl rfl
    all_goals simp only [Except.map, Except.ok.injEq] at h; cases h
    · exact .inr (.inl rfl)
    · exact .inr (.inr rfl)
  · cases h

/-! ## Decoding the ids of existing instances -/

section Decode

variable {ss : List HostedService} {envName : Str}

/-- The id of an existing instance decodes to its service, which the
environment made, and to its role for a current service or to no role for a
legacy one. -/
theorem InstanceIdOf.decode (hroles : ∀ hs ∈ ss, ∀ d ∈ hs.deployments, [] ∉ d.roleList)
    {id : Str} (h : InstanceIdOf ss envName id) :
    ∃ hs ∈ ss, CreatedFor envName hs ∧ ∃ d, hs.deployments = [d] ∧
      ((d.name = deploymentNameV1 hs.serviceName ∧ d.roleList.length = 1 ∧ id = hs.serviceName ∧
          splitInstanceId envName id = (hs.serviceName, [])) ∨
        (d.name = deploymentNameV2 hs.serviceName ∧ ∃ r ∈ d.roleList, r ≠ [] ∧
          id = hs.serviceName ++ '-' :: r ∧ splitInstanceId envName id = (hs.serviceName, r))) := by
  obtain ⟨hs, hm, x, hx, hname, d, hd, ⟨hv1, hlen, rfl⟩ | ⟨hv2, r, hr, hri, rfl⟩⟩ := h
  · refine ⟨hs, hm, ⟨x, hx, hname⟩, d, hd, .inl ⟨hv1, hlen, rfl, ?_⟩⟩
    rw [hname, splitInstanceId_legacy envName x hx.dash_not_mem]
  · refine ⟨hs, hm, ⟨x, hx, hname⟩, d, hd, .inr ⟨hv2, r, hr,
      fun h0 => hroles hs hm d (by simp [hd]) (h0 ▸ hr), rfl, ?_⟩⟩
    rw [hname, List.append_assoc,
      splitInstanceId_current envName x r hx.dash_not_mem hri.dash_not_mem]

theorem InstanceIdOf.decode_of_mem (hu : (ss.map (·.serviceName)).Nodup)
    (hroles : ∀ hs ∈ ss, ∀ d ∈ hs.deployments, [] ∉ d.roleList) {id : Str}
    (h : InstanceIdOf ss envName id) {hs : HostedService} (hm : hs ∈ ss)
    (hn : (splitInstanceId envName id).1 = hs.serviceName) :
    CreatedFor envName hs ∧ ∃ d, hs.deployments = [d] ∧
      ((d.name = deploymentNameV1 hs.serviceName ∧ d.roleList.length = 1 ∧ id = hs.serviceName ∧
          splitInstanceId envName id = (hs.serviceName, [])) ∨
        (d.name = deploymentNameV2 hs.serviceName ∧ ∃ r ∈ d.roleList, r ≠ [] ∧
          id = hs.serviceName ++ '-' :: r ∧ splitInstanceId envName id = (hs.serviceName, r))) := by
  obtain ⟨hs', hm', hc, d, hd, hk⟩ := h.decode hroles
  have hname : hs'.serviceName = hs.serviceName := by
    rcases hk with ⟨-, -, -, hsp⟩ | ⟨-, _, -, -, -, hsp⟩ <;> rw [hsp] at hn <;> exact hn
  obtain rfl := List.inj_on_of_nodup_map hu hm' hm hname
  exact ⟨hc, d, hd, hk⟩

theorem legacy_id_unique (hu : (ss.map (·.serviceName)).Nodup)
    (hroles : ∀ hs ∈ ss, ∀ d ∈ hs.deployments, [] ∉ d.roleList) {id id' : Str}
    (h : InstanceIdOf ss envName id) (h' : InstanceIdOf ss envName id')
    (hn : (splitInstanceId envName id').1 = (splitInstanceId envName id).1)
    (hr : (splitInstanceId envName id).2 = []) : id' = id := by
  obtain ⟨hs, hm, -, d, hd, ⟨hv1, -, rfl, hsp⟩ | ⟨-, r, -, hr0, -, hsp⟩⟩ := h.decode hroles
  · rw [hsp] at hn
    obtain ⟨-, d', hd', ⟨-, -, rfl, -⟩ | ⟨hv2, -⟩⟩ := h'.decode_of_mem hu hroles hm hn
    · rfl
    · rw [hd, List.singleton_inj] at hd'
      exact absurd (hv1.symm.trans (hd' ▸ hv2)) (deploymentNameV1_ne_V2 _)
  · rw [hsp] at hr
    exact absurd hr hr0

end Decode

/-! ## The grouping loop -/

section Grouping

variable {envName : Str}

theorem exists_mem_append_singleton {P : List Str} {id : Str} {q : Str → Prop} :
    (∃ x ∈ P ++ [id], q x) ↔ (∃ x ∈ P, q x) ∨ q id := by
  simp [or_and_right, exists_or]

theorem forall_mem_append_singleton {P : List Str} {id : Str} {q : Str → Prop} :
    (∀ x ∈ P ++ [id], q x) ↔ (∀ x ∈ P, q x) ∧ q id := by
  simp [or_imp, forall_and]

/-- The role set of the grouping loop, a Go map used as a set, holds no name twice. -/
theorem insert_nodup {rs : List Str} (h : rs.Nodup) (r : Str) : (rs.insert r).Nodup := by
  unfold List.insert
  split
  · exact h
  · rename_i hr
    exact List.nodup_cons.mpr ⟨by simpa using hr, h⟩

/-- What the grouping loop has built from the ids `P` it has gone through:
each decoded service once in `acc.2`, and in the map exactly those, with
Go's nil map for a service with a legacy id and otherwise the set of the
decoded roles. -/
structure Grouped (envName : Str) (P : List Str) (acc : RoleMap × List Str) : Prop where
  nodup : acc.2.Nodup
  mem : ∀ n, n ∈ acc.2 ↔ ∃ id ∈ P, (splitInstanceId envName id).1 = n
  none_iff : ∀ n, acc.1 n = none ↔ n ∉ acc.2
  legacy : ∀ n, acc.1 n = some none → ∃ id ∈ P, splitInstanceId envName id = (n, [])
  roles : ∀ n rs, acc.1 n = some (some rs) → rs.Nodup ∧
    (∀ r, r ∈ rs ↔ ∃ id ∈ P, splitInstanceId envName id = (n, r)) ∧
    ∀ id ∈ P, (splitInstanceId envName id).1 = n → (splitInstanceId envName id).2 ≠ []

theorem Grouped.empty : Grouped envName [] (fun _ => none, []) :=
  ⟨List.nodup_nil, by simp, by simp, by simp, by simp⟩

/-- One more id, of the service `n`: the map and the list change at `n`
only, so every field away from `n` carries over. -/
theorem Grouped.step {P : List Str} {acc : RoleMap × List Str} (h : Grouped envName P acc)
    {id n : Str} (hn : (splitInstanceId envName id).1 = n) {ns : List Str} (hns : ns.Nodup)
    (hmem : ∀ n', n' ∈ ns ↔ n' ∈ acc.2 ∨ n' = n) {v : Option (Option (List Str))} (hv : v ≠ none)
    (hleg : v = some none → ∃ id' ∈ P ++ [id], splitInstanceId envName id' = (n, []))
    (hroles : ∀ rs, v = some (some rs) → rs.Nodup ∧
      (∀ r, r ∈ rs ↔ ∃ id' ∈ P ++ [id], splitInstanceId envName id' = (n, r)) ∧
      ∀ id' ∈ P ++ [id], (splitInstanceId envName id').1 = n → (splitInstanceId envName id').2 ≠ []) :
    Grouped envName (P ++ [id]) (Function.update acc.1 n v, ns) where
  nodup := hns
  mem n' := by
    rw [hmem, h.mem, exists_mem_append_singleton, hn]
    exact or_congr_right eq_comm
  none_iff n' := by
    by_cases e : n' = n
    · subst e
      simpa [hmem] using hv
    · simp [Function.update_noteq e, h.none_iff, hmem, e]
  legacy n' hv' := by
    by_cases e : n' = n
    · subst e
      exact hleg (by simpa using hv')
    · obtain ⟨id', hid', he⟩ := h.legacy n' (by simpa [e] using hv')
      exact ⟨id', List.mem_append_left _ hid', he⟩
  roles n' rs hv' := by
    by_cases e : n' = n
    · subst e
      exact hroles rs (by simpa using hv')
    · obtain ⟨hnd, hiff, hne⟩ := h.roles n' rs (by simpa [e] using hv')
      have hid : (splitInstanceId envName id).1 ≠ n' := hn ▸ Ne.symm e
      refine ⟨hnd, fun r => ?_, forall_mem_append_singleton.mpr ⟨hne, fun he => absurd he hid⟩⟩
      rw [hiff, exists_mem_append_singleton]
      exact (or_iff_left fun hp => hid (by rw [hp])).symm

/-- One iteration of the grouping loop keeps `Grouped` when the id and the
ids before it of the same service are all role ids. -/
theorem groupId_grouped {P : List Str} {acc : RoleMap × List Str} (h : Grouped envName P acc)
    (id : Str) (hcons : ∀ id' ∈ P, (splitInstanceId envName id').1 = (splitInstanceId envName id).1 →
      (splitInstanceId envName id).2 ≠ [] ∧ (splitInstanceId envName id').2 ≠ []) (w : World) :
    ∃ acc', groupId envName acc id w = (.ok acc', w) ∧ Grouped envName (P ++ [id]) acc' := by
  rcases hp : splitInstanceId envName id with ⟨n, r⟩
  have hn : (splitInstanceId envName id).1 = n := by rw [hp]
  have hfresh : n ∉ acc.2 → ∀ id' ∈ P, (splitInstanceId envName id').1 ≠ n :=
    fun hna id' hid' he => hna ((h.mem n).mpr ⟨id', hid', he⟩)
  unfold groupId
  simp only [hp]
  by_cases hr : r = []
  · subst hr
    have hna : n ∉ acc.2 := fun hna => by
      obtain ⟨id', hid', he⟩ := (h.mem n).mp hna
      exact (hcons id' hid' (by rw [he, hn])).1 (by rw [hp])
    refine ⟨(Function.update acc.1 n (some none), acc.2 ++ [n]), by simp,
      h.step hn (List.nodup_append.mpr ⟨h.nodup, List.nodup_singleton _,
        List.disjoint_singleton.mpr hna⟩) (by simp) (by simp) (fun _ => ⟨id, by simp, hp⟩)
      fun _ hv => by cases hv⟩
  · rcases ha : acc.1 n with _ | _ | rs
    · have hna : n ∉ acc.2 := (h.none_iff n).mp ha
      refine ⟨(Function.update acc.1 n (some (some [r])), acc.2 ++ [n]), by simp [hr, ha],
        h.step hn (List.nodup_append.mpr ⟨h.nodup, List.nodup_singleton _,
          List.disjoint_singleton.mpr hna⟩) (by simp) (by simp) (fun hv => by cases hv)
        fun rs hv => ?_⟩
      cases hv
      refine ⟨List.nodup_singleton _, fun r' => ?_, forall_mem_append_singleton.mpr
        ⟨fun id' hid' he => absurd he (hfresh hna id' hid'), fun _ => by rw [hp]; exact hr⟩⟩
      rw [List.mem_singleton, exists_mem_append_singleton, hp]
      constructor
      · rintro rfl
        exact .inr rfl
      · rintro (⟨id', hid', he⟩ | he)
        · exact absurd (congrArg Prod.fst he) (hfresh hna id' hid')
        · exact (Prod.mk.inj he).2.symm
    · obtain ⟨id', hid', he⟩ := h.legacy n ha
      exact absurd (by rw [he]) (hcons id' hid' (by rw [he, hn])).2
    · have hna : n ∈ acc.2 := not_not.mp fun hna => by simp [(h.none_iff n).mpr hna] at ha
      obtain ⟨hnd, hiff, hne⟩ := h.roles n rs ha
      refine ⟨(Function.update acc.1 n (some (some (rs.insert r))), acc.2), by simp [hr, ha],
        h.step hn h.nodup (fun n' => ⟨.inl, fun e => e.elim (fun h => h) (· ▸ hna)⟩) (by simp)
          (fun hv => by cases hv) fun rs' hv => ?_⟩
      cases hv
      refine ⟨insert_nodup hnd r, fun r' => ?_, forall_mem_append_singleton.mpr
        ⟨hne, fun _ => by rw [hp]; exact hr⟩⟩
      rw [List.mem_insert_iff, hiff, exists_mem_append_singleton, hp, Prod.mk.injEq]
      simp only [true_and]
      exact or_comm.trans (or_congr_right eq_comm)

/-- The grouping loop over ids that are distinct and where no id of a
service with a legacy id has a sibling: it returns, and gathers all of them. -/
theorem groupIds_grouped {L : List Str} (hnd : L.Nodup)
    (hcons : ∀ id ∈ L, ∀ id' ∈ L, id' ≠ id →
      (splitInstanceId envName id').1 = (splitInstanceId envName id).1 → (splitInstanceId envName id).2 ≠ [])
    (w : World) :
    ∀ (rest P : List Str) (acc : RoleMap × List Str), P ++ rest = L → Grouped envName P acc →
      ∃ acc', groupIds envName acc rest w = (.ok acc', w) ∧ Grouped envName L acc'
  | [], P, acc, hL, h => ⟨acc, rfl, by rwa [← hL, List.append_nil]⟩
  | id :: rest, P, acc, hL, h => by
    have hid : id ∈ L := hL ▸ List.mem_append_right _ (List.mem_cons_self _ _)
    have hP : ∀ id' ∈ P, id' ∈ L ∧ id' ≠ id := fun id' hid' =>
      ⟨hL ▸ List.mem_append_left _ hid', fun e =>
        (List.nodup_append.mp (hL ▸ hnd)).2.2 hid' (e ▸ List.mem_cons_self _ _)⟩
    obtain ⟨acc', h1, h2⟩ := groupId_grouped h id (fun id' hid' he =>
      ⟨hcons id hid id' (hP id' hid').1 (hP id' hid').2 he,
        hcons id' (hP id' hid').1 id hid (hP id' hid').2.symm he.symm⟩) w
    obtain ⟨acc'', h3, h4⟩ := groupIds_grouped hnd hcons w rest (P ++ [id]) acc' (by simp [← hL]) h2
    exact ⟨acc'', by rw [groupIds, Go.bind_ok _ h1, h3], h4⟩

end Grouping

/-! ## The deletion loop -/

/-- The deployment without the roles `rs`, and their instances. -/
def Deployment.withoutRoles (rs : List Str) (d : Deployment) : Deployment :=
  { d with roleList := d.roleList.filter (· ∉ rs),
           roleInstanceList := d.roleInstanceList.filter (· ∉ rs) }

/-- What one iteration of the deletion loop (`stopService`) leaves of the
service `s` when no request fails. -/
def stopServiceEffect (del : Option (List Str)) (s : HostedService) : Option HostedService :=
  match s.deployments with
  | [d] =>
    match del.map (·.filter (· ∈ d.roleList.dedup)) with
    | none => none
    | some rs =>
      if rs.length = d.roleList.dedup.length then none
      else some (updateDeployment d.name (Deployment.withoutRoles rs) s)
  | _ => some s

/-- The cloud with each service named `n` replaced by what `f` makes of it. -/
def replaceService (n : Str) (f : HostedService → Option HostedService) (ss : List HostedService) :
    List HostedService :=
  ss.filterMap fun t => if t.serviceName = n then f t else some t

section Lists

variable {α : Type} {p : α → Prop} [DecidablePred p]

theorem find?_map_ite {f : α → α} (hf : ∀ a, p (f a) ↔ p a) :
    ∀ l : List α, (l.map fun a => if p a then f a else a).find? (fun a => decide (p a)) =
      (l.find? fun a => decide (p a)).map f
  | [] => rfl
  | a :: l => by
    by_cases ha : p a
    · simp [ha, hf]
    · simp [ha, find?_map_ite hf l]

theorem map_ite_map_ite {f g : α → α} (hg : ∀ a, p (g a) ↔ p a) (l : List α) :
    ((l.map fun a => if p a then g a else a).map fun a => if p a then f a else a) =
      l.map fun a => if p a then f (g a) else a := by
  simp only [List.map_map]
  refine List.map_congr_left fun a _ => ?_
  by_cases ha : p a <;> simp [ha, hg]

end Lists

theorem findService_updateService {n : Str} {f : HostedService → HostedService}
    (hf : ∀ s, (f s).serviceName = s.serviceName) (ss : List HostedService) :
    findService (updateService n f ss) n = (findService ss n).map f := by
  unfold findService updateService
  exact @find?_map_ite _ (fun s => s.serviceName = n) _ f (fun s => by simp only [hf]) ss

theorem find?_updateDeployment {dn : Str} {f : Deployment → Deployment}
    (hf : ∀ d, (f d).name = d.name) (s : HostedService) :
    (updateDeployment dn f s).deployments.find? (fun d => d.name = dn) =
      (s.deployments.find? fun d => d.name = dn).map f := by
  unfold updateDeployment
  exact @find?_map_ite _ (fun d => d.name = dn) _ f (fun d => by simp only [hf]) s.deployments

theorem updateService_updateService {n : Str} {f g : HostedService → HostedService}
    (hg : ∀ s, (g s).serviceName = s.serviceName) (ss : List HostedService) :
    updateService n f (updateService n g ss) = updateService n (f ∘ g) ss :=
  map_ite_map_ite (fun s => by rw [hg]) ss

theorem updateDeployment_comp {dn : Str} {f g : Deployment → Deployment}
    (hg : ∀ d, (g d).name = d.name) :
    updateDeployment dn f ∘ updateDeployment dn g = updateDeployment dn (f ∘ g) := by
  funext s
  simp only [Function.comp, updateDeployment]
  rw [map_ite_map_ite (fun d => by rw [hg])]

theorem Deployment.withoutRoles_withoutRole (r : Str) (rs : List Str) :
    Deployment.withoutRoles rs ∘ Deployment.withoutRole r = Deployment.withoutRoles (r :: rs) := by
  funext d
  simp only [Function.comp, Deployment.withoutRoles, Deployment.withoutRole, List.filter_filter,
    List.mem_cons, not_or]
  congr 2 <;> funext a <;> simp [Bool.and_comm]

section NoFault

variable {cur : List HostedService}

theorem deleteHostedService_nofault {n : Str} (h : ∃ t ∈ cur, t.serviceName = n) :
    deleteHostedService n ⟨cur, []⟩ = (.ok (), ⟨cur.filter fun t => t.serviceName ≠ n, []⟩) := by
  simp [deleteHostedService, request, h]

theorem deleteRole_nofault {n dn r : Str} {s : HostedService} {d : Deployment}
    (hs : findService cur n = some s) (hd : s.deployments.find? (fun d => d.name = dn) = some d)
    (hr : r ∈ d.roleList) :
    deleteRole n dn r ⟨cur, []⟩ =
      (.ok (), ⟨updateService n (updateDeployment dn (Deployment.withoutRole r)) cur, []⟩) := by
  simp [deleteRole, request, hs, hd, hr]

theorem deleteRoles_nofault {n dn : Str} : ∀ {rs : List Str} {cur : List HostedService}
    {s : HostedService} {d : Deployment}, findService cur n = some s →
    s.deployments.find? (fun d => d.name = dn) = some d → rs.Nodup → rs ⊆ d.roleList →
    deleteRoles n dn rs ⟨cur, []⟩ =
      (.ok (), ⟨updateService n (updateDeployment dn (Deployment.withoutRoles rs)) cur, []⟩)
  | [], cur, _, _, _, _, _, _ => by
    simp [deleteRoles, Deployment.withoutRoles, updateDeployment, updateService]
  | r :: rs, cur, s, d, hs, hd, hnd, hsub => by
    have hs' : findService (updateService n (updateDeployment dn (Deployment.withoutRole r)) cur) n =
        some (updateDeployment dn (Deployment.withoutRole r) s) := by
      rw [findService_updateService, hs, Option.map_some']
      exact fun _ => rfl
    have hd' : (updateDeployment dn (Deployment.withoutRole r) s).deployments.find?
        (fun d => d.name = dn) = some (d.withoutRole r) := by
      rw [find?_updateDeployment, hd, Option.map_some']
      exact fun _ => rfl
    have hsub' : rs ⊆ (d.withoutRole r).roleList := fun r' hr' =>
      List.mem_filter.mpr ⟨hsub (List.mem_cons_of_mem _ hr'),
        decide_eq_true fun e => (List.nodup_cons.mp hnd).1 (e ▸ hr')⟩
    rw [deleteRoles, Go.bind_ok _ (deleteRole_nofault hs hd (hsub (List.mem_cons_self _ _))),
      deleteRoles_nofault hs' hd' (List.nodup_cons.mp hnd).2 hsub', updateService_updateService,
      updateDeployment_comp, Deployment.withoutRoles_withoutRole]
    all_goals exact fun _ => rfl

theorem replaceService_of_none {n : Str} {f : HostedService → Option HostedService}
    (h : ∀ t ∈ cur, t.serviceName = n → f t = none) :
    replaceService n f cur = cur.filter fun t => t.serviceName ≠ n := by
  rw [← List.filterMap_eq_filter]
  refine List.filterMap_congr fun t ht => ?_
  by_cases e : t.serviceName = n <;> simp [e, h t ht, Option.guard]

theorem replaceService_of_some {n : Str} {f : HostedService → Option HostedService}
    {g : HostedService → HostedService} (h : ∀ t ∈ cur, t.serviceName = n → f t = some (g t)) :
    replaceService n f cur = updateService n g cur := by
  rw [updateService, ← List.filterMap_eq_map]
  refine List.filterMap_congr fun t ht => ?_
  by_cases e : t.serviceName = n <;> simp [e, h t ht]

/-- One iteration of the deletion loop, on the service `s` named `n`, with a
set of role names to delete. -/
theorem stopService_nofault {n : Str} {s : HostedService} {del : Option (List Str)}
    (hu : (cur.map (·.serviceName)).Nodup) (hs : findService cur n = some s)
    (hdel : ∀ rs ∈ del, rs.Nodup) :
    stopService del n ⟨cur, []⟩ = (.ok (), ⟨replaceService n (stopServiceEffect del) cur, []⟩) := by
  have hsame : ∀ t ∈ cur, t.serviceName = n → t = s := fun t ht htn =>
    findService_unique hu hs ht htn
  have hex : ∃ t ∈ cur, t.serviceName = n := ⟨s, (findService_some hs).1, (findService_some hs).2⟩
  rw [stopService, Go.bind_ok _ (getHostedServiceProperties_found cur hs)]
  rcases hd : s.deployments with _ | ⟨d, _ | ⟨d', ds⟩⟩
  case cons.nil =>
    rcases del with _ | rs
    · simp only [Option.map_none']
      rw [deleteHostedService_nofault hex, replaceService_of_none fun t ht htn => by
        rw [hsame t ht htn]; simp only [stopServiceEffect, hd, Option.map_none']]
    · simp only [Option.map_some']
      by_cases hl : (rs.filter (· ∈ d.roleList.dedup)).length = d.roleList.dedup.length
      · rw [if_pos hl, deleteHostedService_nofault hex, replaceService_of_none fun t ht htn => by
          rw [hsame t ht htn]; simp only [stopServiceEffect, hd, Option.map_some', hl, if_true]]
      · have hfind : s.deployments.find? (fun d' => d'.name = d.name) = some d := by simp [hd]
        have hrest : ∀ t ∈ cur, t.serviceName = n → stopServiceEffect (some rs) t = some
            (updateDeployment d.name (Deployment.withoutRoles (rs.filter (· ∈ d.roleList.dedup))) t) :=
          fun t ht htn => by
            rw [hsame t ht htn]; simp only [stopServiceEffect, hd, Option.map_some', hl, if_false]
        rw [if_neg hl, deleteRoles_nofault hs hfind ((hdel rs rfl).filter _)
            fun r hr => List.mem_dedup.mp (by simpa using (List.mem_filter.mp hr).2),
          replaceService_of_some hrest]
  all_goals
    have hkeep : ∀ t ∈ cur, t.serviceName = n → stopServiceEffect del t = some (id t) :=
      fun t ht htn => by rw [hsame t ht htn]; simp only [stopServiceEffect, hd, id]
    rw [replaceService_of_some hkeep]
    simp [updateService]

/-- The effect of an iteration of the deletion loop reads the role names to
delete as a set. -/
theorem stopServiceEffect_perm {rs rs' : List Str} (hp : rs.Perm rs') (t : HostedService) :
    stopServiceEffect (some rs') t = stopServiceEffect (some rs) t := by
  have hw : ∀ p : Str → Bool,
      Deployment.withoutRoles (rs'.filter p) = Deployment.withoutRoles (rs.filter p) := by
    intro p
    funext d
    simp only [Deployment.withoutRoles, List.mem_filter, hp.mem_iff]
  unfold stopServiceEffect
  split
  · simp only [Option.map_some', (hp.filter _).length_eq, hw]
  · rfl

/-- **Go's map order does not matter.** `StopInstances` deletes a
service's roles in the order Go ranges over its map of role names, which is
not fixed; when no request fails, every order of the names has the same
outcome. -/
theorem stopService_perm {n : Str} {rs rs' : List Str} (hp : rs.Perm rs') (hnd : rs.Nodup)
    (hu : (cur.map (·.serviceName)).Nodup) (hs : ∃ s ∈ cur, s.serviceName = n) :
    stopService (some rs') n ⟨cur, []⟩ = stopService (some rs) n ⟨cur, []⟩ := by
  obtain ⟨s, hm, rfl⟩ := hs
  have hf := findService_of_mem hu hm
  rw [stopService_nofault hu hf (by simpa using hp.nodup_iff.mp hnd),
    stopService_nofault hu hf (by simpa using hnd), funext (stopServiceEffect_perm hp)]

/-- Two of a current service's three roles, deleted in either order. -/
theorem stopService_perm_twoRoles :
    let cur : List HostedService := [⟨"juju-e-a".toList, [],
      [⟨"juju-e-a-v2".toList, ["r1".toList, "r2".toList, "r3".toList],
        ["r1".toList, "r2".toList, "r3".toList]⟩]⟩]
    stopService (some ["r2".toList, "r1".toList]) "juju-e-a".toList ⟨cur, []⟩ =
      stopService (some ["r1".toList, "r2".toList]) "juju-e-a".toList ⟨cur, []⟩ :=
  stopService_perm (by decide) (by decide) (by decide) ⟨_, List.mem_singleton_self _, rfl⟩

end NoFault

theorem stopServiceEffect_name {del : Option (List Str)} {t u : HostedService}
    (h : stopServiceEffect del t = some u) : u.serviceName = t.serviceName := by
  unfold stopServiceEffect at h
  split at h
  · split at h
    · cases h
    · split at h
      · cases h
      · cases h; rfl
  · cases h; rfl

theorem filterMap_names_sublist {g : HostedService → Option HostedService}
    (hg : ∀ t u, g t = some u → u.serviceName = t.serviceName) :
    ∀ ss : List HostedService, ((ss.filterMap g).map (·.serviceName)).Sublist (ss.map (·.serviceName))
  | [] => List.Sublist.slnil
  | t :: ss => by
    cases h : g t with
    | none =>
      simp only [List.filterMap_cons, h, List.map_cons]
      exact (filterMap_names_sublist hg ss).cons _
    | some u =>
      simp only [List.filterMap_cons, h, List.map_cons, hg t u h]
      exact (filterMap_names_sublist hg ss).cons₂ _

/-- The deletion loop over distinct services of the cloud, after it has gone
through the services `done`: each service goes through `stopServiceEffect`
once. -/
theorem stopServices_nofault (m : RoleMap) (hm : ∀ n, ∀ rs ∈ (m n).join, rs.Nodup)
    {ss : List HostedService} (hu : (ss.map (·.serviceName)).Nodup) :
    ∀ (ns done : List Str), (done ++ ns).Nodup → (∀ n ∈ ns, ∃ s ∈ ss, s.serviceName = n) →
      stopServices m ns ⟨ss.filterMap fun t => if t.serviceName ∈ done then
          stopServiceEffect (m t.serviceName).join t else some t, []⟩ =
        (.ok (), ⟨ss.filterMap fun t => if t.serviceName ∈ done ++ ns then
          stopServiceEffect (m t.serviceName).join t else some t, []⟩)
  | [], done, _, _ => by simp [stopServices]
  | n :: ns, done, hnd, hex => by
    obtain ⟨s, hs, rfl⟩ := hex n (List.mem_cons_self _ _)
    have hn : s.serviceName ∉ done := fun h =>
      (List.nodup_append.mp hnd).2.2 h (List.mem_cons_self _ _)
    have hcur : ((ss.filterMap fun t => if t.serviceName ∈ done then
        stopServiceEffect (m t.serviceName).join t else some t).map (·.serviceName)).Nodup :=
      (filterMap_names_sublist (fun t u h => by
        split at h
        · exact stopServiceEffect_name h
        · cases h; rfl) ss).nodup hu
    have hfind := findService_of_mem hcur (List.mem_filterMap.mpr ⟨s, hs, by simp [hn]⟩ : s ∈ _)
    have ih := stopServices_nofault m hm hu ns (done ++ [s.serviceName]) (by simpa using hnd)
      fun n hn => hex n (List.mem_cons_of_mem _ hn)
    rw [List.append_assoc, List.singleton_append] at ih
    rw [stopServices, Go.bind_ok _ (stopService_nofault hcur hfind (hm _)), replaceService,
      List.filterMap_filterMap, ← ih]
    congr 3
    funext t
    by_cases htd : t.serviceName ∈ done
    · have hts : t.serviceName ≠ s.serviceName := fun e => hn (e ▸ htd)
      cases h : stopServiceEffect (m t.serviceName).join t with
      | none => simp [htd, h]
      | some u => simp [htd, h, stopServiceEffect_name h, hts]
    · by_cases hts : t.serviceName = s.serviceName <;> simp [htd, hts, hn]

/-! ## The deletion loop does what stopping should do -/

section Agreement

variable {envName : Str} {ids : List Str} {ss : List HostedService}
  (hu : (ss.map (·.serviceName)).Nodup)
  (hroles : ∀ hs ∈ ss, ∀ d ∈ hs.deployments, [] ∉ d.roleList)
  (hids : ∀ id ∈ ids, InstanceIdOf ss envName id)

include hids in
theorem roleNamed_decode {t : HostedService} (ht : CreatedFor envName t) {r : Str}
    (h : roleNamed ids t r = true) : ∃ id ∈ ids, (splitInstanceId envName id).1 = t.serviceName := by
  obtain ⟨x, hx, hname⟩ := ht
  unfold roleNamed at h
  split at h
  · rename_i i hi
    refine ⟨i.instanceId, by simpa using h, ?_⟩
    rcases getInstance_instanceId hi with e | e | e <;> rw [e]
    · rw [hname, splitInstanceId_legacy envName x hx.dash_not_mem]
    · rw [hname, List.append_assoc, splitInstanceId_current_service envName x r hx.dash_not_mem]
    · obtain ⟨hs, -, x', -, hname', d, -, ⟨-, -, he⟩ | ⟨-, r', -, -, he⟩⟩ :=
        hids [] (by simpa [e] using h) <;> simp [hname', getEnvPrefix] at he
  · cases h

include hids in
theorem stopEffect_of_not_named {t : HostedService}
    (ht : ¬∃ id ∈ ids, (splitInstanceId envName id).1 = t.serviceName) :
    stopEffect envName ids t = some t := by
  unfold stopEffect
  split
  · rw [if_neg]
    rintro ⟨hc, hany⟩
    obtain ⟨r, -, hr⟩ := List.any_eq_true.mp hany
    exact ht (roleNamed_decode hids hc hr)
  · rfl

include hu hroles hids in
theorem ids_of_current {t : HostedService} (ht : t ∈ ss) {d : Deployment}
    (hd : t.deployments = [d]) (hv2 : d.name = deploymentNameV2 t.serviceName) {id : Str}
    (hid : id ∈ ids) (hn : (splitInstanceId envName id).1 = t.serviceName) :
    ∃ r ∈ d.roleList, id = t.serviceName ++ '-' :: r ∧
      splitInstanceId envName id = (t.serviceName, r) := by
  obtain ⟨-, d', hd', ⟨hv1, -⟩ | ⟨-, r, hr, -, he, hsp⟩⟩ :=
    (hids id hid).decode_of_mem hu hroles ht hn <;> rw [hd, List.singleton_inj] at hd'
  · exact absurd (hv1.symm.trans (hd' ▸ hv2)) (deploymentNameV1_ne_V2 _)
  · exact ⟨r, hd' ▸ hr, he, hsp⟩

include hu hroles hids in
/-- On a current service, the roles whose ids are named are the role set
the grouping loop gathered for it, and all of them are roles of the service. -/
theorem Grouped.roleNamed_iff {acc : RoleMap × List Str} (g : Grouped envName ids acc)
    {t : HostedService} (ht : t ∈ ss) (hc : CreatedFor envName t) {d : Deployment}
    (hd : t.deployments = [d]) (hv2 : d.name = deploymentNameV2 t.serviceName) {rs : List Str}
    (ha : acc.1 t.serviceName = some (some rs)) :
    (∀ r, roleNamed ids t r = true ↔ r ∈ rs) ∧ rs ⊆ d.roleList.dedup := by
  obtain ⟨-, hrs, -⟩ := g.roles _ rs ha
  have hcur := @ids_of_current _ _ _ hu hroles hids _ ht _ hd hv2
  refine ⟨fun r => ?_, fun r hr => ?_⟩
  · obtain ⟨i, hi, hiid, -⟩ := getInstance_current r hd hv2
    obtain ⟨x, hx, hname⟩ := hc
    rw [roleNamed_of_getInstance hi, hiid, decide_eq_true_iff, hrs]
    constructor
    · intro hm
      obtain ⟨r', -, he, hsp⟩ := hcur hm (by
        rw [hname, List.append_assoc, splitInstanceId_current_service envName x r hx.dash_not_mem])
      obtain rfl := (List.cons.inj (List.append_cancel_left he)).2
      exact ⟨_, hm, hsp⟩
    · rintro ⟨id, hid, hsp⟩
      obtain ⟨r', -, he, hsp'⟩ := hcur hid (by rw [hsp])
      obtain rfl := (Prod.mk.inj (hsp.symm.trans hsp')).2
      exact he ▸ hid
  · obtain ⟨id, hid, hsp⟩ := (hrs r).mp hr
    obtain ⟨r', hr', -, hsp'⟩ := hcur hid (by rw [hsp])
    obtain rfl := (Prod.mk.inj (hsp.symm.trans hsp')).2
    exact List.mem_dedup.mpr hr'

include hu hroles hids in
/-- A service the grouping loop gathered roles for is a current service the
environment made, with one of its roles among them. -/
theorem Grouped.current {acc : RoleMap × List Str} (g : Grouped envName ids acc)
    {t : HostedService} (ht : t ∈ ss) (hT : t.serviceName ∈ acc.2) {rs : List Str}
    (ha : acc.1 t.serviceName = some (some rs)) :
    CreatedFor envName t ∧ ∃ d, t.deployments = [d] ∧ d.name = deploymentNameV2 t.serviceName ∧
      ∃ r ∈ d.roleList, r ∈ rs := by
  obtain ⟨-, hrs, hnoleg⟩ := g.roles _ rs ha
  obtain ⟨id0, hid0, hsp0⟩ := (g.mem _).mp hT
  obtain ⟨hc, d, hd, ⟨-, -, -, hsp'⟩ | ⟨hv2, r0, hr0m, -, -, hsp'⟩⟩ :=
    (hids id0 hid0).decode_of_mem hu hroles ht hsp0
  · exact absurd (by rw [hsp']) (hnoleg id0 hid0 hsp0)
  · exact ⟨hc, d, hd, hv2, r0, hr0m, (hrs r0).mpr ⟨id0, hid0, hsp'⟩⟩

include hu hroles hids in
/-- On a service an id decodes to, the deletion loop does what `stopEffect`
says, with the role set the grouping loop gathered. -/
theorem stopServiceEffect_eq_stopEffect {acc : RoleMap × List Str} (g : Grouped envName ids acc)
    {t : HostedService} (ht : t ∈ ss) (hT : t.serviceName ∈ acc.2) :
    stopServiceEffect (acc.1 t.serviceName).join t = stopEffect envName ids t := by
  rcases ha : acc.1 t.serviceName with _ | _ | rs
  · exact absurd hT ((g.none_iff _).mp ha)
  · obtain ⟨id, hid, hsp⟩ := g.legacy _ ha
    obtain ⟨hc, d, hd, ⟨hv1, hlen, rfl, -⟩ | ⟨-, r, -, hr0, -, hsp'⟩⟩ :=
      (hids id hid).decode_of_mem hu hroles ht (by rw [hsp])
    · obtain ⟨r0, hr0⟩ := List.length_eq_one.mp hlen
      obtain ⟨i, hi, hiid, -⟩ := getInstance_legacy r0 hd hv1 hr0
      simp [stopServiceEffect, stopEffect, hd, hr0, hc, roleNamed_of_getInstance hi, hiid, hid]
    · rw [hsp'] at hsp
      exact absurd (Prod.mk.inj hsp).2 hr0
  · obtain ⟨hrsnd, -, -⟩ := g.roles _ rs ha
    obtain ⟨hc, d, hd, hv2, r0, hr0m, hr0⟩ := g.current hu hroles hids ht hT ha
    obtain ⟨key, hsub⟩ := g.roleNamed_iff hu hroles hids ht hc hd hv2 ha
    have hfilter : rs.filter (· ∈ d.roleList.dedup) = rs := List.filter_eq_self.mpr fun r hr => by
      simpa using hsub hr
    have hany : d.roleList.any (roleNamed ids t) = true :=
      List.any_eq_true.mpr ⟨r0, hr0m, (key r0).mpr hr0⟩
    simp only [stopServiceEffect, stopEffect, hd, ha, Option.join, Option.some_bind, id_eq,
      Option.map_some', hfilter, hc, hany, true_and, and_self, if_true]
    by_cases hl : rs.length = d.roleList.dedup.length
    · have hall : d.roleList.all (roleNamed ids t) = true := List.all_eq_true.mpr fun r hr =>
        (key r).mpr (((List.subperm_of_subset hrsnd hsub).perm_of_length_le hl.ge).symm.subset
          (List.mem_dedup.mpr hr))
      rw [if_pos hl, if_pos hall]
    · obtain ⟨r, hr, hnr⟩ := exists_not_mem_of_length_ne (List.nodup_dedup _) hrsnd hsub hl
      have hall : ¬d.roleList.all (roleNamed ids t) = true := fun hall =>
        hnr ((key r).mp (List.all_eq_true.mp hall r (List.mem_dedup.mp hr)))
      rw [if_neg hl, if_neg hall]
      simp only [updateDeployment, hd, List.map_cons, if_true, List.map_nil, Deployment.withoutRoles]
      congr 4 <;> exact List.filter_congr fun r _ => by
        cases hb : roleNamed ids t r <;> simp [← key r, hb]

include hu hroles hids in
/-- On every service of the cloud, the deletion loop after the grouping loop
does what `stopEffect` says. -/
theorem filterMap_stopServiceEffect {acc : RoleMap × List Str} (g : Grouped envName ids acc) :
    (ss.filterMap fun t => if t.serviceName ∈ acc.2 then
      stopServiceEffect (acc.1 t.serviceName).join t else some t) =
    ss.filterMap (stopEffect envName ids) := by
  refine List.filterMap_congr fun t ht => ?_
  by_cases hT : t.serviceName ∈ acc.2
  · rw [if_pos hT, stopServiceEffect_eq_stopEffect hu hroles hids g ht hT]
  · rw [if_neg hT, stopEffect_of_not_named hids fun h => hT ((g.mem _).mpr h)]

include hu hroles hids in
/-- `StopInstances` where no request fails, on distinct ids of existing
instances: the grouping loop gathers them, and the deletion loop takes each
gathered service through `stopServiceEffect`. -/
theorem stopInstances_grouped (hnd : ids.Nodup) :
    ∃ acc : RoleMap × List Str, Grouped envName ids acc ∧
      stopInstances envName ids ⟨ss, []⟩ = (.ok (), ⟨ss.filterMap fun t =>
        if t.serviceName ∈ acc.2 then stopServiceEffect (acc.1 t.serviceName).join t else some t,
        []⟩) := by
  obtain ⟨acc, hacc, g⟩ := groupIds_grouped hnd (fun id hid id' hid' hne hn hr =>
      hne (legacy_id_unique hu hroles (hids id hid) (hids id' hid') hn hr))
    ⟨ss, []⟩ ids [] _ rfl Grouped.empty
  have hm : ∀ n, ∀ rs ∈ (acc.1 n).join, rs.Nodup := fun n rs hrs =>
    (g.roles n rs (Option.join_eq_some.mp hrs)).1
  have hex : ∀ n ∈ acc.2, ∃ s ∈ ss, s.serviceName = n := fun n hn => by
    obtain ⟨id, hid, rfl⟩ := (g.mem n).mp hn
    obtain ⟨hs, hm, -, d, -, ⟨-, -, -, hsp⟩ | ⟨-, r, -, -, -, hsp⟩⟩ := (hids id hid).decode hroles <;>
      exact ⟨hs, hm, by rw [hsp]⟩
  have h0 := stopServices_nofault acc.1 hm hu acc.2 [] g.nodup hex
  simp only [List.not_mem_nil, if_false, List.filterMap_some, List.nil_append] at h0
  exact ⟨acc, g, by rw [stopInstances, Go.bind_ok _ (getManagementAPI_nofault ss), Go.bind_ok _ hacc, h0]⟩

end Agreement

/-! ## `StopInstances` does what stopping should do -/

/-- For distinct ids of existing instances of the environment, in a cloud
with unique service names and no empty role name, `StopInstances` with no
failing request returns nil and removes exactly the named instances: of each
service, the roles whose ids are given, and the service itself when that is
all of its roles. -/
theorem stopInstances_named (envName : Str) (ids : List Str) (ss : List HostedService)
    (hu : (ss.map (·.serviceName)).Nodup)
    (hroles : ∀ hs ∈ ss, ∀ d ∈ hs.deployments, [] ∉ d.roleList)
    (hnd : ids.Nodup) (hids : ∀ id ∈ ids, InstanceIdOf ss envName id) :
    stopInstances envName ids ⟨ss, []⟩ = (.ok (), ⟨ss.filterMap (stopEffect envName ids), []⟩) := by
  obtain ⟨acc, g, h⟩ := stopInstances_grouped hu hroles hids hnd
  rw [h, filterMap_stopServiceEffect hu hroles hids g]

/-- StopInstances of the role `r1` of the current service `juju-e-abc` and of
the legacy service `juju-e-old`: the role goes, the legacy service goes. -/
theorem stopInstances_named_abc :
    let ss : List HostedService :=
      [⟨"juju-e-abc".toList, [], [⟨"juju-e-abc-v2".toList, ["r1".toList, "r2".toList],
          ["r1".toList, "r2".toList]⟩]⟩,
        ⟨"juju-e-old".toList, [], [⟨"juju-e-old".toList, ["r0".toList], ["r0".toList]⟩]⟩]
    let ids := ["juju-e-abc-r1".toList, "juju-e-old".toList]
    (ss.map (·.serviceName)).Nodup ∧ (∀ hs ∈ ss, ∀ d ∈ hs.deployments, [] ∉ d.roleList) ∧
      ids.Nodup ∧ (∀ id ∈ ids, InstanceIdOf ss "e".toList id) ∧
      stopInstances "e".toList ids ⟨ss, []⟩ =
        (.ok (), ⟨ss.filterMap (stopEffect "e".toList ids), []⟩) := by
  intro ss ids
  have hids : ∀ id ∈ ids, InstanceIdOf ss "e".toList id := by
    simp only [ids, List.mem_cons, List.mem_singleton, List.not_mem_nil, or_false, forall_eq_or_imp,
      forall_eq]
    exact ⟨⟨_, List.mem_cons_self _ _, "abc".toList, by decide, rfl, _, rfl,
        .inr ⟨rfl, "r1".toList, by simp, by decide, rfl⟩⟩,
      ⟨_, List.mem_cons_of_mem _ (List.mem_singleton_self _), "old".toList, by decide, rfl, _, rfl,
        .inl ⟨rfl, rfl, rfl⟩⟩⟩
  have hu : (ss.map (·.serviceName)).Nodup := by decide
  have hroles : ∀ hs ∈ ss, ∀ d ∈ hs.deployments, [] ∉ d.roleList := by decide
  have hnd : ids.Nodup := by decide
  exact ⟨hu, hroles, hnd, hids, stopInstances_named _ _ _ hu hroles hnd hids⟩

/-! ## Stopping every instance `AllInstances` lists -/

/-- `stopEffect` of ids that name every instance of every environment
service, each laid out and made by `newHostedService`: such a service goes
when it has a deployment, and every other service stays. -/
theorem stopEffect_of_all_named {envName : Str} {ids : List Str} {s : HostedService}
    (hall : getEnvPrefix envName <+: s.serviceName → Layout s ∧ CreatedFor envName s ∧
      ∀ r ∈ serviceRoles s, ∀ i, getInstance s r = .ok i → i.instanceId ∈ ids) :
    stopEffect envName ids s = Option.guard (fun s => (!(getEnvPrefix envName).isPrefixOf s.serviceName ||
      s.deployments.isEmpty) = true) s := by
  by_cases hp : getEnvPrefix envName <+: s.serviceName
  · obtain ⟨hl, hc, hids⟩ := hall hp
    rcases hl with h0 | ⟨d, hd, hk⟩
    · simp [stopEffect, h0, Option.guard, List.isPrefixOf_iff_prefix.mpr hp]
    have hnamed : ∀ r ∈ d.roleList, roleNamed ids s r = true := fun r hr => by
      obtain ⟨i, hi⟩ := getInstance_ok_of_layout ⟨d, hd, hk.imp id And.left⟩ r
      rw [roleNamed_of_getInstance hi, decide_eq_true_iff]
      exact hids r (by simpa [serviceRoles, hd]) i hi
    have hne : d.roleList ≠ [] := by
      rcases hk with ⟨-, hlen⟩ | ⟨-, hne⟩
      exacts [List.ne_nil_of_length_eq_add_one hlen, hne]
    obtain ⟨r0, hr0⟩ := List.exists_mem_of_ne_nil _ hne
    simp [stopEffect, hd, hc, Option.guard, List.isPrefixOf_iff_prefix.mpr hp,
      List.any_eq_true.mpr ⟨r0, hr0, hnamed r0 hr0⟩, List.all_eq_true.mpr hnamed]
  · have hc : ¬CreatedFor envName s := fun ⟨x, _, hn⟩ => hp (hn ▸ List.prefix_append _ _)
    have hp' : (getEnvPrefix envName).isPrefixOf s.serviceName = false :=
      Bool.eq_false_iff.mpr fun h => hp (List.isPrefixOf_iff_prefix.mp h)
    unfold stopEffect
    split <;> simp [hc, hp', Option.guard]

/-- Stopping every instance `AllInstances` lists, in a laid-out cloud whose
environment services `newHostedService` made, with role names over gwacl's
alphabet and none empty: `StopInstances` returns nil and deletes exactly the
environment's services that have a deployment, and `AllInstances` then
finds no instance. -/
theorem stopInstances_allInstances (envName : Str) (ss : List HostedService)
    (h : LayoutInv envName ss)
    (hmade : ∀ hs ∈ ss, getEnvPrefix envName <+: hs.serviceName →
      CreatedFor envName hs ∧ ∀ d ∈ hs.deployments, ∀ r ∈ d.roleList, IsIdent r)
    (hroles : ∀ hs ∈ ss, ∀ d ∈ hs.deployments, [] ∉ d.roleList) :
    ∃ is, allInstances envName ⟨ss, []⟩ = (.ok is, ⟨ss, []⟩) ∧
      let ss' := ss.filter fun s =>
        !(getEnvPrefix envName).isPrefixOf s.serviceName || s.deployments.isEmpty
      stopInstances envName (is.map (·.instanceId)) ⟨ss, []⟩ = (.ok (), ⟨ss', []⟩) ∧
      allInstances envName ⟨ss', []⟩ = (.ok [], ⟨ss', []⟩) := by
  obtain ⟨is, his, -, hnd⟩ := allInstances_of_layoutInv h
  have hmem := allInstances_mem h.nodup his
  have hids : ∀ id ∈ is.map (·.instanceId), InstanceIdOf ss envName id := fun id hid => by
    obtain ⟨i, hi, rfl⟩ := List.mem_map.mp hid
    exact instanceIdOf_of_allInstances h hmade his hi
  obtain ⟨acc, g, hstop⟩ := stopInstances_grouped h.nodup hroles hids hnd
  refine ⟨is, his, ?_, ?_⟩
  · rw [hstop, filterMap_stopServiceEffect h.nodup hroles hids g,
      List.filterMap_congr fun s hs => stopEffect_of_all_named fun hp => ⟨(h.tidy s hs hp).1,
        (hmade s hs hp).1, fun r hr i hi => List.mem_map_of_mem _ ((hmem i).mpr ⟨s, hs, hp, r, hr, hi⟩)⟩,
      List.filterMap_eq_filter]
  · obtain ⟨is', his', hpairs, -⟩ := allInstances_of_layoutInv (h.filter _)
    have hnil : ∀ s ∈ ss.filter (fun s => !(getEnvPrefix envName).isPrefixOf s.serviceName ||
        s.deployments.isEmpty), (getEnvPrefix envName).isPrefixOf s.serviceName = true →
        serviceRoles s = [] := fun s hs hp => by
      have hk := (List.mem_filter.mp hs).2
      simp only [hp, Bool.not_true, Bool.false_or, List.isEmpty_iff] at hk
      simp [serviceRoles, hk]
    rw [List.flatMap_eq_nil_iff.mpr fun s hs => by
      rw [hnil s (List.mem_filter.mp hs).1 (List.mem_filter.mp hs).2, List.map_nil],
      List.map_eq_nil_iff] at hpairs
    rwa [hpairs] at his'

/-- Stopping everything `AllInstances` lists in a cloud with a current
service `juju-e-abc` with two roles, a legacy service `juju-e-old`, a new
service `juju-e-new` without deployment and a service `juju-f-zz` of another
environment: the first two go. -/
theorem stopInstances_allInstances_abc :
    let ss : List HostedService :=
      [⟨"juju-e-abc".toList, [], [⟨"juju-e-abc-v2".toList, ["r1".toList, "r2".toList],
          ["r1".toList, "r2".toList]⟩]⟩,
        ⟨"juju-e-old".toList, [], [⟨"juju-e-old".toList, ["r0".toList], ["r0".toList]⟩]⟩,
        ⟨"juju-e-new".toList, [], []⟩,
        ⟨"juju-f-zz".toList, [], [⟨"juju-f-zz-v2".toList, ["q".toList], ["q".toList]⟩]⟩]
    LayoutInv "e".toList ss ∧
      (∀ hs ∈ ss, getEnvPrefix "e".toList <+: hs.serviceName →
        CreatedFor "e".toList hs ∧ ∀ d ∈ hs.deployments, ∀ r ∈ d.roleList, IsIdent r) ∧
      (∀ hs ∈ ss, ∀ d ∈ hs.deployments, [] ∉ d.roleList) ∧
      ∃ is, allInstances "e".toList ⟨ss, []⟩ = (.ok is, ⟨ss, []⟩) ∧
        let ss' := ss.filter fun s =>
          !(getEnvPrefix "e".toList).isPrefixOf s.serviceName || s.deployments.isEmpty
        stopInstances "e".toList (is.map (·.instanceId)) ⟨ss, []⟩ = (.ok (), ⟨ss', []⟩) ∧
        allInstances "e".toList ⟨ss', []⟩ = (.ok [], ⟨ss', []⟩) := by
  intro ss
  have h : LayoutInv "e".toList ss := ⟨by decide, fun hs hm hp => by
    simp only [ss, List.mem_cons, List.mem_singleton, List.not_mem_nil, or_false] at hm
    rcases hm with rfl | rfl | rfl | rfl
    · exact ⟨.inr ⟨_, rfl, .inr ⟨rfl, by simp⟩⟩, ⟨"abc".toList, by decide, rfl⟩, by decide⟩
    · exact ⟨.inr ⟨_, rfl, .inl ⟨rfl, rfl⟩⟩, ⟨"old".toList, by decide, rfl⟩, by decide⟩
    · exact ⟨.inl rfl, ⟨"new".toList, by decide, rfl⟩, by decide⟩
    · exact absurd hp (by decide)⟩
  have hmade : ∀ hs ∈ ss, getEnvPrefix "e".toList <+: hs.serviceName →
      CreatedFor "e".toList hs ∧ ∀ d ∈ hs.deployments, ∀ r ∈ d.roleList, IsIdent r := by
    decide
  have hroles : ∀ hs ∈ ss, ∀ d ∈ hs.deployments, [] ∉ d.roleList := by decide
  exact ⟨h, hmade, hroles, stopInstances_allInstances _ _ h hmade hroles⟩

/-! ## Stopping some of the instances `AllInstances` lists -/

theorem find?_filter_eq_self {l : List Str} {p : Str → Bool} {r : Str} (hp : p r = true) :
    (l.filter p).find? (· = r) = l.find? (· = r) := by
  rw [List.find?_filter]
  congr 1
  funext a
  by_cases ha : a = r <;> simp [ha, hp]

theorem getInstance_filter_roles {s : HostedService} {d : Deployment} (hd : s.deployments = [d])
    (hv2 : d.name = deploymentNameV2 s.serviceName) (p : Str → Bool) {r : Str} (hp : p r = true) :
    getInstance { s with deployments := [{ d with
      roleList := d.roleList.filter p, roleInstanceList := d.roleInstanceList.filter p }] } r =
      getInstance s r := by
  rw [getInstance_of_current hd hv2]
  refine Eq.trans (getInstance_of_current (by rfl) (by exact hv2) r) ?_
  rw [find?_filter_eq_self hp]

theorem stopEffect_serviceName {envName : Str} {ids : List Str} {s t : HostedService}
    (h : stopEffect envName ids s = some t) : t.serviceName = s.serviceName := by
  unfold stopEffect at h
  split at h
  · split_ifs at h <;> cases h <;> rfl
  · cases h; rfl

/-- What `stopEffect` leaves of a laid-out service the environment made has
as instances exactly the service's instances whose ids are not named. -/
theorem stopEffect_listed {envName : Str} {ids : List Str} {s : HostedService}
    (hl : Layout s) (hc : CreatedFor envName s) (j : AzureInstance) :
    (∃ t, stopEffect envName ids s = some t ∧ ∃ r ∈ serviceRoles t, getInstance t r = .ok j) ↔
      (∃ r ∈ serviceRoles s, getInstance s r = .ok j) ∧ j.instanceId ∉ ids := by
  rcases hl with h0 | ⟨d, hd, hk⟩
  · simp [stopEffect, serviceRoles, h0]
  have hnamed : ∀ r, getInstance s r = .ok j → (roleNamed ids s r = false ↔ j.instanceId ∉ ids) :=
    fun r hr => by simp [roleNamed_of_getInstance hr]
  have hsr : serviceRoles s = d.roleList := by simp [serviceRoles, hd]
  by_cases hany : d.roleList.any (roleNamed ids s) = true
  · by_cases hall : d.roleList.all (roleNamed ids s) = true
    · -- every role is named: the service goes
      have he : stopEffect envName ids s = none := by simp [stopEffect, hd, hc, hany, hall]
      simp only [he, reduceCtorEq, false_and, exists_false, false_iff, not_and, not_not, hsr]
      rintro ⟨r, hr, hg⟩
      exact not_not.mp ((hnamed r hg).not.mp (by simp [List.all_eq_true.mp hall r hr]))
    · -- some roles are named: a legacy service has one, so the service is current
      have hv2 : d.name = deploymentNameV2 s.serviceName := by
        rcases hk with ⟨-, hlen⟩ | ⟨hv2, -⟩
        · obtain ⟨r0, hr0⟩ := List.length_eq_one.mp hlen
          simp only [hr0, List.any_cons, List.any_nil, List.all_cons, List.all_nil, Bool.or_false,
            Bool.and_true] at hany hall
          exact absurd hany hall
        · exact hv2
      have he : stopEffect envName ids s = some { s with deployments := [{ d with
          roleList := d.roleList.filter (!roleNamed ids s ·),
          roleInstanceList := d.roleInstanceList.filter (!roleNamed ids s ·) }] } := by
        simp [stopEffect, hd, hc, hany, hall]
      rw [he, hsr]
      simp only [Option.some.injEq, exists_eq_left', serviceRoles, List.mem_filter]
      constructor
      · rintro ⟨r, ⟨hr, hkeep⟩, hg⟩
        rw [getInstance_filter_roles hd hv2 _ hkeep] at hg
        exact ⟨⟨r, hr, hg⟩, (hnamed r hg).mp (by simpa using hkeep)⟩
      · rintro ⟨⟨r, hr, hg⟩, hid⟩
        have hkeep : (!roleNamed ids s r) = true := by simpa using (hnamed r hg).mpr hid
        exact ⟨r, ⟨hr, hkeep⟩, (getInstance_filter_roles hd hv2 _ hkeep).trans hg⟩
  · -- no role is named: the service stays
    have he : stopEffect envName ids s = some s := by simp [stopEffect, hd, hany]
    simp only [he, Option.some.injEq, exists_eq_left', hsr]
    refine ⟨fun ⟨r, hr, hg⟩ => ⟨⟨r, hr, hg⟩, (hnamed r hg).mp ?_⟩, And.left⟩
    simpa using fun h => hany (List.any_eq_true.mpr ⟨r, hr, h⟩)

/-- On a cloud whose environment services are laid out and made by
`newHostedService`, the instances listed after `stopEffect` are those listed
before whose ids are not named. -/
theorem listed_filterMap_stopEffect {envName : Str} {ids : List Str} {ss : List HostedService}
    (htidy : ∀ s ∈ ss, Tidy envName s)
    (hmade : ∀ s ∈ ss, getEnvPrefix envName <+: s.serviceName → CreatedFor envName s)
    (j : AzureInstance) :
    Listed envName (ss.filterMap (stopEffect envName ids)) j ↔
      Listed envName ss j ∧ j.instanceId ∉ ids := by
  simp only [Listed, List.mem_filterMap]
  constructor
  · rintro ⟨t, ⟨s, hs, ht⟩, hp, hj⟩
    rw [stopEffect_serviceName ht] at hp
    obtain ⟨hj, hid⟩ := (stopEffect_listed (htidy s hs hp).1 (hmade s hs hp) j).mp ⟨t, ht, hj⟩
    exact ⟨⟨s, hs, hp, hj⟩, hid⟩
  · rintro ⟨⟨s, hs, hp, hj⟩, hid⟩
    obtain ⟨t, ht, hj⟩ := (stopEffect_listed (htidy s hs hp).1 (hmade s hs hp) j).mpr ⟨hj, hid⟩
    exact ⟨t, ⟨s, hs, ht⟩, (stopEffect_serviceName ht).symm ▸ hp, hj⟩

/-- `StopInstances` with no failing request, of distinct ids of existing
instances, in a laid-out cloud whose environment services `newHostedService`
made: it leaves `stopEffect`'s cloud, laid out, where `AllInstances` lists,
up to order, what it listed before less the instances of the ids. -/
theorem stopInstances_listing {envName : Str} {ids : List Str} {ss : List HostedService}
    (h : LayoutInv envName ss)
    (hmade : ∀ s ∈ ss, getEnvPrefix envName <+: s.serviceName → CreatedFor envName s)
    (hroles : ∀ hs ∈ ss, ∀ d ∈ hs.deployments, [] ∉ d.roleList) (hnd : ids.Nodup)
    (hids : ∀ id ∈ ids, InstanceIdOf ss envName id) :
    let ss' := ss.filterMap (stopEffect envName ids)
    stopInstances envName ids ⟨ss, []⟩ = (.ok (), ⟨ss', []⟩) ∧ LayoutInv envName ss' ∧
      ∀ is, allInstances envName ⟨ss, []⟩ = (.ok is, ⟨ss, []⟩) →
        ∃ is', allInstances envName ⟨ss', []⟩ = (.ok is', ⟨ss', []⟩) ∧
          is'.Perm (is.filter fun i => i.instanceId ∉ ids) := by
  obtain ⟨acc, g, hstop⟩ := stopInstances_grouped h.nodup hroles hids hnd
  rw [filterMap_stopServiceEffect h.nodup hroles hids g] at hstop
  have h' : LayoutInv envName (ss.filterMap (stopEffect envName ids)) := by
    have h' := ((stopInstances_triple ids).run ⟨ss, []⟩ h).1
    rwa [hstop] at h'
  refine ⟨hstop, h', fun is his => allInstances_perm_of_listed h'
    (((allInstances_nodup h his).of_map _).filter _) fun j => ?_⟩
  rw [listed_filterMap_stopEffect h.tidy hmade, listed_iff_mem h his, List.mem_filter,
    decide_eq_true_iff]

/-- Stopping some of the instances `AllInstances` lists removes exactly those
from its list. In a laid-out cloud whose environment services
`newHostedService` made, with role names over gwacl's alphabet and none
empty, `StopInstances` with no failing request, of any distinct ids among
those `AllInstances` lists, returns nil, and `AllInstances` then lists, up to
order, what it listed before less the instances of those ids. -/
theorem allInstances_stopInstances (envName : Str) (ss : List HostedService)
    (h : LayoutInv envName ss)
    (hmade : ∀ hs ∈ ss, getEnvPrefix envName <+: hs.serviceName →
      CreatedFor envName hs ∧ ∀ d ∈ hs.deployments, ∀ r ∈ d.roleList, IsIdent r)
    (hroles : ∀ hs ∈ ss, ∀ d ∈ hs.deployments, [] ∉ d.roleList) :
    ∃ is, allInstances envName ⟨ss, []⟩ = (.ok is, ⟨ss, []⟩) ∧
      ∀ ids : List Str, ids.Nodup → (∀ id ∈ ids, id ∈ is.map (·.instanceId)) →
        ∃ ss' is', stopInstances envName ids ⟨ss, []⟩ = (.ok (), ⟨ss', []⟩) ∧
          allInstances envName ⟨ss', []⟩ = (.ok is', ⟨ss', []⟩) ∧
          is'.Perm (is.filter fun i => i.instanceId ∉ ids) := by
  obtain ⟨is, his, -⟩ := allInstances_of_layoutInv h
  refine ⟨is, his, fun ids hndids hsub => ?_⟩
  have hids : ∀ id ∈ ids, InstanceIdOf ss envName id := fun id hid => by
    obtain ⟨i, hi, rfl⟩ := List.mem_map.mp (hsub id hid)
    exact instanceIdOf_of_allInstances h hmade his hi
  obtain ⟨hstop, -, hlist⟩ :=
    stopInstances_listing h (fun s hs hp => (hmade s hs hp).1) hroles hndids hids
  obtain ⟨is', his', hperm⟩ := hlist is his
  exact ⟨_, is', hstop, his', hperm⟩

/-- Stopping among what `AllInstances` lists in a cloud with a current
service `juju-e-abc` with two roles, one of them running, and a service
`juju-f-zz` of another environment. -/
theorem allInstances_stopInstances_abc :
    let ss : List HostedService :=
      [⟨"juju-e-abc".toList, [], [⟨"juju-e-abc-v2".toList, ["r1".toList, "r2".toList],
          ["r1".toList]⟩]⟩,
        ⟨"juju-f-zz".toList, [], [⟨"juju-f-zz-v2".toList, ["q".toList], ["q".toList]⟩]⟩]
    LayoutInv "e".toList ss ∧
      (∀ hs ∈ ss, getEnvPrefix "e".toList <+: hs.serviceName →
        CreatedFor "e".toList hs ∧ ∀ d ∈ hs.deployments, ∀ r ∈ d.roleList, IsIdent r) ∧
      (∀ hs ∈ ss, ∀ d ∈ hs.deployments, [] ∉ d.roleList) ∧
      ∃ is, allInstances "e".toList ⟨ss, []⟩ = (.ok is, ⟨ss, []⟩) ∧
        ∀ ids : List Str, ids.Nodup → (∀ id ∈ ids, id ∈ is.map (·.instanceId)) →
          ∃ ss' is', stopInstances "e".toList ids ⟨ss, []⟩ = (.ok (), ⟨ss', []⟩) ∧
            allInstances "e".toList ⟨ss', []⟩ = (.ok is', ⟨ss', []⟩) ∧
            is'.Perm (is.filter fun i => i.instanceId ∉ ids) := by
  intro ss
  have h : LayoutInv "e".toList ss := ⟨by decide, fun hs hm hp => by
    simp only [ss, List.mem_cons, List.mem_singleton, List.not_mem_nil, or_false] at hm
    rcases hm with rfl | rfl
    · exact ⟨.inr ⟨_, rfl, .inr ⟨rfl, by simp⟩⟩, ⟨"abc".toList, by decide, rfl⟩, by decide⟩
    · exact absurd hp (by decide)⟩
  have hmade : ∀ hs ∈ ss, getEnvPrefix "e".toList <+: hs.serviceName →
      CreatedFor "e".toList hs ∧ ∀ d ∈ hs.deployments, ∀ r ∈ d.roleList, IsIdent r := by
    decide
  have hroles : ∀ hs ∈ ss, ∀ d ∈ hs.deployments, [] ∉ d.roleList := by decide
  exact ⟨h, hmade, hroles, allInstances_stopInstances _ _ h hmade hroles⟩

end Juju.Azure
