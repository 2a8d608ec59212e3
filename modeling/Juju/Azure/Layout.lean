import Mathlib.Logic.Relation
import Mathlib.Data.List.Perm.Subperm
import Juju.Azure.Create
import Juju.Azure.Instances

/-!
# The layout of the environment's cloud services, over every run

`getInstance` reads an instance back only from a service with one
deployment, and a legacy deployment (`deploymentNameV1`) only with one role.
`Layout` says a service is laid out so: no deployment, one legacy
deployment with one role, or one current deployment with at least one role.
`LayoutInv` adds what `AllInstances` needs to tell instances apart: unique
service names, names `prefix ++ x` with no `-` in `x`, and no role twice in a
deployment.

`StartInstance` adds the role to the first deployment of the service the
distribution group picks. When that is a legacy service, the legacy
deployment gets a second role and `getInstance` rejects it from then on
(`startInstance_legacy_pick`).

Results:
* `layout_reachable`: from a cloud where `LayoutInv` holds, every run of
  `StartInstance` calls (random names over gwacl's alphabet, a distribution
  group that does not pick a legacy service) and `StopInstances` calls (any
  ids), whatever requests fail on the way, keeps `LayoutInv`; and
  `AllInstances` in a session where no request fails then returns one
  instance per role of the environment's services, with pairwise distinct
  ids.
* `startInstance_legacy_pick`: a distribution group that picks a legacy
  service breaks the layout, and `AllInstances` fails from then on.
-/
namespace Juju.Azure

/-- The layouts `getInstance` reads: no deployment, one legacy deployment
with one role, or one current deployment with at least one role. -/
def Layout (hs : HostedService) : Prop :=
  hs.deployments = [] ∨ ∃ d, hs.deployments = [d] ∧
    ((d.name = deploymentNameV1 hs.serviceName ∧ d.roleList.length = 1) ∨
      (d.name = deploymentNameV2 hs.serviceName ∧ d.roleList ≠ []))

/-- A service of the environment (its name carries the prefix) is laid out,
is named `prefix ++ x` with no `-` in `x`, and holds no role twice. -/
def Tidy (envName : Str) (hs : HostedService) : Prop :=
  getEnvPrefix envName <+: hs.serviceName →
    Layout hs ∧ (∃ x, '-' ∉ x ∧ hs.serviceName = getEnvPrefix envName ++ x) ∧
      ∀ d ∈ hs.deployments, d.roleList.Nodup

/-- The invariant: unique service names, and every service tidy. -/
structure LayoutInv (envName : Str) (ss : List HostedService) : Prop where
  nodup : (ss.map (·.serviceName)).Nodup
  tidy : ∀ hs ∈ ss, Tidy envName hs

/-- A service with a legacy deployment. -/
def Legacy (hs : HostedService) : Prop :=
  ∃ d ∈ hs.deployments, d.name = deploymentNameV1 hs.serviceName

instance (hs : HostedService) : Decidable (Legacy hs) :=
  inferInstanceAs (Decidable (∃ d ∈ hs.deployments, _))

/-- No service named `n` is legacy. -/
def NoLegacyAt (ss : List HostedService) (n : Str) : Prop :=
  ∀ hs ∈ ss, hs.serviceName = n → ¬Legacy hs

/-! ## The invariant under the cloud's updates -/

theorem updateService_names (n : Str) {f : HostedService → HostedService}
    (hf : ∀ hs, (f hs).serviceName = hs.serviceName) (ss : List HostedService) :
    (updateService n f ss).map (·.serviceName) = ss.map (·.serviceName) := by
  simp only [updateService, List.map_map]
  exact List.map_congr_left fun hs _ => by dsimp only [Function.comp]; split <;> simp [hf]

theorem findService_unique {ss : List HostedService} {n : Str} {hs hs' : HostedService}
    (hu : (ss.map (·.serviceName)).Nodup) (hf : findService ss n = some hs) (hm : hs' ∈ ss)
    (hn : hs'.serviceName = n) : hs' = hs := by
  obtain ⟨hm', hn'⟩ := findService_some hf
  exact List.inj_on_of_nodup_map hu hm hm' (hn.trans hn'.symm)

namespace LayoutInv

variable {envName : Str} {ss : List HostedService}

theorem filter (h : LayoutInv envName ss) (p : HostedService → Bool) :
    LayoutInv envName (ss.filter p) :=
  ⟨((List.filter_sublist ss).map _).nodup h.nodup, fun hs hm => h.tidy hs (List.mem_of_mem_filter hm)⟩

theorem append (h : LayoutInv envName ss) {hs : HostedService}
    (hn : ¬ss.any fun s => s.serviceName = hs.serviceName) (ht : Tidy envName hs) :
    LayoutInv envName (ss ++ [hs]) := by
  refine ⟨?_, fun s hm => (List.mem_append.mp hm).elim (h.tidy s) fun e => ?_⟩
  · simp only [List.map_append, List.map_cons, List.map_nil, List.nodup_append, List.nodup_singleton,
      List.disjoint_singleton, true_and, h.nodup, List.mem_map]
    simpa using hn
  · rwa [List.mem_singleton.mp e]

theorem update (h : LayoutInv envName ss) {n : Str} {f : HostedService → HostedService}
    (hname : ∀ hs, (f hs).serviceName = hs.serviceName)
    (ht : ∀ hs ∈ ss, hs.serviceName = n → Tidy envName (f hs)) :
    LayoutInv envName (updateService n f ss) := by
  refine ⟨(updateService_names n hname ss).symm ▸ h.nodup, fun s hm => ?_⟩
  obtain ⟨hs, hs_mem, rfl⟩ := List.mem_map.mp hm
  split
  · exact ht hs hs_mem ‹_›
  · exact h.tidy hs hs_mem

end LayoutInv

theorem mem_updateDeployment {hs : HostedService} {dn : Str} {f : Deployment → Deployment}
    {d' : Deployment} (h : d' ∈ (updateDeployment dn f hs).deployments) :
    ∃ d ∈ hs.deployments, d' = if d.name = dn then f d else d := by
  obtain ⟨d, hd, rfl⟩ := List.mem_map.mp h
  exact ⟨d, hd, rfl⟩

/-- Changing the deployment `dn` keeps the layout when the change keeps its
name and a role, and one role in a legacy deployment. -/
theorem Layout.updateDeployment {hs : HostedService} {dn : Str} {f : Deployment → Deployment}
    (h : Layout hs) (hf : ∀ d ∈ hs.deployments, d.name = dn → (f d).name = d.name ∧
      (f d).roleList ≠ [] ∧ (d.name = deploymentNameV1 hs.serviceName → (f d).roleList.length = 1)) :
    Layout (updateDeployment dn f hs) := by
  rcases h with h | ⟨d, hd, hk⟩
  · left
    simp [Juju.Azure.updateDeployment, h]
  · right
    refine ⟨if d.name = dn then f d else d, by simp [Juju.Azure.updateDeployment, hd], ?_⟩
    split_ifs with hdn
    · obtain ⟨hn, hne, h1⟩ := hf d (by simp [hd]) hdn
      rcases hk with ⟨hv1, -⟩ | ⟨hv2, -⟩
      · exact .inl ⟨hn.trans hv1, h1 hv1⟩
      · exact .inr ⟨hn.trans hv2, hne⟩
    · exact hk

theorem Tidy.updateDeployment {envName dn : Str} {hs : HostedService} {f : Deployment → Deployment}
    (h : Tidy envName hs) (hl : Layout hs → Layout (Juju.Azure.updateDeployment dn f hs))
    (hn : Layout hs → ∀ d ∈ hs.deployments, d.name = dn → d.roleList.Nodup → (f d).roleList.Nodup) :
    Tidy envName (Juju.Azure.updateDeployment dn f hs) := fun hp => by
  obtain ⟨hlay, hx, hnd⟩ := h hp
  refine ⟨hl hlay, hx, fun d' hd' => ?_⟩
  obtain ⟨d, hd, rfl⟩ := mem_updateDeployment hd'
  split_ifs with hdn
  · exact hn hlay d hd hdn (hnd d hd)
  · exact hnd d hd

/-! ## What each request does to the invariant -/

section Requests

variable {envName : Str} {P : List HostedService → Prop}

theorem getManagementAPI_triple (hP : ∀ ss, P ss → LayoutInv envName ss) :
    Go.Triple P getManagementAPI (LayoutInv envName) fun ss _ => P ss :=
  (Go.Triple.read (fun _ => rfl) hP).weaken (fun _ h => h) fun _ _ _ h => h.1

theorem getHostedServiceProperties_triple (n : Str) (hP : ∀ ss, P ss → LayoutInv envName ss) :
    Go.Triple P (getHostedServiceProperties n) (LayoutInv envName)
      fun ss hs => P ss ∧ findService ss n = some hs :=
  (Go.Triple.read (fun ss => by split <;> rfl) hP).weaken (fun _ h => h)
    fun ss hs _ ⟨hp, h⟩ => ⟨hp, by revert h; split <;> simp_all⟩

theorem checkHostedServiceNameAvailability_triple (n : Str)
    (hP : ∀ ss, P ss → LayoutInv envName ss) :
    Go.Triple P (checkHostedServiceNameAvailability n) (LayoutInv envName) fun ss _ => P ss :=
  (Go.Triple.read (fun ss => by split <;> rfl) hP).weaken (fun _ h => h)
    fun _ _ _ h => h.1

theorem findService_append_fresh {ss : List HostedService} {hs : HostedService}
    (hn : ¬ss.any fun s => s.serviceName = hs.serviceName) :
    findService (ss ++ [hs]) hs.serviceName = some hs := by
  have : ss.find? (fun s => s.serviceName = hs.serviceName) = none := by
    simpa [List.find?_eq_none] using hn
  simp [findService, List.find?_append, this]

theorem addHostedService_triple (name label : Str) (ht : Tidy envName ⟨name, label, []⟩) :
    Go.Triple (LayoutInv envName) (addHostedService name label) (LayoutInv envName)
      fun ss _ => findService ss name = some ⟨name, label, []⟩ :=
  Go.Triple.request (fun _ h => h) fun ss h => by
    split
    · exact ⟨h, fun _ ha => by cases ha⟩
    · rename_i hn
      exact ⟨h.append hn ht, fun _ _ => findService_append_fresh hn⟩

/-- `AddDeployment` of a current deployment with roles into a service
without deployment. -/
theorem addDeployment_triple {d : Deployment} {n : Str} (hs : HostedService)
    (hd : d.name = deploymentNameV2 n) (hr : d.roleList ≠ []) (hnd : d.roleList.Nodup) :
    Go.Triple (fun ss => LayoutInv envName ss ∧ findService ss n = some hs ∧ hs.deployments = [])
      (addDeployment d n) (LayoutInv envName) fun _ _ => True :=
  Go.Triple.request (fun _ h => h.1) fun ss ⟨h, hf, hde⟩ => by
    simp only [addDeployment, hf]
    refine ⟨h.update (fun _ => rfl) fun s hm hn hp => ?_, fun _ _ => trivial⟩
    obtain rfl := findService_unique h.nodup hf hm hn
    obtain ⟨-, hx, -⟩ := h.tidy s hm hp
    refine ⟨.inr ⟨{ d with roleInstanceList := d.roleList }, by simp [hde], .inr ⟨by simp [hd, hn], hr⟩⟩,
      hx, ?_⟩
    simpa [hde] using hnd

/-- `AddRole` into the first deployment of a service that is not legacy. -/
theorem addRole_triple (n r : Str) {hs : HostedService} {d : Deployment} {ds : List Deployment} :
    Go.Triple (fun ss => LayoutInv envName ss ∧ findService ss n = some hs ∧
        hs.deployments = d :: ds ∧ ¬Legacy hs)
      (addRole n d.name r) (LayoutInv envName) fun _ _ => True :=
  Go.Triple.request (fun _ h => h.1) fun ss ⟨h, hf, hde, hleg⟩ => by
    have hfind : hs.deployments.find? (fun d' => d'.name = d.name) = some d := by simp [hde]
    simp only [addRole, hf, Option.some_bind, hfind]
    split
    · exact ⟨h, fun _ ha => by cases ha⟩
    · rename_i hrn
      refine ⟨h.update (fun _ => rfl) fun s hm hn => ?_, fun _ _ => trivial⟩
      obtain rfl := findService_unique h.nodup hf hm hn
      refine (h.tidy s hm).updateDeployment (fun hl => hl.updateDeployment fun d' hd' _ =>
        ⟨rfl, by simp [Deployment.withRole], fun hv1 => absurd ⟨d', hd', hv1⟩ hleg⟩)
        fun hl d' hd' _ hnd => ?_
      have hds : ds = [] := by
        rcases hl with h0 | ⟨d0, h0, -⟩ <;> rw [hde] at h0
        · cases h0
        · exact (List.cons_eq_cons.mp h0).2
      rw [hde, hds, List.mem_singleton] at hd'
      subst hd'
      exact List.nodup_append.mpr ⟨hnd, List.nodup_singleton _, by simpa using hrn⟩

theorem deleteHostedService_triple (n : Str) :
    Go.Triple (LayoutInv envName) (deleteHostedService n) (LayoutInv envName) fun _ _ => True :=
  Go.Triple.request (fun _ h => h) fun ss h => by
    split
    · exact ⟨h.filter _, fun _ _ => trivial⟩
    · exact ⟨h, fun _ _ => trivial⟩

/-- Every deployment `dn` of the service `n` keeps a role that `rs` does not
name. -/
def Survives (n dn : Str) (rs : List Str) (ss : List HostedService) : Prop :=
  ∀ hs ∈ ss, hs.serviceName = n → ∀ d ∈ hs.deployments, d.name = dn → ∃ r0 ∈ d.roleList, r0 ∉ rs

theorem Layout.legacy_length {hs : HostedService} {d : Deployment} (h : Layout hs)
    (hd : d ∈ hs.deployments) (hv1 : d.name = deploymentNameV1 hs.serviceName) :
    d.roleList.length = 1 := by
  rcases h with h | ⟨d0, h0, hk⟩
  · simp [h] at hd
  · rw [h0, List.mem_singleton] at hd
    subst hd
    rcases hk with ⟨-, hl⟩ | ⟨hv2, -⟩
    · exact hl
    · exact absurd (hv1.symm.trans hv2) (deploymentNameV1_ne_V2 _)

/-- `DeleteRole` of a role the deployment can spare. -/
theorem deleteRole_triple (n dn r : Str) (rest : List Str) :
    Go.Triple (fun ss => LayoutInv envName ss ∧ Survives n dn (r :: rest) ss) (deleteRole n dn r)
      (LayoutInv envName) fun ss _ => LayoutInv envName ss ∧ Survives n dn rest ss :=
  Go.Triple.request (fun _ h => h.1) fun ss ⟨h, hsv⟩ => by
    have hkeep : ∀ s ∈ ss, s.serviceName = n → ∀ d ∈ s.deployments, d.name = dn →
        ∃ r0 ∈ (d.withoutRole r).roleList, r0 ∉ rest := fun s hm hn d hd hdn => by
      obtain ⟨r0, hr0, hn0⟩ := hsv s hm hn d hd hdn
      simp only [List.mem_cons, not_or] at hn0
      exact ⟨r0, List.mem_filter.mpr ⟨hr0, by simpa using hn0.1⟩, hn0.2⟩
    have hinv : LayoutInv envName (updateService n (updateDeployment dn (Deployment.withoutRole r)) ss) :=
      h.update (fun _ => rfl) fun s hm hn =>
        (h.tidy s hm).updateDeployment (fun hl => hl.updateDeployment fun d hd hdn => by
          obtain ⟨r0, hr0, -⟩ := hkeep s hm hn d hd hdn
          refine ⟨rfl, List.ne_nil_of_mem hr0, fun hv1 => ?_⟩
          obtain ⟨a, ha⟩ := List.length_eq_one.mp (hl.legacy_length hd hv1)
          simp only [Deployment.withoutRole, ha, List.mem_filter, List.mem_singleton] at hr0 ⊢
          obtain ⟨rfl, hne⟩ := hr0
          have : r0 ≠ r := by simpa using hne
          simp [this])
        fun _ _ _ _ hnd => hnd.filter _
    split
    · split
      · refine ⟨hinv, fun _ _ => ⟨hinv, fun s' hm' hn' d' hd' hdn' => ?_⟩⟩
        obtain ⟨s, hm, rfl⟩ := List.mem_map.mp hm'
        have hn : s.serviceName = n := by split at hn' <;> simpa using hn'
        rw [if_pos hn] at hd'
        obtain ⟨d, hd, rfl⟩ := mem_updateDeployment hd'
        split_ifs at hdn' ⊢ with hdn
        · exact hkeep s hm hn d hd hdn
        · exact absurd hdn' hdn
      · exact ⟨h, fun _ ha => by cases ha⟩
    · exact ⟨h, fun _ ha => by cases ha⟩

theorem deleteRoles_triple (n dn : Str) : ∀ rs : List Str,
    Go.Triple (fun ss => LayoutInv envName ss ∧ Survives n dn rs ss) (deleteRoles n dn rs)
      (LayoutInv envName) fun _ _ => True
  | [] => Go.Triple.pure () fun _ h => ⟨h.1, trivial⟩
  | r :: rs => Go.Triple.bind (deleteRole_triple n dn r rs) fun _ =>
      (deleteRoles_triple n dn rs).weaken (fun _ h => h.2) fun _ _ _ _ => trivial

theorem exists_not_mem_of_length_ne {l rs : List Str} (hl : l.Nodup) (hrs : rs.Nodup)
    (hsub : rs ⊆ l) (hne : rs.length ≠ l.length) : ∃ r ∈ l, r ∉ rs := by
  by_contra h
  push_neg at h
  exact hne (le_antisymm (List.subperm_of_subset hrs hsub).length_le
    (List.subperm_of_subset hl h).length_le)

/-- One service of `StopInstances`, with a set of role names to delete. -/
theorem stopService_triple (del : Option (List Str)) (n : Str) (hdel : ∀ rs ∈ del, rs.Nodup) :
    Go.Triple (LayoutInv envName) (stopService del n) (LayoutInv envName) fun _ _ => True :=
  Go.Triple.bind (getHostedServiceProperties_triple n fun _ h => h) fun hs => by
    split
    · rename_i d hd
      dsimp only
      split
      · exact (deleteHostedService_triple n).weaken (fun _ h => h.1) fun _ _ _ h => h
      · rename_i rs' hrs'
        split
        · exact (deleteHostedService_triple n).weaken (fun _ h => h.1) fun _ _ _ h => h
        · rename_i hlen
          obtain ⟨rs, hrs, rfl⟩ := Option.map_eq_some'.mp hrs'
          obtain ⟨r0, hr0, hn0⟩ := exists_not_mem_of_length_ne (List.nodup_dedup _)
            ((hdel rs hrs).filter _) (fun r hr => by simpa using (List.mem_filter.mp hr).2) hlen
          refine (deleteRoles_triple n d.name _).weaken (fun ss h => ⟨h.1, ?_⟩)
            fun _ _ _ _ => trivial
          intro s hm hn d' hd' _
          obtain rfl := findService_unique h.1.nodup h.2.2 hm hn
          rw [hd, List.mem_singleton] at hd'
          exact ⟨r0, hd' ▸ List.mem_dedup.mp hr0, hn0⟩
    · exact Go.Triple.pure () fun _ h => ⟨h.1, trivial⟩

/-- The role sets of `StopInstances` hold no name twice. -/
def RoleMap.Nodup (m : RoleMap) : Prop := ∀ n rs, m n = some (some rs) → rs.Nodup

theorem RoleMap.Nodup.update {m : RoleMap} (h : m.Nodup) (k : Str) {v : Option (Option (List Str))}
    (hv : ∀ rs, v = some (some rs) → rs.Nodup) : RoleMap.Nodup (Function.update m k v) := by
  intro n rs hn
  by_cases hk : n = k
  · subst hk
    exact hv rs (by simpa using hn)
  · exact h n rs (by simpa [hk] using hn)

theorem stopServices_triple (m : RoleMap) (hm : m.Nodup) : ∀ ns : List Str,
    Go.Triple (LayoutInv envName) (stopServices m ns) (LayoutInv envName) fun _ _ => True
  | [] => Go.Triple.pure () fun _ h => ⟨h, trivial⟩
  | n :: ns => Go.Triple.bind (stopService_triple _ n fun rs hrs => hm n rs
        (Option.join_eq_some.mp hrs)) fun _ =>
      (stopServices_triple m hm ns).weaken (fun _ h => h.1) fun _ _ _ _ => trivial

theorem groupId_triple (acc : RoleMap × List Str) (hacc : acc.1.Nodup) (id : Str) :
    Go.Triple (LayoutInv envName) (groupId envName acc id) (LayoutInv envName)
      fun _ acc' => acc'.1.Nodup := by
  unfold groupId
  dsimp only
  split
  · exact Go.Triple.pure _ fun _ h => ⟨h, hacc.update _ fun _ h => by cases h⟩
  · split
    · exact Go.Triple.pure _ fun _ h => ⟨h, hacc.update _ fun rs h => by
        cases h; exact List.nodup_singleton _⟩
    · exact Go.Triple.crash _ fun _ h => h
    · rename_i rs hrs
      exact Go.Triple.pure _ fun _ h => ⟨h, hacc.update _ fun rs' h => by
        cases h
        unfold List.insert
        split
        · exact hacc _ rs hrs
        · rename_i hx
          exact List.nodup_cons.mpr ⟨by simpa using hx, hacc _ rs hrs⟩⟩

theorem groupIds_triple : ∀ (ids : List Str) (acc : RoleMap × List Str), acc.1.Nodup →
    Go.Triple (LayoutInv envName) (groupIds envName acc ids) (LayoutInv envName)
      fun _ acc' => acc'.1.Nodup
  | [], acc, h => Go.Triple.pure acc fun _ hi => ⟨hi, h⟩
  | id :: ids, acc, h => Go.Triple.bind (groupId_triple acc h id) fun acc' w hw =>
      groupIds_triple ids acc' hw.2 w hw.1

theorem stopInstances_triple (ids : List Str) :
    Go.Triple (LayoutInv envName) (stopInstances envName ids) (LayoutInv envName)
      fun _ _ => True :=
  Go.Triple.bind (getManagementAPI_triple fun _ h => h) fun _ =>
    Go.Triple.bind ((groupIds_triple ids _ fun _ _ h => by cases h).weaken (fun _ h => h.1)
      fun _ _ _ h => h) fun acc => fun w hw => stopServices_triple acc.1 hw.2 acc.2 w hw.1

/-! ## Creating instances -/

theorem tidy_fresh {name label : Str} (hname : ∃ x, '-' ∉ x ∧ name = getEnvPrefix envName ++ x) :
    Tidy envName ⟨name, label, []⟩ :=
  fun _ => ⟨.inl rfl, hname, fun _ hd => absurd hd (List.not_mem_nil _)⟩

/-- A service created empty and still there. -/
def CreatedEmpty (ss : List HostedService) (name : Str) : Prop :=
  ∃ hs, findService ss name = some hs ∧ hs.deployments = []

theorem attemptCreateService_triple (name label : Str)
    (hname : ∃ x, '-' ∉ x ∧ name = getEnvPrefix envName ++ x) :
    Go.Triple (LayoutInv envName) (attemptCreateService name label) (LayoutInv envName)
      fun ss r => ∀ n, r = some n → CreatedEmpty ss n :=
  Go.Triple.bind (checkHostedServiceNameAvailability_triple name fun _ h => h).attempt fun r => by
    cases r with
    | error e => exact Go.Triple.pure none fun _ h => ⟨h.1, fun _ hn => by cases hn⟩
    | ok u =>
      exact Go.Triple.bind ((addHostedService_triple name _ (tidy_fresh hname)).weaken
        (fun _ h => h.1) fun _ _ _ h => h) fun _ =>
        Go.Triple.pure _ fun _ h => ⟨h.1, fun _ hn => by cases hn; exact ⟨_, h.2, rfl⟩⟩

theorem createServiceLoop_triple (label : Str) (draw : Nat → Str) (hdraw : ∀ k, IsIdent (draw k)) :
    ∀ tries, Go.Triple (LayoutInv envName) (createServiceLoop (getEnvPrefix envName) label draw tries)
      (LayoutInv envName) fun ss r => ∀ n, r = some n → CreatedEmpty ss n
  | 0 => Go.Triple.pure none fun _ h => ⟨h, fun _ hn => by cases hn⟩
  | tries + 1 => Go.Triple.bind (attemptCreateService_triple _ label
      ⟨_, (hdraw (tries + 1)).dash_not_mem, rfl⟩) fun r => by
    cases r with
    | some name => exact Go.Triple.pure _ fun _ h => ⟨h.1, h.2⟩
    | none =>
      exact (createServiceLoop_triple label draw hdraw tries).weaken (fun _ h => h.1)
        fun _ _ _ h => h

/-- `newHostedService` returns the empty service it created, as the cloud
holds it. -/
theorem newHostedService_triple (label : Str) (draw : Nat → Str) (hdraw : ∀ k, IsIdent (draw k)) :
    Go.Triple (LayoutInv envName) (newHostedService (getEnvPrefix envName) label draw)
      (LayoutInv envName) fun ss hs => findService ss hs.serviceName = some hs ∧ hs.deployments = [] :=
  Go.Triple.bind (createServiceLoop_triple label draw hdraw 10).attempt fun r => by
    rcases r with e | _ | name
    · exact Go.Triple.throw _ fun _ h => h.1
    · exact Go.Triple.throw _ fun _ h => h.1
    · refine (getHostedServiceProperties_triple name fun _ h => h.1).weaken (fun _ h => h)
        fun ss hs _ ⟨⟨_, hc⟩, hf⟩ => ?_
      obtain ⟨hs', hf', hd⟩ := hc _ rfl name rfl
      rw [hf] at hf'
      cases hf'
      exact ⟨(findService_some hf).2.symm ▸ hf, hd⟩

/-- `createInstance` keeps the invariant unless it adds the role to a legacy
service. -/
theorem createInstance_triple (draw : Nat → Str) (hdraw : ∀ k, IsIdent (draw k))
    (roleName serviceName : Str) (stateServer : Bool) :
    Go.Triple (fun ss => LayoutInv envName ss ∧ (serviceName ≠ [] → NoLegacyAt ss serviceName))
      (createInstance envName draw roleName serviceName stateServer) (LayoutInv envName)
      fun _ _ => True := by
  refine Go.Triple.deferOnError ?_ (Go.Triple.pure () fun _ h => ⟨h, trivial⟩)
  refine Go.Triple.bind (?_ : Go.Triple _ _ _
    fun ss (hs : HostedService) => findService ss hs.serviceName = some hs ∧ ¬Legacy hs) fun hs => ?_
  · by_cases hn : serviceName ≠ []
    · rw [if_pos hn]
      refine (getHostedServiceProperties_triple serviceName fun _ h => h.1).weaken (fun _ h => h)
        fun ss hs _ ⟨⟨_, hleg⟩, hf⟩ => ?_
      obtain ⟨hm, hname⟩ := findService_some hf
      exact ⟨hname ▸ hf, hleg hn hs hm hname⟩
    · rw [if_neg hn]
      exact (newHostedService_triple _ draw hdraw).weaken (fun _ h => h.1)
        fun _ hs _ ⟨hf, hd⟩ => ⟨hf, fun ⟨d, hd', _⟩ => by simp [hd] at hd'⟩
  · split
    · rename_i hd
      refine Go.Triple.deferOnError ?_ (deleteHostedService_triple _)
      refine Go.Triple.bind ((addDeployment_triple hs rfl (List.cons_ne_nil _ _)
        (List.nodup_singleton _)).weaken (fun _ h => ⟨h.1, h.2.1, hd⟩) fun _ _ _ h => h) fun _ =>
        Go.Triple.ofExcept _ fun _ h => ⟨h.1, fun _ _ => trivial⟩
    · rename_i d ds hd
      exact Go.Triple.bind ((addRole_triple _ roleName).weaken (fun _ h => ⟨h.1, h.2.1, hd, h.2.2⟩)
        fun _ _ _ h => h) fun _ => Go.Triple.ofExcept _ fun _ h => ⟨h.1, fun _ _ => trivial⟩

/-- The distribution group, when `StartInstance` reads it, does not pick a
legacy service. -/
def NoLegacyPick (envName : Str) (availabilitySetsEnabled : Bool) (args : StartInstanceParams)
    (ss : List HostedService) : Prop :=
  ∀ ids, args.distributionGroup = some (.ok ids) → availabilitySetsEnabled = true →
    NoLegacyAt ss (pickCloudServiceName envName ids)

/-- `StartInstance` keeps the invariant, whatever the faults, when gwacl's
random names are over its alphabet and the distribution group does not pick
a legacy service. -/
theorem startInstance_triple (availabilitySetsEnabled : Bool) (draw : Nat → Str)
    (hdraw : ∀ k, IsIdent (draw k)) (roleName : Str) (args : StartInstanceParams) :
    Go.Triple (fun ss => LayoutInv envName ss ∧ NoLegacyPick envName availabilitySetsEnabled args ss)
      (startInstance envName availabilitySetsEnabled draw roleName args) (LayoutInv envName)
      fun _ _ => True := by
  unfold startInstance
  set P : List HostedService → Prop :=
    fun ss => LayoutInv envName ss ∧ NoLegacyPick envName availabilitySetsEnabled args ss
  have hP : ∀ ss, P ss → LayoutInv envName ss := fun _ h => h.1
  have hkeep : ∀ r : Except AzErr Unit,
      Go.Triple (fun ss => LayoutInv envName ss ∧ P ss) (Go.ofExcept r) (LayoutInv envName)
        fun ss _ => P ss := fun r => Go.Triple.ofExcept r fun _ h => ⟨h.1, fun _ _ => h.2⟩
  refine Go.Triple.bind (?_ : Go.Triple _ _ _ fun ss (_ : Unit) => P ss) fun _ =>
    Go.Triple.bind (hkeep _) fun _ =>
    Go.Triple.bind (?_ : Go.Triple _ _ _ fun ss (_ : Unit) => P ss) fun _ =>
    Go.Triple.bind (hkeep _) fun _ =>
    Go.Triple.bind ((getManagementAPI_triple fun _ h => h.1).weaken (fun _ h => h.2)
      fun _ _ _ h => h) fun _ =>
    Go.Triple.bind (hkeep _) fun _ =>
    Go.Triple.bind (?_ : Go.Triple _ _ _
      fun ss (c : Str) => LayoutInv envName ss ∧ (c ≠ [] → NoLegacyAt ss c)) fun c =>
    (createInstance_triple draw hdraw roleName c _).weaken (fun _ h => h.2) fun _ _ _ h => h
  · split
    · exact Go.Triple.throw _ hP
    · exact Go.Triple.pure () fun _ h => ⟨h.1, h⟩
  · split
    · exact Go.Triple.crash _ fun _ h => h.1
    · exact Go.Triple.pure () fun _ h => h
  · split
    · rename_i ids hids
      split
      · rename_i haset
        cases ids with
        | ok ids => exact Go.Triple.pure _ fun _ h => ⟨h.1, h.1, fun _ => h.2.2 ids hids haset⟩
        | error e => exact Go.Triple.throw _ fun _ h => h.1
      · exact Go.Triple.pure _ fun _ h => ⟨h.1, h.1, fun hn => absurd rfl hn⟩
    · exact Go.Triple.pure _ fun _ h => ⟨h.1, h.1, fun hn => absurd rfl hn⟩

end Requests

/-! ## Runs -/

/-- One provisioning call of the environment, whatever requests fail in it:
`StartInstance` with random names over gwacl's alphabet and a distribution
group that does not pick a legacy service, or `StopInstances` of any ids. -/
inductive Step (envName : Str) : List HostedService → List HostedService → Prop
  | start (ss : List HostedService) (availabilitySetsEnabled : Bool) (draw : Nat → Str)
      (roleName : Str) (args : StartInstanceParams) (faults : List Bool)
      (hdraw : ∀ k, IsIdent (draw k)) (hpick : NoLegacyPick envName availabilitySetsEnabled args ss) :
      Step envName ss
        (startInstance envName availabilitySetsEnabled draw roleName args ⟨ss, faults⟩).2.services
  | stop (ss : List HostedService) (ids : List Str) (faults : List Bool) :
      Step envName ss (stopInstances envName ids ⟨ss, faults⟩).2.services

theorem Step.layoutInv {envName : Str} {ss ss' : List HostedService} (h : Step envName ss ss')
    (hi : LayoutInv envName ss) : LayoutInv envName ss' := by
  cases h with
  | start aset draw roleName args faults hdraw hpick =>
    exact ((startInstance_triple aset draw hdraw roleName args).run ⟨ss, faults⟩ ⟨hi, hpick⟩).1
  | stop ids faults => exact ((stopInstances_triple ids).run ⟨ss, faults⟩ hi).1

/-! ## What AllInstances returns from a laid-out cloud -/

/-- The roles of a service with one deployment. -/
def serviceRoles (hs : HostedService) : List Str :=
  match hs.deployments with
  | [d] => d.roleList
  | _ => []

theorem map_eq_of_forall₂ {l : List α} {bs : List β} {g : β → γ} {f : α → γ} :
    List.Forall₂ (fun a b => g b = f a) l bs → bs.map g = l.map f
  | .nil => rfl
  | .cons h t => by rw [List.map_cons, List.map_cons, h, map_eq_of_forall₂ t]

section AllInstances

variable {envName : Str}

/-- A tidy service gives one instance per role, with distinct ids that decode
to the service. -/
theorem serviceInstances_tidy {hs : HostedService} (ht : Tidy envName hs)
    (hp : getEnvPrefix envName <+: hs.serviceName) :
    ∃ is, serviceInstances hs = .ok is ∧
      is.map (fun i => (i.serviceName, i.roleName)) = (serviceRoles hs).map (hs.serviceName, ·) ∧
      (is.map (·.instanceId)).Nodup ∧
      ∀ i ∈ is, (splitInstanceId envName i.instanceId).1 = hs.serviceName := by
  obtain ⟨hl, ⟨x, hx, hname⟩, hnd⟩ := ht hp
  rcases hl with h0 | ⟨d, hd, ⟨hv1, hlen⟩ | ⟨hv2, -⟩⟩
  · exact ⟨[], by simp [serviceInstances, h0], by simp [serviceRoles, h0], List.nodup_nil, by simp⟩
  · obtain ⟨r0, hr0⟩ := List.length_eq_one.mp hlen
    obtain ⟨i, hi, hid, hrole⟩ := getInstance_legacy r0 hd hv1 hr0
    refine ⟨[i], ?_, ?_, List.nodup_singleton _, ?_⟩
    · simp only [serviceInstances, hd, hr0, List.mapM_cons, hi, List.mapM_nil]
      rfl
    · simp [serviceRoles, hd, hr0, getInstance_serviceName hi, hrole]
    · simp [hid, hname, splitInstanceId_legacy envName x hx]
  · have hspec : ∀ r i, getInstance hs r = .ok i →
        i.instanceId = hs.serviceName ++ '-' :: r ∧ i.roleName = r := fun r i hi => by
      obtain ⟨i', hi', h⟩ := getInstance_current r hd hv2
      rw [hi] at hi'
      cases hi'
      exact h
    obtain ⟨is, his⟩ := mapM_of_forall fun r _ => (getInstance_current r hd hv2).imp fun _ h => h.1
    have h2 := mapM_ok his
    have hids : is.map (·.instanceId) = d.roleList.map (hs.serviceName ++ '-' :: ·) :=
      map_eq_of_forall₂ (h2.imp fun r i hi => (hspec r i hi).1)
    refine ⟨is, by simp only [serviceInstances, hd]; exact his, ?_, ?_, ?_⟩
    · rw [serviceRoles, hd]
      exact map_eq_of_forall₂ (h2.imp fun r i hi => by
        rw [getInstance_serviceName hi, (hspec r i hi).2])
    · rw [hids]
      exact (hnd d (by simp [hd])).map fun a b h => by simpa using h
    · refine forall₂_right (h2.imp fun r i hi => ?_)
      rw [(hspec r i hi).1, hname, List.append_assoc, splitInstanceId_current_service envName x r hx]

theorem allInstancesLoop_tidy {ss : List HostedService} (h : LayoutInv envName ss) :
    ∀ l : List HostedService, (∀ s ∈ l, s ∈ ss ∧ getEnvPrefix envName <+: s.serviceName) →
    (l.map (·.serviceName)).Nodup →
    ∃ is, allInstancesLoop (l.map (·.serviceName)) ⟨ss, []⟩ = (.ok is, ⟨ss, []⟩) ∧
      is.map (fun i => (i.serviceName, i.roleName)) =
        l.flatMap (fun s => (serviceRoles s).map (s.serviceName, ·)) ∧
      (is.map (·.instanceId)).Nodup ∧
      ∀ i ∈ is, ∃ s ∈ l, (splitInstanceId envName i.instanceId).1 = s.serviceName
  | [], _, _ => ⟨[], rfl, rfl, List.nodup_nil, by simp⟩
  | s :: l, hl, hnd => by
    obtain ⟨hm, hp⟩ := hl s (List.mem_cons_self _ _)
    obtain ⟨is, hsi, hpairs, hids, hsplit⟩ := serviceInstances_tidy (h.tidy s hm) hp
    obtain ⟨rest, hrest, hpairs', hids', hsplit'⟩ := allInstancesLoop_tidy h l
      (fun s' h' => hl s' (List.mem_cons_of_mem _ h')) (List.nodup_cons.mp hnd).2
    refine ⟨is ++ rest, ?_, ?_, ?_, ?_⟩
    · simp only [List.map_cons, allInstancesLoop, Go.bind_apply,
        getHostedServiceProperties_found ss (findService_of_mem h.nodup hm), Go.ofExcept_apply, hsi,
        hrest, Go.pure_apply]
    · rw [List.map_append, hpairs, hpairs', List.flatMap_cons]
    · rw [List.map_append]
      refine List.nodup_append.mpr ⟨hids, hids', fun a ha ha' => ?_⟩
      obtain ⟨i, hi, rfl⟩ := List.mem_map.mp ha
      obtain ⟨i', hi', he⟩ := List.mem_map.mp ha'
      obtain ⟨s', hs', hsplit''⟩ := hsplit' i' hi'
      rw [he, hsplit i hi] at hsplit''
      exact (List.nodup_cons.mp hnd).1 (List.mem_map.mpr ⟨s', hs', hsplit''.symm⟩)
    · intro i hi
      rcases List.mem_append.mp hi with hi | hi
      · exact ⟨s, List.mem_cons_self _ _, hsplit i hi⟩
      · obtain ⟨s', hs', he⟩ := hsplit' i hi
        exact ⟨s', List.mem_cons_of_mem _ hs', he⟩

/-- In a laid-out cloud, `AllInstances` in a session where no request fails
returns one instance per role of the environment's services, in listing
order, with pairwise distinct ids. -/
theorem allInstances_of_layoutInv {ss : List HostedService} (h : LayoutInv envName ss) :
    ∃ is, allInstances envName ⟨ss, []⟩ = (.ok is, ⟨ss, []⟩) ∧
      is.map (fun i => (i.serviceName, i.roleName)) =
        (ss.filter fun s => (getEnvPrefix envName).isPrefixOf s.serviceName).flatMap
          (fun s => (serviceRoles s).map (s.serviceName, ·)) ∧
      (is.map (·.instanceId)).Nodup := by
  obtain ⟨is, his, hpairs, hids, -⟩ := allInstancesLoop_tidy h _
    (fun s hs => by
      obtain ⟨hm, hp⟩ := List.mem_filter.mp hs
      exact ⟨hm, List.isPrefixOf_iff_prefix.mp hp⟩)
    (((List.filter_sublist ss).map _).nodup h.nodup)
  exact ⟨is, by simp only [allInstances, Go.bind_apply, getManagementAPI_nofault,
    listPrefixedHostedServices_nofault, his], hpairs, hids⟩

end AllInstances

/-- Every run of provisioning calls from a laid-out cloud keeps the layout,
whatever requests fail; and `AllInstances`, where none fails, then returns
one instance per role with pairwise distinct ids. -/
theorem layout_reachable (envName : Str) {ss ss' : List HostedService} (h0 : LayoutInv envName ss)
    (hrun : Relation.ReflTransGen (Step envName) ss ss') :
    LayoutInv envName ss' ∧
    ∃ is, allInstances envName ⟨ss', []⟩ = (.ok is, ⟨ss', []⟩) ∧
      is.map (fun i => (i.serviceName, i.roleName)) =
        (ss'.filter fun s => (getEnvPrefix envName).isPrefixOf s.serviceName).flatMap
          (fun s => (serviceRoles s).map (s.serviceName, ·)) ∧
      (is.map (·.instanceId)).Nodup := by
  have hinv : LayoutInv envName ss' := by
    induction hrun with
    | refl => exact h0
    | tail _ hstep ih => exact hstep.layoutInv ih
  exact ⟨hinv, allInstances_of_layoutInv hinv⟩

/-- The law after `StartInstance` adds the role `r2` to the current service
`juju-e-abc` that the distribution group picks. -/
theorem layout_reachable_abc :
    let ss : List HostedService :=
      [⟨"juju-e-abc".toList, [], [⟨"juju-e-abc-v2".toList, ["r1".toList], ["r1".toList]⟩]⟩]
    let args : StartInstanceParams := ⟨false, .ok (), ["t".toList], .ok (), .ok (),
      some (.ok ["juju-e-abc-r1".toList]), []⟩
    let ss' := (startInstance "e".toList true (fun _ => "x".toList) "r2".toList args ⟨ss, []⟩).2.services
    LayoutInv "e".toList ss' ∧
    ∃ is, allInstances "e".toList ⟨ss', []⟩ = (.ok is, ⟨ss', []⟩) ∧
      is.map (fun i => (i.serviceName, i.roleName)) =
        (ss'.filter fun s => (getEnvPrefix "e".toList).isPrefixOf s.serviceName).flatMap
          (fun s => (serviceRoles s).map (s.serviceName, ·)) ∧
      (is.map (·.instanceId)).Nodup := by
  intro ss args ss'
  have h0 : LayoutInv "e".toList ss := ⟨by decide, fun hs hm _ => by
    rw [List.mem_singleton.mp hm]
    exact ⟨.inr ⟨_, rfl, .inr ⟨rfl, by simp⟩⟩, ⟨"abc".toList, by decide, rfl⟩, by simp⟩⟩
  have hpick : NoLegacyPick "e".toList true args ss := by
    rintro ids hids - hs hm - ⟨d, hd, hv1⟩
    cases hids
    rw [List.mem_singleton.mp hm] at hd hv1
    rw [List.mem_singleton.mp hd] at hv1
    exact absurd hv1 (by decide)
  exact layout_reachable "e".toList h0
    (.single (.start ss true _ "r2".toList args [] (fun _ => by decide) hpick))

/-! ## A distribution group that picks a legacy service -/

/-- From a cloud holding the legacy service `juju-e-abc` with the role `r1`,
laid out as `Layout` asks, `StartInstance` with a distribution group that
returns the id of that instance adds the role `r2` to the legacy deployment:
the cloud is no longer laid out and `AllInstances` fails in `getInstance`. -/
theorem startInstance_legacy_pick :
    let ss : List HostedService :=
      [⟨"juju-e-abc".toList, [], [⟨"juju-e-abc".toList, ["r1".toList], ["r1".toList]⟩]⟩]
    let ss' : List HostedService :=
      [⟨"juju-e-abc".toList, [], [⟨"juju-e-abc".toList, ["r1".toList, "r2".toList],
        ["r1".toList, "r2".toList]⟩]⟩]
    let args : StartInstanceParams := ⟨false, .ok (), ["t".toList], .ok (), .ok (),
      some (.ok ["juju-e-abc".toList]), []⟩
    (∀ hs ∈ ss, getEnvPrefix "e".toList <+: hs.serviceName → Layout hs) ∧
    (startInstance "e".toList true (fun _ => "x".toList) "r2".toList args ⟨ss, []⟩).2.services = ss' ∧
    ¬(∀ hs ∈ ss', getEnvPrefix "e".toList <+: hs.serviceName → Layout hs) ∧
    (allInstances "e".toList ⟨ss', []⟩).1 = .err (.expectedOneRole "juju-e-abc".toList 2) := by
  intro ss ss' args
  refine ⟨fun hs hm _ => ?_, by decide, fun h => ?_, by decide⟩
  · rw [List.mem_singleton.mp hm]
    exact .inr ⟨_, rfl, .inl ⟨rfl, rfl⟩⟩
  · rcases h _ (List.mem_singleton_self _) (by decide) with h | ⟨d, hd, h⟩
    · cases h
    · cases hd
      revert h
      decide

end Juju.Azure
