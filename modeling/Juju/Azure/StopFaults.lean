import Juju.Azure.Provisioning

/-!
# `StopInstances` when requests fail

A request of `StopInstances` (part_001:840-910) that fails changes nothing
and ends the call, so a call cut short leaves the cloud where its deletion
loop had got to: the services it went through stopped, the one it was in
with some of its named roles deleted, the others untouched. `Trims` says
what may be left of one service, and `Reached` which clouds are made of
such services; each request of the loop keeps `Reached`
(`Reached.getHostedServiceProperties`, `Reached.deleteHostedService`,
`Reached.deleteRole`), and so do the loops built from them.

Results:
* `allInstances_stopInstances_faults`: in a well-made cloud, `StopInstances`
  of distinct ids of listed instances, whatever requests fail, does not
  panic and leaves a well-made cloud, where `AllInstances` lists, up to
  order, what it listed before less the instances of some of those ids.
-/
namespace Juju.Azure

theorem Deployment.withoutRole_withoutRoles (r : Str) (rs : List Str) :
    Deployment.withoutRole r ∘ Deployment.withoutRoles rs = Deployment.withoutRoles (r :: rs) := by
  funext d
  simp only [Function.comp, Deployment.withoutRoles, Deployment.withoutRole, List.filter_filter,
    List.mem_cons, not_or]
  congr 2 <;> funext a <;> simp [Bool.and_comm]

@[simp]
theorem updateDeployment_serviceName (dn : Str) (f : Deployment → Deployment) (s : HostedService) :
    (updateDeployment dn f s).serviceName = s.serviceName := rfl

theorem updateDeployment_single {s : HostedService} {d : Deployment} (hd : s.deployments = [d])
    (f : Deployment → Deployment) :
    updateDeployment d.name f s = { s with deployments := [f d] } := by
  simp [updateDeployment, hd]

theorem updateDeployment_withoutRoles_nil (dn : Str) (s : HostedService) :
    updateDeployment dn (Deployment.withoutRoles []) s = s := by
  simp [updateDeployment, Deployment.withoutRoles]

/-! ## What a cut-short `StopInstances` leaves of a service -/

/-- What `StopInstances` of `ids`, cut short by a failing request, may leave
of the service `s`: the service itself, what stopping should leave of it
(`stopEffect`), or, of a current service, the service without some of its
named roles and their instances. -/
def Trims (envName : Str) (ids : List Str) (s : HostedService) (o : Option HostedService) : Prop :=
  o = some s ∨ o = stopEffect envName ids s ∨
    ∃ d pre, s.deployments = [d] ∧ d.name = deploymentNameV2 s.serviceName ∧
      (∀ r ∈ pre, roleNamed ids s r = true) ∧
      o = some (updateDeployment d.name (Deployment.withoutRoles pre) s)

section Trims

variable {envName : Str} {ids : List Str} {s : HostedService}

theorem Trims.serviceName {o : Option HostedService} {t : HostedService}
    (h : Trims envName ids s o) (ho : o = some t) : t.serviceName = s.serviceName := by
  subst ho
  rcases h with h | h | ⟨d, pre, -, -, -, h⟩
  · cases h
    rfl
  · exact stopEffect_serviceName h.symm
  · cases h
    rfl

theorem Trims.serviceWellMade {o : Option HostedService} {t : HostedService}
    (h : Trims envName ids s o) (ho : o = some t) (hw : ServiceWellMade envName s) :
    ServiceWellMade envName t := by
  subst ho
  rcases h with h | h | ⟨d, pre, hd, -, -, h⟩
  · cases h
    exact hw
  · exact hw.stopEffect h.symm
  · cases h
    rw [updateDeployment_single hd]
    exact hw.filterRoles hd _

/-- What `Trims` leaves of a laid-out service the environment made has only
instances the service had, and every one of them whose id is not named. -/
theorem Trims.listed {o : Option HostedService} (h : Trims envName ids s o) (hl : Layout s)
    (hc : CreatedFor envName s) (j : AzureInstance) :
    ((∃ t, o = some t ∧ ∃ r ∈ serviceRoles t, getInstance t r = .ok j) →
      ∃ r ∈ serviceRoles s, getInstance s r = .ok j) ∧
    ((∃ r ∈ serviceRoles s, getInstance s r = .ok j) → j.instanceId ∉ ids →
      ∃ t, o = some t ∧ ∃ r ∈ serviceRoles t, getInstance t r = .ok j) := by
  rcases h with rfl | rfl | ⟨d, pre, hd, hv2, hpre, rfl⟩
  · exact ⟨fun ⟨t, ht, hj⟩ => Option.some.inj ht ▸ hj, fun hj _ => ⟨s, rfl, hj⟩⟩
  · exact ⟨fun hj => ((stopEffect_listed hl hc j).mp hj).1,
      fun hj hid => (stopEffect_listed hl hc j).mpr ⟨hj, hid⟩⟩
  rw [updateDeployment_single hd]
  have hsr : serviceRoles s = d.roleList := by simp [serviceRoles, hd]
  have hg : ∀ r, r ∉ pre → getInstance { s with deployments := [d.withoutRoles pre] } r =
      getInstance s r := fun r hr => getInstance_filter_roles hd hv2 _ (by simpa using hr)
  have hsr' : serviceRoles { s with deployments := [d.withoutRoles pre] } =
      d.roleList.filter (· ∉ pre) := rfl
  simp only [Option.some.injEq, exists_eq_left', hsr, hsr', List.mem_filter, decide_eq_true_eq]
  constructor
  · rintro ⟨r, ⟨hr, hrp⟩, hj⟩
    exact ⟨r, hr, (hg r hrp).symm.trans hj⟩
  · rintro ⟨r, hr, hj⟩ hid
    have hrp : r ∉ pre := fun hrp => hid (by simpa [roleNamed_of_getInstance hj] using hpre r hrp)
    exact ⟨r, ⟨hr, hrp⟩, (hg r hrp).trans hj⟩

end Trims

/-- A cloud of trimmed services, each under its own name, lists only
instances the cloud listed, and every one of them whose id is not named. -/
theorem listed_filterMap_trims {envName : Str} {ids : List Str} {ss : List HostedService}
    {f : HostedService → Option HostedService} (htidy : ∀ s ∈ ss, Tidy envName s)
    (hmade : ∀ s ∈ ss, getEnvPrefix envName <+: s.serviceName → CreatedFor envName s)
    (ht : ∀ s ∈ ss, Trims envName ids s (f s)) (j : AzureInstance) :
    (Listed envName (ss.filterMap f) j → Listed envName ss j) ∧
      (Listed envName ss j → j.instanceId ∉ ids → Listed envName (ss.filterMap f) j) := by
  simp only [Listed, List.mem_filterMap]
  constructor
  · rintro ⟨t, ⟨s, hs, hst⟩, hp, hj⟩
    rw [(ht s hs).serviceName hst] at hp
    obtain ⟨r, hr, hj⟩ := ((ht s hs).listed (htidy s hs hp).1 (hmade s hs hp) j).1 ⟨t, hst, hj⟩
    exact ⟨s, hs, hp, r, hr, hj⟩
  · rintro ⟨s, hs, hp, hj⟩ hid
    obtain ⟨t, hst, hj⟩ := ((ht s hs).listed (htidy s hs hp).1 (hmade s hs hp) j).2 hj hid
    exact ⟨t, ⟨s, hs, hst⟩, ((ht s hs).serviceName hst).symm ▸ hp, hj⟩

/-! ## The clouds a cut-short `StopInstances` reaches -/

/-- The clouds `StopInstances` of `ids` from `ss` may reach: each service
trimmed, as `keep` asks. -/
def Reached (envName : Str) (ids : List Str) (ss : List HostedService)
    (keep : HostedService → Option HostedService → Prop) (c : List HostedService) : Prop :=
  ∃ f : HostedService → Option HostedService, c = ss.filterMap f ∧
    ∀ s ∈ ss, Trims envName ids s (f s) ∧ keep s (f s)

/-- The services named in `ns` are untouched. -/
def Untouched (ns : List Str) (s : HostedService) (o : Option HostedService) : Prop :=
  s.serviceName ∈ ns → o = some s

section Reached

variable {envName : Str} {ids : List Str} {ss : List HostedService}

theorem Reached.mono {keep keep' : HostedService → Option HostedService → Prop}
    {c : List HostedService} (h : Reached envName ids ss keep c)
    (hk : ∀ s ∈ ss, ∀ o, Trims envName ids s o → keep s o → keep' s o) :
    Reached envName ids ss keep' c :=
  let ⟨f, hc, hf⟩ := h
  ⟨f, hc, fun s hs => ⟨(hf s hs).1, hk s hs _ (hf s hs).1 (hf s hs).2⟩⟩

theorem reached_start (ns : List Str) : Reached envName ids ss (Untouched ns) ss :=
  ⟨some, by simp, fun _ _ => ⟨.inl rfl, fun _ => rfl⟩⟩

theorem Reached.getHostedServiceProperties {keep : HostedService → Option HostedService → Prop}
    {n : Str} (hkeep : ∀ s ∈ ss, ∀ o, keep s o → s.serviceName = n → o = some s) :
    Go.Hoare (Reached envName ids ss keep) (getHostedServiceProperties n)
      (fun c hs => Reached envName ids ss keep c ∧ hs ∈ ss ∧ hs.serviceName = n)
      (Reached envName ids ss fun _ _ => True) :=
  Go.Hoare.of_eq fun c hc => (getHostedServiceProperties_outcome c n).weaken (fun _ h => h)
    (fun c' hs ⟨he, hf⟩ => by
      subst he
      obtain ⟨f, rfl, hf'⟩ := hc
      obtain ⟨hm, rfl⟩ := findService_some hf
      obtain ⟨s, hms, hst⟩ := List.mem_filterMap.mp hm
      have hsn := (hf' s hms).1.serviceName hst
      obtain rfl := Option.some.inj ((hkeep s hms _ (hf' s hms).2 hsn.symm).symm.trans hst)
      exact ⟨⟨f, rfl, hf'⟩, hms, rfl⟩)
    fun c' he => he ▸ hc.mono fun _ _ _ _ _ => trivial

theorem Reached.deleteHostedService {keep keep' : HostedService → Option HostedService → Prop}
    {n : Str} (hnone : ∀ s ∈ ss, s.serviceName = n → stopEffect envName ids s = none)
    (hk : ∀ s ∈ ss, ∀ o, Trims envName ids s o → keep s o →
      keep' s (if s.serviceName = n then none else o)) :
    Go.Hoare (Reached envName ids ss keep) (deleteHostedService n)
      (fun c _ => Reached envName ids ss keep' c) (Reached envName ids ss fun _ _ => True) :=
  Go.Hoare.of_eq fun c hc => (deleteHostedService_outcome c n).weaken (fun _ h => h)
    (fun c' _ he => by
      obtain ⟨f, rfl, hf⟩ := hc
      refine ⟨fun s => if s.serviceName = n then none else f s, ?_, fun s hs =>
        ⟨?_, hk s hs _ (hf s hs).1 (hf s hs).2⟩⟩
      · rw [he, List.filter_filterMap]
        refine List.filterMap_congr fun s hs => ?_
        rcases hfs : f s with _ | t
        · simp
        · rw [← (hf s hs).1.serviceName hfs]
          by_cases e : t.serviceName = n <;> simp [e, Option.filter]
      · dsimp only
        split
        · exact .inr (.inl (hnone s hs ‹_›).symm)
        · exact (hf s hs).1)
    fun c' he => he ▸ hc.mono fun _ _ _ _ _ => trivial

theorem Reached.deleteRole {keep keep' : HostedService → Option HostedService → Prop}
    {n dn r : Str}
    (hk : ∀ s ∈ ss, ∀ o, Trims envName ids s o → keep s o →
      Trims envName ids s (o.map fun u =>
          if u.serviceName = n then updateDeployment dn (Deployment.withoutRole r) u else u) ∧
        keep' s (o.map fun u =>
          if u.serviceName = n then updateDeployment dn (Deployment.withoutRole r) u else u)) :
    Go.Hoare (Reached envName ids ss keep) (deleteRole n dn r)
      (fun c _ => Reached envName ids ss keep' c) (Reached envName ids ss fun _ _ => True) :=
  Go.Hoare.of_eq fun c hc => (deleteRole_outcome c n dn r).weaken (fun _ h => h)
    (fun c' _ he => by
      obtain ⟨f, rfl, hf⟩ := hc
      exact ⟨_, he.trans (List.map_filterMap _ _ _), fun s hs => hk s hs _ (hf s hs).1 (hf s hs).2⟩)
    fun c' he => he ▸ hc.mono fun _ _ _ _ _ => trivial

end Reached

/-! ## The deletion loop, cut short -/

/-- What the `DeleteRole` loop over the roles of the service `n` keeps: the
services of `ns` untouched, and `n` without some of its named roles. -/
def RolesGoing (ids ns : List Str) (n dn : Str) (s : HostedService) (o : Option HostedService) :
    Prop :=
  Untouched ns s o ∧ (s.serviceName = n → ∃ pre, (∀ r ∈ pre, roleNamed ids s r = true) ∧
    o = some (updateDeployment dn (Deployment.withoutRoles pre) s))

section Loops

variable {envName : Str} {ids : List Str} {ss : List HostedService}

/-- One `DeleteRole` of a named role of the current service `n`. -/
theorem rolesGoing_deleteRole {n dn r : Str} {ns : List Str} (hn : n ∉ ns) {s : HostedService}
    (hcur : s.serviceName = n → ∃ d, s.deployments = [d] ∧ d.name = dn ∧
      d.name = deploymentNameV2 s.serviceName)
    (hr : s.serviceName = n → roleNamed ids s r = true) {o : Option HostedService}
    (ht : Trims envName ids s o) (hk : RolesGoing ids ns n dn s o) :
    Trims envName ids s (o.map fun u =>
        if u.serviceName = n then updateDeployment dn (Deployment.withoutRole r) u else u) ∧
      RolesGoing ids ns n dn s (o.map fun u =>
        if u.serviceName = n then updateDeployment dn (Deployment.withoutRole r) u else u) := by
  by_cases hsn : s.serviceName = n
  · obtain ⟨pre, hpre, rfl⟩ := hk.2 hsn
    obtain ⟨d, hd, rfl, hv2⟩ := hcur hsn
    have hpre' : ∀ r' ∈ r :: pre, roleNamed ids s r' = true :=
      List.forall_mem_cons.mpr ⟨hr hsn, hpre⟩
    have ho : (some (updateDeployment d.name (Deployment.withoutRoles pre) s)).map (fun u =>
        if u.serviceName = n then updateDeployment d.name (Deployment.withoutRole r) u else u) =
        some (updateDeployment d.name (Deployment.withoutRoles (r :: pre)) s) := by
      simp only [Option.map_some', updateDeployment_serviceName, if_pos hsn]
      rw [← Deployment.withoutRole_withoutRoles,
        ← @updateDeployment_comp d.name (Deployment.withoutRole r) (Deployment.withoutRoles pre)
          fun _ => rfl]
      rfl
    rw [ho]
    exact ⟨.inr (.inr ⟨d, r :: pre, hd, hv2, hpre', rfl⟩), fun hm => absurd (hsn ▸ hm) hn,
      fun _ => ⟨r :: pre, hpre', rfl⟩⟩
  · rcases o with _ | u
    · exact ⟨ht, hk⟩
    · rw [Option.map_some', if_neg (by rw [ht.serviceName rfl]; exact hsn)]
      exact ⟨ht, hk⟩

/-- The `DeleteRole` loop over named roles of the current service `n`. -/
theorem deleteRoles_reached {n dn : Str} {ns : List Str} (hn : n ∉ ns)
    (hcur : ∀ s ∈ ss, s.serviceName = n → ∃ d, s.deployments = [d] ∧ d.name = dn ∧
      d.name = deploymentNameV2 s.serviceName) :
    ∀ rs : List Str, (∀ s ∈ ss, s.serviceName = n → ∀ r ∈ rs, roleNamed ids s r = true) →
      Go.Hoare (Reached envName ids ss (RolesGoing ids ns n dn)) (deleteRoles n dn rs)
        (fun c _ => Reached envName ids ss (RolesGoing ids ns n dn) c)
        (Reached envName ids ss fun _ _ => True)
  | [], _ => Go.Hoare.pure () fun _ h => h
  | r :: rs, hrs => Go.Hoare.bind (Reached.deleteRole fun s hs _ ht hk =>
      rolesGoing_deleteRole hn (hcur s hs) (fun e => hrs s hs e r (List.mem_cons_self _ _)) ht hk)
      fun _ => deleteRoles_reached hn hcur rs fun s hs e r' hr' =>
        hrs s hs e r' (List.mem_cons_of_mem _ hr')

/-- One iteration of the deletion loop, on the untouched service `n`: it
ends with `n` trimmed and the services of `ns` still untouched. -/
theorem stopService_reached (hu : (ss.map (·.serviceName)).Nodup) {del : Option (List Str)}
    {n : Str} {ns : List Str} (hn : n ∉ ns)
    (heff : ∀ s ∈ ss, s.serviceName = n → stopServiceEffect del s = stopEffect envName ids s)
    (hsome : ∀ s ∈ ss, s.serviceName = n → ∀ rs, del = some rs →
      (∃ d, s.deployments = [d] ∧ d.name = deploymentNameV2 s.serviceName) ∧
        ∀ r ∈ rs, roleNamed ids s r = true) :
    Go.Hoare (Reached envName ids ss (Untouched (n :: ns))) (stopService del n)
      (fun c _ => Reached envName ids ss (Untouched ns) c)
      (Reached envName ids ss fun _ _ => True) := by
  refine Go.Hoare.bind (Reached.getHostedServiceProperties fun s _ o h hs =>
    h (hs ▸ List.mem_cons_self _ _)) fun hs => Go.Hoare.of_const fun ⟨hm, hname⟩ => ?_
  have hsame : ∀ s ∈ ss, s.serviceName = n → s = hs := fun s hs' e =>
    List.inj_on_of_nodup_map hu hs' hm (e.trans hname.symm)
  have hkeep : ∀ s ∈ ss, ∀ o, Trims envName ids s o → Untouched (n :: ns) s o →
      Untouched ns s (if s.serviceName = n then none else o) := fun s _ o _ hk hsn => by
    rw [if_neg fun e : s.serviceName = n => hn (e ▸ hsn)]
    exact hk (List.mem_cons_of_mem _ hsn)
  split
  · rename_i d hd
    dsimp only
    split
    · rename_i hdel
      refine Reached.deleteHostedService (fun s hs' e => ?_) hkeep
      rw [← heff s hs' e, hsame s hs' e]
      simp only [stopServiceEffect, hd, hdel]
    · rename_i rs' hdel
      split
      · rename_i hl
        refine Reached.deleteHostedService (fun s hs' e => ?_) hkeep
        rw [← heff s hs' e, hsame s hs' e]
        simp only [stopServiceEffect, hd, hdel, if_pos hl]
      · obtain ⟨rs, rfl, rfl⟩ := Option.map_eq_some'.mp hdel
        obtain ⟨⟨d', hd', hv2⟩, hnamed⟩ := hsome hs hm hname rs rfl
        rw [hd, List.singleton_inj] at hd'
        subst hd'
        refine (deleteRoles_reached hn (fun s hs' e => ?_) _ fun s hs' e r hr => ?_).weaken
          (fun c hc => hc.mono fun s _ o _ hk => ⟨fun hsn => hk (List.mem_cons_of_mem _ hsn),
            fun e => ⟨[], by simp, by
              rw [updateDeployment_withoutRoles_nil]
              exact hk (e ▸ List.mem_cons_self _ _)⟩⟩)
          (fun c _ hc => hc.mono fun _ _ _ _ hk => hk.1) fun _ h => h
        · rw [hsame s hs' e]
          exact ⟨d, hd, rfl, hv2⟩
        · rw [hsame s hs' e]
          exact hnamed r (List.mem_of_mem_filter hr)
  · exact Go.Hoare.pure () fun _ hc => hc.mono fun _ _ _ _ hk hsn => hk (List.mem_cons_of_mem _ hsn)

/-- The deletion loop over distinct untouched services. -/
theorem stopServices_reached (hu : (ss.map (·.serviceName)).Nodup) (m : RoleMap) :
    ∀ ns : List Str, ns.Nodup →
      (∀ n ∈ ns, ∀ s ∈ ss, s.serviceName = n →
        stopServiceEffect (m n).join s = stopEffect envName ids s) →
      (∀ n ∈ ns, ∀ s ∈ ss, s.serviceName = n → ∀ rs, (m n).join = some rs →
        (∃ d, s.deployments = [d] ∧ d.name = deploymentNameV2 s.serviceName) ∧
          ∀ r ∈ rs, roleNamed ids s r = true) →
      Go.Hoare (Reached envName ids ss (Untouched ns)) (stopServices m ns)
        (fun c _ => Reached envName ids ss (fun _ _ => True) c)
        (Reached envName ids ss fun _ _ => True)
  | [], _, _, _ => Go.Hoare.pure () fun _ h => h.mono fun _ _ _ _ _ => trivial
  | n :: ns, hnd, heff, hsome => Go.Hoare.bind (stopService_reached hu (List.nodup_cons.mp hnd).1
      (heff n (List.mem_cons_self _ _)) (hsome n (List.mem_cons_self _ _))) fun _ =>
      stopServices_reached hu m ns (List.nodup_cons.mp hnd).2
        (fun n' h => heff n' (List.mem_cons_of_mem _ h))
        fun n' h => hsome n' (List.mem_cons_of_mem _ h)

/-- `StopInstances` of distinct ids of existing instances, whatever requests
fail, does not panic and reaches a cloud of trimmed services. -/
theorem stopInstances_reached (hu : (ss.map (·.serviceName)).Nodup)
    (hroles : ∀ hs ∈ ss, ∀ d ∈ hs.deployments, [] ∉ d.roleList)
    (hids : ∀ id ∈ ids, InstanceIdOf ss envName id) (hnd : ids.Nodup) :
    Go.Hoare (· = ss) (stopInstances envName ids)
      (fun c _ => Reached envName ids ss (fun _ _ => True) c)
      (Reached envName ids ss fun _ _ => True) := by
  refine Go.Hoare.bind ((getManagementAPI_outcome ss).weaken (fun _ h => h) (fun _ _ h => h)
    fun _ h => by rw [h]; exact (reached_start []).mono fun _ _ _ _ _ => trivial) fun _ => ?_
  refine Go.Hoare.bind (?_ : Go.Hoare _ _ (fun c acc => c = ss ∧ Grouped envName ids acc) _)
    fun acc => Go.Hoare.of_const fun g => ?_
  · intro w hw
    obtain ⟨acc, hacc, g⟩ := groupIds_grouped hnd (fun id hid id' hid' hne hn hr =>
      hne (legacy_id_unique hu hroles (hids id hid) (hids id' hid') hn hr)) w ids [] _ rfl
      Grouped.empty
    rw [hacc]
    exact ⟨hw, g⟩
  refine (stopServices_reached hu acc.1 acc.2 g.nodup (fun n hn s hs e => ?_)
    fun n hn s hs e rs hrs => ?_).weaken (fun c h => by rw [h]; exact reached_start _)
    (fun _ _ h => h) fun _ h => h
  · subst e
    exact stopServiceEffect_eq_stopEffect hu hroles hids g hs hn
  · subst e
    have ha : acc.1 s.serviceName = some (some rs) := Option.join_eq_some.mp hrs
    obtain ⟨hc, d, hd, hv2, -⟩ := g.current hu hroles hids hs hn ha
    exact ⟨⟨d, hd, hv2⟩, fun r hr => ((g.roleNamed_iff hu hroles hids hs hc hd hv2 ha).1 r).mpr hr⟩

end Loops

/-- A list between `is.filter (·.instanceId ∉ ids)` and `is`, whose
instances have distinct ids, is `is` less the instances of some of `ids`. -/
theorem exists_removed {is is' : List AzureInstance} {ids : List Str}
    (hnd : (is.map (·.instanceId)).Nodup) (hnd' : is'.Nodup) (hsub : ∀ j ∈ is', j ∈ is)
    (hkept : ∀ j ∈ is, j.instanceId ∉ ids → j ∈ is') :
    ∃ removed, removed ⊆ ids ∧ is'.Perm (is.filter fun i => i.instanceId ∉ removed) := by
  refine ⟨(is.filter fun j => j ∉ is').map (·.instanceId), fun id hid => ?_,
    (List.perm_ext_iff_of_nodup hnd' ((hnd.of_map _).filter _)).mpr fun j => ?_⟩
  · obtain ⟨j, hj, rfl⟩ := List.mem_map.mp hid
    obtain ⟨hjis, hjnot⟩ := List.mem_filter.mp hj
    by_contra hn
    exact of_decide_eq_true hjnot (hkept j hjis hn)
  rw [List.mem_filter]
  constructor
  · intro hj
    refine ⟨hsub j hj, decide_eq_true fun hrem => ?_⟩
    obtain ⟨k, hk, hkj⟩ := List.mem_map.mp hrem
    obtain ⟨hkis, hknot⟩ := List.mem_filter.mp hk
    obtain rfl := List.inj_on_of_nodup_map hnd hkis (hsub j hj) hkj
    exact of_decide_eq_true hknot hj
  · rintro ⟨hjis, hrem⟩
    by_contra hj
    exact of_decide_eq_true hrem
      (List.mem_map_of_mem _ (List.mem_filter.mpr ⟨hjis, decide_eq_true hj⟩))

/-- **Stopping, cut short.** In a well-made cloud, `StopInstances` of
distinct ids of listed instances, whatever requests fail, does not panic and
leaves a well-made cloud, where `AllInstances` lists, up to order, what it
listed before less the instances of some of those ids: no instance goes
whose id was not given. -/
theorem allInstances_stopInstances_faults (envName : Str) {ss : List HostedService}
    (h : WellMade envName ss) {ids : List Str} (hnd : ids.Nodup)
    (hids : ∀ id ∈ ids, ∃ j, Listed envName ss j ∧ j.instanceId = id) {faults : List Bool}
    {r : Res Unit} {w' : World} (hrun : stopInstances envName ids ⟨ss, faults⟩ = (r, w')) :
    (∀ m, r ≠ .panic m) ∧ WellMade envName w'.services ∧
      ∃ is, allInstances envName ⟨ss, []⟩ = (.ok is, ⟨ss, []⟩) ∧
        ∃ is', allInstances envName ⟨w'.services, []⟩ = (.ok is', ⟨w'.services, []⟩) ∧
          ∃ removed, removed ⊆ ids ∧ is'.Perm (is.filter fun i => i.instanceId ∉ removed) := by
  have hidof : ∀ id ∈ ids, InstanceIdOf ss envName id := fun id hid => by
    obtain ⟨j, ⟨s, hs, hp, r, hr, hj⟩, rfl⟩ := hids id hid
    exact instanceIdOf_getInstance hs (h.layout.tidy s hs hp).1 (h.made s hs hp).1
      (h.made s hs hp).2 hr hj
  have hR := stopInstances_reached h.layout.nodup h.roles hidof hnd ⟨ss, faults⟩ rfl
  rw [hrun] at hR
  have hreach : Reached envName ids ss (fun _ _ => True) w'.services ∧ ∀ m, r ≠ .panic m := by
    rcases r with _ | _ | _
    · exact ⟨hR, nofun⟩
    · exact ⟨hR, nofun⟩
    · exact hR.elim
  obtain ⟨⟨f, hc, hf⟩, hnp⟩ := hreach
  have hl' : LayoutInv envName w'.services := by
    have hl := ((stopInstances_triple ids).run ⟨ss, faults⟩ h.layout).1
    rwa [hrun] at hl
  have hw' : WellMade envName w'.services := ⟨hl', fun t ht => by
    rw [hc] at ht
    obtain ⟨s, hs, hst⟩ := List.mem_filterMap.mp ht
    exact (hf s hs).1.serviceWellMade hst (h.service s hs)⟩
  obtain ⟨is, his, -⟩ := allInstances_of_layoutInv h.layout
  obtain ⟨is', his', -⟩ := allInstances_of_layoutInv hl'
  have hsand := listed_filterMap_trims h.layout.tidy (fun s hs hp => (h.made s hs hp).1)
    fun s hs => (hf s hs).1
  rw [← hc] at hsand
  refine ⟨hnp, hw', is, his, is', his', exists_removed (allInstances_nodup h.layout his)
    ((allInstances_nodup hl' his').of_map _) (fun j hj => ?_) fun j hj hid => ?_⟩
  · exact (listed_iff_mem h.layout his j).mp ((hsand j).1 ((listed_iff_mem hl' his' j).mpr hj))
  · exact (listed_iff_mem hl' his' j).mp ((hsand j).2 ((listed_iff_mem h.layout his j).mpr hj) hid)

/-- Stopping two of the three instances of `juju-e-abc` when the second
`DeleteRole` fails: the call returns that error with `r2` (the role named
last) deleted, and the listing has lost that instance alone. -/
theorem allInstances_stopInstances_faults_abc :
    let abc : HostedService := ⟨"juju-e-abc".toList, [], [⟨"juju-e-abc-v2".toList,
      ["r1".toList, "r2".toList, "r3".toList], ["r1".toList, "r2".toList, "r3".toList]⟩]⟩
    let ids := ["juju-e-abc-r1".toList, "juju-e-abc-r2".toList]
    let left : List HostedService := [⟨"juju-e-abc".toList, [], [⟨"juju-e-abc-v2".toList,
      ["r1".toList, "r3".toList], ["r1".toList, "r3".toList]⟩]⟩]
    stopInstances "e".toList ids ⟨[abc], [false, false, false, true]⟩ =
        (.err (.api "DeleteRole"), ⟨left, []⟩) ∧
      (∀ m, (.err (.api "DeleteRole") : Res Unit) ≠ .panic m) ∧ WellMade "e".toList left ∧
      ∃ is, allInstances "e".toList ⟨[abc], []⟩ = (.ok is, ⟨[abc], []⟩) ∧
        ∃ is', allInstances "e".toList ⟨left, []⟩ = (.ok is', ⟨left, []⟩) ∧
          ∃ removed, removed ⊆ ids ∧ is'.Perm (is.filter fun i => i.instanceId ∉ removed) := by
  intro abc ids left
  have h : WellMade "e".toList [abc] := ⟨⟨by decide, fun hs hm _ => by
    rw [List.mem_singleton.mp hm]
    exact ⟨.inr ⟨_, rfl, .inr ⟨rfl, by simp⟩⟩, ⟨"abc".toList, by decide, rfl⟩, by decide⟩⟩,
    by decide⟩
  have hids : ∀ id ∈ ids, ∃ j, Listed "e".toList [abc] j ∧ j.instanceId = id :=
    List.forall_mem_cons.mpr ⟨⟨_, ⟨abc, .head _, by decide, "r1".toList, by decide, rfl⟩, rfl⟩,
      List.forall_mem_singleton.mpr
        ⟨_, ⟨abc, .head _, by decide, "r2".toList, by decide, rfl⟩, rfl⟩⟩
  have hrun : stopInstances "e".toList ids ⟨[abc], [false, false, false, true]⟩ =
      (.err (.api "DeleteRole"), ⟨left, []⟩) := rfl
  exact ⟨hrun, allInstances_stopInstances_faults _ h (by decide) hids hrun⟩

end Juju.Azure
