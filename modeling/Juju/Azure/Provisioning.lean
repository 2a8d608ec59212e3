import Juju.Azure.StopEffect

/-!
# The environment's instances over runs of provisioning calls

What `AllInstances` (part_001:1036-1070) lists is the set of instances the
provisioner works with, and `StartInstance` (part_001:634-704) and
`StopInstances` (part_001:840-910) are how it changes that set. Abstractly
the set is a list of instances up to order, and each call is an `Event` on
it (`Event.apply`): a successful `StartInstance` adds the instance it
returned, with the role instance of its new role; a failed one adds
nothing; `StopInstances` removes the instances of the ids it is given.

The code refines this model on a well-made cloud (`WellMade`): laid out,
its environment services made by `newHostedService` with roles named over
gwacl's alphabet, no role name empty and role instances only of roles.
Every call keeps it, and after each call `AllInstances` lists what the
event makes of what it listed before (`Call.refines`). A failed
`StartInstance` can leave a service behind (`FailedCreate`), but never one
`AllInstances` lists (`FailedCreate.listed`), as long as the distribution
group picks no legacy service: a role added to a legacy service is the one
failure that would show (`legacy_of_getInstance_added_error`).

Results:
* `allInstances_run`: over every run of provisioning calls from a well-made
  cloud, the cloud stays well made, and `AllInstances` lists at the end, up
  to order, what the run's events make of what it listed at the start.
* `stopInstances_startInstance`: after a `StartInstance` that succeeded,
  `StopInstances` of the id it returned succeeds, and `AllInstances` lists
  again, up to order, what it listed before the start.
-/
namespace Juju.Azure

/-! ## The abstract model -/

/-- What a provisioning call did to the environment's instances. -/
inductive Event
  /-- `StartInstance` returned the instance `i` of the new role `roleName`. -/
  | started (i : AzureInstance) (roleName : Str)
  /-- `StartInstance` failed. -/
  | startFailed
  /-- `StopInstances` of the ids `ids`. -/
  | stopped (ids : List Str)

/-- The environment's instances after the event. -/
def Event.apply : Event → List AzureInstance → List AzureInstance
  | .started i roleName, is => is ++ [{ i with roleInstance := some roleName }]
  | .startFailed, is => is
  | .stopped ids, is => is.filter fun i => i.instanceId ∉ ids

/-- The environment's instances after the events, in order. -/
def Event.applyAll (es : List Event) (is : List AzureInstance) : List AzureInstance :=
  es.foldl (fun is e => e.apply is) is

theorem Event.apply_perm (e : Event) {is js : List AzureInstance} (h : is.Perm js) :
    (e.apply is).Perm (e.apply js) := by
  cases e with
  | started i roleName => exact h.append_right _
  | startFailed => exact h
  | stopped ids => exact h.filter _

theorem Event.applyAll_perm : ∀ (es : List Event) {is js : List AzureInstance}, is.Perm js →
    (Event.applyAll es is).Perm (Event.applyAll es js)
  | [], _, _, h => h
  | e :: es, _, _, h => Event.applyAll_perm es (e.apply_perm h)

/-! ## The cloud every call keeps -/

/-- No role name is empty, and every role instance is of a role. -/
def Deployment.WellMade (d : Deployment) : Prop :=
  [] ∉ d.roleList ∧ ∀ r ∈ d.roleInstanceList, r ∈ d.roleList

/-- A service of the environment was made by `newHostedService` and has
roles over gwacl's alphabet; every deployment is well made. -/
def ServiceWellMade (envName : Str) (hs : HostedService) : Prop :=
  (getEnvPrefix envName <+: hs.serviceName →
    CreatedFor envName hs ∧ ∀ d ∈ hs.deployments, ∀ r ∈ d.roleList, IsIdent r) ∧
  ∀ d ∈ hs.deployments, d.WellMade

instance (d : Deployment) : Decidable d.WellMade := inferInstanceAs (Decidable (_ ∧ _))

instance (envName : Str) (hs : HostedService) : Decidable (ServiceWellMade envName hs) :=
  inferInstanceAs (Decidable ((_ → _ ∧ _) ∧ _))

/-- A laid-out cloud of well-made services. -/
structure WellMade (envName : Str) (ss : List HostedService) : Prop where
  layout : LayoutInv envName ss
  service : ∀ hs ∈ ss, ServiceWellMade envName hs

section WellMade

variable {envName : Str} {ss : List HostedService} (h : WellMade envName ss)

include h in
theorem WellMade.made : ∀ hs ∈ ss, getEnvPrefix envName <+: hs.serviceName →
    CreatedFor envName hs ∧ ∀ d ∈ hs.deployments, ∀ r ∈ d.roleList, IsIdent r :=
  fun hs hm => (h.service hs hm).1

include h in
theorem WellMade.roles : ∀ hs ∈ ss, ∀ d ∈ hs.deployments, [] ∉ d.roleList :=
  fun hs hm d hd => ((h.service hs hm).2 d hd).1

include h in
theorem WellMade.roleInstances :
    ∀ hs ∈ ss, ∀ d ∈ hs.deployments, ∀ r ∈ d.roleInstanceList, r ∈ d.roleList :=
  fun hs hm d hd => ((h.service hs hm).2 d hd).2

end WellMade

theorem Deployment.WellMade.withRole {d : Deployment} (h : d.WellMade) {roleName : Str}
    (hr : roleName ≠ []) : (d.withRole roleName).WellMade := by
  refine ⟨by simpa [Deployment.withRole] using ⟨h.1, hr⟩, fun r hri => ?_⟩
  simp only [Deployment.withRole, List.mem_append, List.mem_singleton] at hri ⊢
  exact hri.imp_left (h.2 r)

section Services

variable {envName : Str} {hs : HostedService} {roleName : Str}

theorem serviceWellMade_drawnService {label : Str} {draw : Nat → Str} {k : Nat}
    (hk : IsIdent (draw k)) : ServiceWellMade envName (drawnService (getEnvPrefix envName) label draw k) :=
  ⟨fun _ => ⟨⟨draw k, hk, rfl⟩, fun _ hd => absurd hd (List.not_mem_nil _)⟩,
    fun _ hd => absurd hd (List.not_mem_nil _)⟩

theorem ServiceWellMade.withRole (h : ServiceWellMade envName hs)
    (hr : IsIdent roleName ∧ roleName ≠ []) (dn : Str) :
    ServiceWellMade envName (updateDeployment dn (Deployment.withRole roleName) hs) := by
  refine ⟨fun hp => ⟨(h.1 hp).1, fun d' hd' => ?_⟩, fun d' hd' => ?_⟩ <;>
    obtain ⟨d, hd, rfl⟩ := mem_updateDeployment hd' <;> split_ifs
  · simpa [Deployment.withRole, or_imp, forall_and] using ⟨(h.1 hp).2 d hd, hr.1⟩
  · exact (h.1 hp).2 d hd
  · exact (h.2 d hd).withRole hr.2
  · exact h.2 d hd

theorem ServiceWellMade.addDeployment (h : ServiceWellMade envName hs)
    (hr : IsIdent roleName ∧ roleName ≠ []) (n : Str) :
    ServiceWellMade envName
      { hs with deployments := hs.deployments ++ [⟨n, [roleName], [roleName]⟩] } := by
  refine ⟨fun hp => ⟨(h.1 hp).1, fun d hd => ?_⟩, fun d hd => ?_⟩ <;>
    rcases List.mem_append.mp hd with hd | hd
  · exact (h.1 hp).2 d hd
  · simp [List.mem_singleton.mp hd, hr.1]
  · exact h.2 d hd
  · rw [List.mem_singleton.mp hd]
    exact ⟨by simpa using hr.2.symm, fun _ h => h⟩

theorem ServiceWellMade.filterRoles (h : ServiceWellMade envName hs) {d : Deployment}
    (hd : hs.deployments = [d]) (p : Str → Bool) :
    ServiceWellMade envName { hs with deployments := [{ d with
      roleList := d.roleList.filter p, roleInstanceList := d.roleInstanceList.filter p }] } := by
  have hdm : d ∈ hs.deployments := by simp [hd]
  refine ⟨fun hp => ⟨(h.1 hp).1, ?_⟩, ?_⟩ <;> simp only [List.mem_singleton, forall_eq]
  · exact fun r hr => (h.1 hp).2 d hdm r (List.mem_of_mem_filter hr)
  · refine ⟨fun h0 => (h.2 d hdm).1 (List.mem_of_mem_filter h0), fun r hr => ?_⟩
    obtain ⟨hr, hkeep⟩ := List.mem_filter.mp hr
    exact List.mem_filter.mpr ⟨(h.2 d hdm).2 r hr, hkeep⟩

theorem ServiceWellMade.stopEffect {ids : List Str} {t : HostedService}
    (h : ServiceWellMade envName hs) (ht : stopEffect envName ids hs = some t) :
    ServiceWellMade envName t := by
  unfold Juju.Azure.stopEffect at ht
  split at ht
  · rename_i d hd
    split_ifs at ht <;> cases ht
    exacts [h.filterRoles hd _, h]
  · cases ht
    exact h

end Services

theorem forall_mem_updateService {P : HostedService → Prop} {n : Str}
    {g : HostedService → HostedService} {ss : List HostedService} (h : ∀ s ∈ ss, P s)
    (hg : ∀ s ∈ ss, P (g s)) : ∀ s ∈ updateService n g ss, P s := by
  intro t ht
  obtain ⟨s, hs, rfl⟩ := List.mem_map.mp ht
  split
  exacts [hg s hs, h s hs]

section Outcomes

variable {envName label roleName serviceName : Str} {draw : Nat → Str}
  {ss ss' : List HostedService}

theorem ServiceFor.serviceWellMade {ss1 : List HostedService} {hs : HostedService}
    (hf : ServiceFor (getEnvPrefix envName) label serviceName draw ss ss1 hs)
    (hdraw : ∀ k, IsIdent (draw k)) (h : ∀ s ∈ ss, ServiceWellMade envName s) :
    ∀ s ∈ ss1, ServiceWellMade envName s := by
  cases hf with
  | given => exact h
  | drawn =>
    exact fun s hs => (List.mem_append.mp hs).elim (h s) fun e =>
      (List.mem_singleton.mp e) ▸ serviceWellMade_drawnService (hdraw _)

theorem Created.serviceWellMade {i : AzureInstance}
    (hc : Created (getEnvPrefix envName) label roleName serviceName draw ss ss' i)
    (hdraw : ∀ k, IsIdent (draw k)) (hrole : IsIdent roleName ∧ roleName ≠ [])
    (h : ∀ s ∈ ss, ServiceWellMade envName s) : ∀ s ∈ ss', ServiceWellMade envName s := by
  cases hc with
  | deployed hs1 =>
    have h1 := hs1.serviceWellMade hdraw h
    exact forall_mem_updateService h1 fun s hs => (h1 s hs).addDeployment hrole _
  | roleAdded => exact forall_mem_updateService h fun s hs => (h s hs).withRole hrole _

theorem FailedCreate.serviceWellMade
    (hf : FailedCreate (getEnvPrefix envName) label roleName serviceName draw ss ss')
    (hdraw : ∀ k, IsIdent (draw k)) (hrole : IsIdent roleName ∧ roleName ≠ [])
    (h : ∀ s ∈ ss, ServiceWellMade envName s) : ∀ s ∈ ss', ServiceWellMade envName s := by
  cases hf with
  | unchanged => exact h
  | serviceLeft =>
    exact fun s hs => (List.mem_append.mp hs).elim (h s) fun e =>
      (List.mem_singleton.mp e) ▸ serviceWellMade_drawnService (hdraw _)
  | serviceDeleted => exact fun s hs => h s (List.mem_of_mem_filter hs)
  | roleLeft => exact forall_mem_updateService h fun s hs => (h s hs).withRole hrole _

/-- `getInstance` refuses a role added to the first deployment of a
laid-out service only when the service is legacy. -/
theorem legacy_of_getInstance_added_error {hs : HostedService} {d : Deployment}
    {ds : List Deployment} {e : AzErr} (hl : Layout hs) (hd : hs.deployments = d :: ds)
    (he : getInstance { hs with deployments := { d with roleList := d.roleList ++ [roleName] } :: ds }
      roleName = .error e) : Legacy hs := by
  rcases hl with h0 | ⟨d', hd', hk⟩
  · rw [hd] at h0
    cases h0
  obtain ⟨rfl, rfl⟩ := List.cons_eq_cons.mp (hd.symm.trans hd')
  rcases hk with ⟨hv1, -⟩ | ⟨hv2, -⟩
  · exact ⟨_, by simp [hd], hv1⟩
  · rw [@getInstance_of_current { hs with deployments := [{ d with roleList := d.roleList ++ [roleName] }] }
      _ rfl hv2] at he
    cases he

/-- A failed `createInstance` into no service, or into a service of the
environment that is not legacy, from a laid-out cloud, leaves what
`AllInstances` lists as it was. -/
theorem FailedCreate.listed
    (hf : FailedCreate (getEnvPrefix envName) label roleName serviceName draw ss ss')
    (h : LayoutInv envName ss) (hname : serviceName ≠ [] → getEnvPrefix envName <+: serviceName)
    (hleg : serviceName ≠ [] → NoLegacyAt ss serviceName) (j : AzureInstance) :
    Listed envName ss' j ↔ Listed envName ss j := by
  cases hf with
  | unchanged => rfl
  | serviceLeft => exact listed_append_of_roles_nil (by rfl) j
  | @serviceDeleted hs hn hf hd =>
    obtain ⟨hm, rfl⟩ := findService_some hf
    simp only [Listed, List.mem_filter, decide_eq_true_eq]
    refine ⟨fun ⟨s, ⟨hs, _⟩, hr⟩ => ⟨s, hs, hr⟩,
      fun ⟨s, hs, hp, r, hr, hi⟩ => ⟨s, ⟨hs, fun hn' => ?_⟩, hp, r, hr, hi⟩⟩
    obtain rfl := List.inj_on_of_nodup_map h.nodup hs hm hn'
    simp [serviceRoles, hd] at hr
  | @roleLeft hs d ds e hn hf hd hr he =>
    obtain ⟨hm, rfl⟩ := findService_some hf
    exact absurd (legacy_of_getInstance_added_error (h.tidy hs hm (hname hn)).1 hd he)
      (hleg hn hs hm rfl)

end Outcomes

/-! ## Failed starts -/

theorem PickedName.noLegacyAt {envName : Str} {availabilitySetsEnabled : Bool}
    {args : StartInstanceParams} {serviceName : Str} {ss : List HostedService}
    (h : PickedName envName availabilitySetsEnabled args serviceName)
    (hpick : NoLegacyPick envName availabilitySetsEnabled args ss) :
    serviceName ≠ [] → NoLegacyAt ss serviceName := by
  rcases h with rfl | ⟨ids, ha, hg, rfl⟩
  exacts [fun hn => absurd rfl hn, fun _ => hpick ids hg ha]

/-- Without tools, `StartInstance` changes nothing in the cloud: it fails
before its first request, or panics at `Tools[0]`. -/
theorem startInstance_tools_nil (envName : Str) (availabilitySetsEnabled : Bool) (draw : Nat → Str)
    (roleName : Str) {args : StartInstanceParams} (ht : args.tools = []) (ss : List HostedService) :
    Go.Triple (· = ss) (startInstance envName availabilitySetsEnabled draw roleName args) (· = ss)
      fun _ _ => True := by
  unfold startInstance
  refine Go.Triple.bind (?_ : Go.Triple _ _ _ fun _ (_ : Unit) => True) fun _ =>
    Go.Triple.bind (Go.Triple.ofExcept _ fun _ h => ⟨h.1, fun _ _ => trivial⟩) fun _ =>
    Go.Triple.bind (?_ : Go.Triple _ _ _ fun _ (_ : Unit) => False) fun _ _ h => h.2.elim
  · split
    · exact Go.Triple.throw _ fun _ h => h
    · exact Go.Triple.pure () fun _ h => ⟨h, trivial⟩
  · rw [ht]
    exact Go.Triple.crash _ fun _ h => h.1

/-- A failed `StartInstance`, from a laid-out cloud, leaves the cloud as it
was, or is a failed `createInstance` into the service it picked. -/
theorem startInstance_err {envName : Str} {availabilitySetsEnabled : Bool} {draw : Nat → Str}
    (hdraw : ∀ k, IsIdent (draw k)) {roleName : Str} {args : StartInstanceParams} {w : World}
    (h : LayoutInv envName w.services) {e : AzErr} {w' : World}
    (herr : startInstance envName availabilitySetsEnabled draw roleName args w = (.err e, w')) :
    w'.services = w.services ∨ ∃ serviceName, PickedName envName availabilitySetsEnabled args serviceName ∧
      FailedCreate (getEnvPrefix envName)
        (if args.jobs.contains .manageEnviron then stateServerLabel else []) roleName serviceName draw
        w.services w'.services := by
  by_cases ht : args.tools = []
  · have hk := ((startInstance_tools_nil envName availabilitySetsEnabled draw roleName ht w.services).run w rfl).1
    rw [herr] at hk
    exact .inl hk
  · have hrun := startInstance_created envName availabilitySetsEnabled draw hdraw roleName args ht
      w.services h w rfl
    rwa [herr] at hrun

/-- `StopInstances`, with no failing request, of distinct ids of listed
instances succeeds and leaves a well-made cloud where `AllInstances` lists
what it listed before less the instances of the ids. -/
theorem WellMade.stopInstances {envName : Str} {ss : List HostedService} (h : WellMade envName ss)
    {ids : List Str} (hnd : ids.Nodup) (hids : ∀ id ∈ ids, ∃ j, Listed envName ss j ∧ j.instanceId = id) :
    let ss' := ss.filterMap (stopEffect envName ids)
    stopInstances envName ids ⟨ss, []⟩ = (.ok (), ⟨ss', []⟩) ∧ WellMade envName ss' ∧
      ∀ is, allInstances envName ⟨ss, []⟩ = (.ok is, ⟨ss, []⟩) →
        ∃ is', allInstances envName ⟨ss', []⟩ = (.ok is', ⟨ss', []⟩) ∧
          is'.Perm (is.filter fun i => i.instanceId ∉ ids) := by
  have hidof : ∀ id ∈ ids, InstanceIdOf ss envName id := fun id hid => by
    obtain ⟨j, ⟨s, hs, hp, r, hr, hj⟩, rfl⟩ := hids id hid
    exact instanceIdOf_getInstance hs (h.layout.tidy s hs hp).1 (h.made s hs hp).1
      (h.made s hs hp).2 hr hj
  obtain ⟨hstop, hl', hlist⟩ :=
    stopInstances_listing h.layout (fun s hs hp => (h.made s hs hp).1) h.roles hnd hidof
  refine ⟨hstop, ⟨hl', fun t ht => ?_⟩, hlist⟩
  obtain ⟨s, hs, he⟩ := List.mem_filterMap.mp ht
  exact (h.service s hs).stopEffect he

/-! ## Runs -/

/-- A provisioning call from the cloud `ss` that answered, with what it did:
`StartInstance` with names gwacl draws over its alphabet (`roleName` from
`MakeRandomRoleName("juju")`), whatever requests fail in it, and, when it
fails, a distribution group that picks no legacy service; or
`StopInstances`, with no failing request, of distinct ids of instances the
environment lists. -/
inductive Call (envName : Str) (ss : List HostedService) : Event → List HostedService → Prop
  | started {availabilitySetsEnabled : Bool} {draw : Nat → Str} {roleName : Str}
      {args : StartInstanceParams} {faults : List Bool} {i : AzureInstance} {w' : World}
      (hdraw : ∀ k, IsIdent (draw k)) (hrole : IsIdent roleName ∧ roleName ≠ [])
      (hok : startInstance envName availabilitySetsEnabled draw roleName args ⟨ss, faults⟩ =
        (.ok i, w')) :
      Call envName ss (.started i roleName) w'.services
  | startFailed {availabilitySetsEnabled : Bool} {draw : Nat → Str} {roleName : Str}
      {args : StartInstanceParams} {faults : List Bool} {e : AzErr} {w' : World}
      (hdraw : ∀ k, IsIdent (draw k)) (hrole : IsIdent roleName ∧ roleName ≠ [])
      (hpick : NoLegacyPick envName availabilitySetsEnabled args ss)
      (herr : startInstance envName availabilitySetsEnabled draw roleName args ⟨ss, faults⟩ =
        (.err e, w')) :
      Call envName ss .startFailed w'.services
  | stopped {ids : List Str} (hnd : ids.Nodup)
      (hids : ∀ id ∈ ids, ∃ j, Listed envName ss j ∧ j.instanceId = id) :
      Call envName ss (.stopped ids) (stopInstances envName ids ⟨ss, []⟩).2.services

/-- **Step refinement.** A call from a well-made cloud leaves a well-made
cloud, where `AllInstances` lists, up to order, what the call's event makes
of what it listed before. -/
theorem Call.refines {envName : Str} {ss ss' : List HostedService} {e : Event}
    (hc : Call envName ss e ss') (h : WellMade envName ss) :
    WellMade envName ss' ∧ ∀ is, allInstances envName ⟨ss, []⟩ = (.ok is, ⟨ss, []⟩) →
      ∃ is', allInstances envName ⟨ss', []⟩ = (.ok is', ⟨ss', []⟩) ∧ is'.Perm (e.apply is) := by
  cases hc with
  | @started _ draw roleName args _ i w' hdraw hrole hok =>
    obtain ⟨sn, hsn, hcr, hl'⟩ := startInstance_ok hdraw h.layout hok
    exact ⟨⟨hl', hcr.serviceWellMade hdraw hrole h.service⟩, fun is his =>
      hcr.allInstances_perm h.layout hsn.prefix h.roleInstances hl' his⟩
  | @startFailed availabilitySetsEnabled draw roleName args faults _ w' hdraw hrole hpick herr =>
    rcases startInstance_err hdraw h.layout herr with hs | ⟨sn, hsn, hf⟩
    · rw [hs]
      exact ⟨h, fun is his => ⟨is, his, List.Perm.refl _⟩⟩
    have hl' : LayoutInv envName w'.services := by
      have hl := ((startInstance_triple availabilitySetsEnabled draw hdraw roleName args).run ⟨ss, faults⟩
        ⟨h.layout, hpick⟩).1
      rwa [herr] at hl
    refine ⟨⟨hl', hf.serviceWellMade hdraw hrole h.service⟩, fun is his =>
      allInstances_perm_of_listed hl' ((allInstances_nodup h.layout his).of_map _) fun j => ?_⟩
    rw [hf.listed h.layout hsn.prefix (hsn.noLegacyAt hpick) j, listed_iff_mem h.layout his]
    rfl
  | @stopped ids hnd hids =>
    obtain ⟨hstop, h', hlist⟩ := h.stopInstances hnd hids
    rw [hstop]
    exact ⟨h', hlist⟩

/-- Provisioning calls one after another, with what each did. -/
inductive Run (envName : Str) : List HostedService → List Event → List HostedService → Prop
  | nil (ss : List HostedService) : Run envName ss [] ss
  | cons {ss ss' ss'' : List HostedService} {e : Event} {es : List Event} :
      Call envName ss e ss' → Run envName ss' es ss'' → Run envName ss (e :: es) ss''

theorem Run.refines {envName : Str} {ss ss' : List HostedService} {es : List Event}
    (hrun : Run envName ss es ss') (h : WellMade envName ss) :
    WellMade envName ss' ∧ ∀ is, allInstances envName ⟨ss, []⟩ = (.ok is, ⟨ss, []⟩) →
      ∃ is', allInstances envName ⟨ss', []⟩ = (.ok is', ⟨ss', []⟩) ∧
        is'.Perm (Event.applyAll es is) := by
  induction hrun with
  | nil => exact ⟨h, fun is his => ⟨is, his, List.Perm.refl _⟩⟩
  | cons hc _ ih =>
    obtain ⟨h1, hstep⟩ := hc.refines h
    obtain ⟨h2, hrest⟩ := ih h1
    refine ⟨h2, fun is his => ?_⟩
    obtain ⟨is1, his1, hp1⟩ := hstep is his
    obtain ⟨is2, his2, hp2⟩ := hrest is1 his1
    exact ⟨is2, his2, hp2.trans (Event.applyAll_perm _ hp1)⟩

/-- **Run refinement.** Over every run of provisioning calls from a
well-made cloud, the cloud stays well made, and `AllInstances`, which
answers at the start, lists at the end, up to order, what the run's events
make of what it listed at the start. -/
theorem allInstances_run (envName : Str) {ss ss' : List HostedService} {es : List Event}
    (h : WellMade envName ss) (hrun : Run envName ss es ss') :
    WellMade envName ss' ∧ ∃ is, allInstances envName ⟨ss, []⟩ = (.ok is, ⟨ss, []⟩) ∧
      ∃ is', allInstances envName ⟨ss', []⟩ = (.ok is', ⟨ss', []⟩) ∧
        is'.Perm (Event.applyAll es is) := by
  obtain ⟨h', hrefine⟩ := hrun.refines h
  obtain ⟨is, his, -⟩ := allInstances_of_layoutInv h.layout
  exact ⟨h', is, his, hrefine is his⟩

/-- A run from a cloud with the current service `juju-e-abc` of one role:
`StartInstance` of the role `r2`, with no distribution group, creates the
service `juju-e-x` for it; stopping `juju-e-abc-r1` then deletes
`juju-e-abc`. -/
theorem allInstances_run_abc :
    let abc : HostedService :=
      ⟨"juju-e-abc".toList, [], [⟨"juju-e-abc-v2".toList, ["r1".toList], ["r1".toList]⟩]⟩
    let ss := [abc]
    let args : StartInstanceParams := ⟨false, .ok (), ["t".toList], .ok (), .ok (), none, []⟩
    let started := startInstance "e".toList false (fun _ => "x".toList) "r2".toList args ⟨ss, []⟩
    let i : AzureInstance := ⟨"juju-e-x".toList, "juju-e-x".toList, "juju-e-x-r2".toList,
      "juju-e-x-v2".toList, "r2".toList, none, false⟩
    let ids := ["juju-e-abc-r1".toList]
    let ss' := (stopInstances "e".toList ids ⟨started.2.services, []⟩).2.services
    started.1 = .ok i ∧ WellMade "e".toList ss ∧
      Run "e".toList ss [.started i "r2".toList, .stopped ids] ss' ∧
      WellMade "e".toList ss' ∧ ∃ is, allInstances "e".toList ⟨ss, []⟩ = (.ok is, ⟨ss, []⟩) ∧
        ∃ is', allInstances "e".toList ⟨ss', []⟩ = (.ok is', ⟨ss', []⟩) ∧
          is'.Perm (Event.applyAll [.started i "r2".toList, .stopped ids] is) := by
  intro abc ss args started i ids ss'
  have h : WellMade "e".toList ss := ⟨⟨by decide, fun hs hm _ => by
    rw [List.mem_singleton.mp hm]
    exact ⟨.inr ⟨_, rfl, .inr ⟨rfl, by simp⟩⟩, ⟨"abc".toList, by decide, rfl⟩, by decide⟩⟩, by decide⟩
  have hdraw : ∀ k, IsIdent ((fun _ : Nat => "x".toList) k) := fun _ => (by decide : IsIdent "x".toList)
  have hok : started = (.ok i, started.2) := rfl
  have hrun : Run "e".toList ss [.started i "r2".toList, .stopped ids] ss' :=
    .cons (.started hdraw (by decide) hok) (.cons (.stopped (by decide) fun id hid => by
      rw [List.mem_singleton.mp hid]
      exact ⟨_, ⟨abc, by decide, by decide, "r1".toList, by decide, rfl⟩, rfl⟩) (.nil _))
  exact ⟨rfl, h, hrun, allInstances_run _ h hrun⟩

/-! ## Undoing a start -/

/-- **Stopping undoes starting.** From a well-made cloud, after a
`StartInstance` that succeeded, whatever failed on the way, `StopInstances`
of the id it returned, with no failing request, succeeds and leaves a
well-made cloud where `AllInstances` lists, up to order, what it listed
before the start. -/
theorem stopInstances_startInstance {envName : Str} {ss : List HostedService} (h : WellMade envName ss)
    {availabilitySetsEnabled : Bool} {draw : Nat → Str} (hdraw : ∀ k, IsIdent (draw k))
    {roleName : Str} (hrole : IsIdent roleName ∧ roleName ≠ []) {args : StartInstanceParams}
    {faults : List Bool} {i : AzureInstance} {w' : World}
    (hok : startInstance envName availabilitySetsEnabled draw roleName args ⟨ss, faults⟩ = (.ok i, w')) :
    ∃ ss'', stopInstances envName [i.instanceId] ⟨w'.services, []⟩ = (.ok (), ⟨ss'', []⟩) ∧
      WellMade envName ss'' ∧ ∃ is, allInstances envName ⟨ss, []⟩ = (.ok is, ⟨ss, []⟩) ∧
        ∃ is', allInstances envName ⟨ss'', []⟩ = (.ok is', ⟨ss'', []⟩) ∧ is'.Perm is := by
  obtain ⟨h1, hstart⟩ := (Call.started hdraw hrole hok).refines h
  obtain ⟨is, his, -⟩ := allInstances_of_layoutInv h.layout
  obtain ⟨is1, his1, hp1⟩ := hstart is his
  have hmem : { i with roleInstance := some roleName } ∈ is1 := hp1.symm.subset (by simp [Event.apply])
  obtain ⟨hstop, h2, hlist⟩ := h1.stopInstances (List.nodup_singleton i.instanceId) fun id hid =>
    ⟨_, (listed_iff_mem h1.layout his1 _).mpr hmem, (List.mem_singleton.mp hid).symm⟩
  obtain ⟨is2, his2, hp2⟩ := hlist is1 his1
  -- the new instance's id is not among those listed before the start
  have hnd := (hp1.map (·.instanceId)).nodup_iff.mp (allInstances_nodup h1.layout his1)
  rw [Event.apply, List.map_append, List.nodup_append] at hnd
  refine ⟨_, hstop, h2, is, his, is2, his2, hp2.trans ((hp1.filter _).trans ?_)⟩
  rw [Event.apply, List.filter_append, List.filter_eq_self.mpr, List.filter_eq_nil_iff.mpr, List.append_nil]
  · simp
  · intro j hj
    simpa using fun e => hnd.2.2 (List.mem_map_of_mem _ hj) (by simp [e])

/-- Starting the role `r2` in a new service `juju-e-x` beside the current
service `juju-e-abc`, then stopping `juju-e-x-r2`. -/
theorem stopInstances_startInstance_abc :
    let ss : List HostedService :=
      [⟨"juju-e-abc".toList, [], [⟨"juju-e-abc-v2".toList, ["r1".toList], ["r1".toList]⟩]⟩]
    let args : StartInstanceParams := ⟨false, .ok (), ["t".toList], .ok (), .ok (), none, []⟩
    let started := startInstance "e".toList false (fun _ => "x".toList) "r2".toList args ⟨ss, []⟩
    let i : AzureInstance := ⟨"juju-e-x".toList, "juju-e-x".toList, "juju-e-x-r2".toList,
      "juju-e-x-v2".toList, "r2".toList, none, false⟩
    started.1 = .ok i ∧ WellMade "e".toList ss ∧
      ∃ ss'', stopInstances "e".toList [i.instanceId] ⟨started.2.services, []⟩ = (.ok (), ⟨ss'', []⟩) ∧
        WellMade "e".toList ss'' ∧ ∃ is, allInstances "e".toList ⟨ss, []⟩ = (.ok is, ⟨ss, []⟩) ∧
          ∃ is', allInstances "e".toList ⟨ss'', []⟩ = (.ok is', ⟨ss'', []⟩) ∧ is'.Perm is := by
  intro ss args started i
  have h : WellMade "e".toList ss := ⟨⟨by decide, fun hs hm _ => by
    rw [List.mem_singleton.mp hm]
    exact ⟨.inr ⟨_, rfl, .inr ⟨rfl, by simp⟩⟩, ⟨"abc".toList, by decide, rfl⟩, by decide⟩⟩, by decide⟩
  have hok : started = (.ok i, started.2) := rfl
  exact ⟨rfl, h, stopInstances_startInstance h (fun _ => (by decide : IsIdent "x".toList)) (by decide) hok⟩

end Juju.Azure
