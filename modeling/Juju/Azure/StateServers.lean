import Juju.Azure.Provisioning

/-!
# Finding the state servers: `StateServerInstances`

`StateServerInstances` lists every instance (`AllInstances`) and reports
those whose cloud service carries the label `juju-state-server`, which
`createInstance` gives the service it creates for a state server. A legacy
environment has no such label: its state server is the instance recorded in
provider-state, so the function reads provider-state as soon as it meets an
unlabelled instance whose id decodes to no role (a legacy one), and appends
the ids it finds there. With no id at all it returns `ErrNotBootstrapped`.

The loop is specified by a `filter` and an `any` (`foldl_scanInstance`,
`stateServerInstances_eq`); over a laid-out cloud, an id decodes to no role
exactly for a legacy service (`splitInstanceId_role_eq_nil_iff`).

Results:
* `stateServerInstances_layout`: in a laid-out cloud whose environment
  services `newHostedService` made, with role names over gwacl's alphabet
  and none empty, `StateServerInstances` with no failing request reports
  the instances of the environment's labelled services, in `AllInstances`'
  order, followed by provider-state's ids exactly when the environment has
  an unlabelled legacy service.
* `stateServerInstances_startInstance`: a `StartInstance` into a new cloud
  service changes what `StateServerInstances` reports only by the new
  machine, which it adds exactly when the machine was started as a state
  server (environments named `state` aside, whose drawn service name can be
  the label).
* `isLegacyInstance_agrees`: over the same clouds, `isLegacyInstance`,
  which reads the service again and looks at its deployment, agrees on
  every listed instance with the test by the id.
-/
namespace Juju.Azure

/-- One iteration of the loop of `StateServerInstances` (part_001:326-341):
the ids reported so far, and `loadStateFile`. -/
def scanInstance (envName : Str) (acc : List Str × Bool) (inst : AzureInstance) :
    List Str × Bool :=
  if inst.label = stateServerLabel then (acc.1 ++ [inst.instanceId], acc.2)
  else if !acc.2 ∧ (splitInstanceId envName inst.instanceId).2 = [] then (acc.1, true)
  else acc

/-- mirrors part_001:318-358 (`azureEnviron.StateServerInstances`);
`providerState` is what `common.ProviderStateInstances` returns, which reads
the environment's storage (not in this repository). -/
def stateServerInstances (envName : Str) (providerState : Except AzErr (List Str)) :
    Go (List Str) := do
  let instances ← allInstances envName
  let (ids, loadStateFile) := instances.foldl (scanInstance envName) ([], false)
  let ids ← (if loadStateFile then (ids ++ ·) <$> Go.ofExcept providerState else pure ids)
  if ids = [] then Go.throw .notBootstrapped else pure ids

/-- What `StateServerInstances` makes of the ids it has: an error of
provider-state as it is, `ErrNotBootstrapped` for no id. -/
def reportIds : Except AzErr (List Str) → Res (List Str)
  | .error e => .err e
  | .ok [] => .err .notBootstrapped
  | .ok (id :: ids) => .ok (id :: ids)

/-! ## The loop -/

theorem reportIds_ok (ids : List Str) (w : World) :
    (if ids = [] then Go.throw .notBootstrapped else pure ids : Go (List Str)) w =
      (reportIds (.ok ids), w) := by
  cases ids <;> rfl

/-- The loop of `StateServerInstances`: the ids of the labelled instances,
in order, and whether an unlabelled instance decodes to no role. -/
theorem foldl_scanInstance (envName : Str) : ∀ (is : List AzureInstance) (acc : List Str × Bool),
    is.foldl (scanInstance envName) acc =
      (acc.1 ++ (is.filter (·.label = stateServerLabel)).map (·.instanceId),
        acc.2 || is.any fun i => i.label ≠ stateServerLabel ∧
          (splitInstanceId envName i.instanceId).2 = [])
  | [], acc => by simp
  | i :: is, ⟨ids, flag⟩ => by
    rw [List.foldl_cons, foldl_scanInstance envName is]
    unfold scanInstance
    by_cases hl : i.label = stateServerLabel
    · simp [hl]
    · by_cases hr : (splitInstanceId envName i.instanceId).2 = [] <;> cases flag <;> simp [hl, hr]

/-- `StateServerInstances` once `AllInstances` has returned `is`: the ids of
the labelled instances, followed by provider-state's when an unlabelled
instance decodes to no role. -/
theorem stateServerInstances_eq {envName : Str} {w w' : World} {is : List AzureInstance}
    (h : allInstances envName w = (.ok is, w')) (providerState : Except AzErr (List Str)) :
    stateServerInstances envName providerState w =
      (reportIds (if is.any (fun i => i.label ≠ stateServerLabel ∧
            (splitInstanceId envName i.instanceId).2 = [])
          then ((is.filter (·.label = stateServerLabel)).map (·.instanceId) ++ ·) <$> providerState
          else .ok ((is.filter (·.label = stateServerLabel)).map (·.instanceId))), w') := by
  rw [stateServerInstances, Go.bind_ok _ h, foldl_scanInstance]
  simp only [List.nil_append, Bool.false_or]
  split
  · cases providerState with
    | error e => rfl
    | ok p => exact (Go.bind_ok _ rfl).trans (reportIds_ok _ _)
  · exact (Go.bind_ok _ rfl).trans (reportIds_ok _ _)

/-! ## Over a laid-out cloud -/

theorem getInstance_label {hs : HostedService} {r : Str} {i : AzureInstance}
    (h : getInstance hs r = .ok i) : i.label = hs.label := by
  unfold getInstance at h
  split at h
  · rename_i d _
    cases hi : identify hs d r <;> simp only [hi, Except.map] at h <;> cases h
    rfl
  · cases h

/-- In a laid-out service the environment made, with role names over gwacl's
alphabet and none empty, an instance's id decodes to no role exactly when
the service is legacy. -/
theorem splitInstanceId_role_eq_nil_iff {envName : Str} {s : HostedService} (hl : Layout s)
    (hc : CreatedFor envName s) (hident : ∀ d ∈ s.deployments, ∀ r ∈ d.roleList, IsIdent r ∧ r ≠ [])
    {r : Str} (hr : r ∈ serviceRoles s) {i : AzureInstance} (hi : getInstance s r = .ok i) :
    (splitInstanceId envName i.instanceId).2 = [] ↔ Legacy s := by
  obtain ⟨x, hx, hname⟩ := hc
  rcases hl with h0 | ⟨d, hd, ⟨hv1, hlen⟩ | ⟨hv2, -⟩⟩
  · simp [serviceRoles, h0] at hr
  · obtain ⟨r0, hr0⟩ := List.length_eq_one.mp hlen
    obtain ⟨i', hi', hid, -⟩ := getInstance_legacy r hd hv1 hr0
    rw [hi] at hi'
    cases hi'
    rw [hid, hname, splitInstanceId_legacy envName x hx.dash_not_mem]
    exact ⟨fun _ => ⟨d, by simp [hd], hv1⟩, fun _ => rfl⟩
  · obtain ⟨i', hi', hid, -⟩ := getInstance_current r hd hv2
    rw [hi] at hi'
    cases hi'
    rw [serviceRoles, hd] at hr
    obtain ⟨hri, hr0⟩ := hident d (by simp [hd]) r hr
    rw [hid, hname, List.append_assoc,
      splitInstanceId_current envName x r hx.dash_not_mem hri.dash_not_mem]
    refine ⟨fun h => absurd h hr0, fun ⟨d', hd', hv1⟩ => ?_⟩
    rw [hd, List.mem_singleton] at hd'
    subst hd'
    exact absurd (hv1.symm.trans hv2) (deploymentNameV1_ne_V2 _)

/-- In a laid-out cloud whose environment services `newHostedService` made,
with role names over gwacl's alphabet and none empty, `StateServerInstances`
with no failing request reports the instances `AllInstances` finds in the
environment's labelled services, in its order, followed by the ids
provider-state holds exactly when the environment has an unlabelled legacy
service; and `ErrNotBootstrapped` when that is no id. -/
theorem stateServerInstances_layout (envName : Str) (providerState : Except AzErr (List Str))
    (ss : List HostedService) (h : LayoutInv envName ss)
    (hmade : ∀ hs ∈ ss, getEnvPrefix envName <+: hs.serviceName →
      CreatedFor envName hs ∧ ∀ d ∈ hs.deployments, ∀ r ∈ d.roleList, IsIdent r ∧ r ≠ []) :
    ∃ is, allInstances envName ⟨ss, []⟩ = (.ok is, ⟨ss, []⟩) ∧
      (∀ i, i ∈ is.filter (·.label = stateServerLabel) ↔
        ∃ s ∈ ss, getEnvPrefix envName <+: s.serviceName ∧ s.label = stateServerLabel ∧
          ∃ r ∈ serviceRoles s, getInstance s r = .ok i) ∧
      stateServerInstances envName providerState ⟨ss, []⟩ =
        (reportIds (if ∃ s ∈ ss, getEnvPrefix envName <+: s.serviceName ∧ Legacy s ∧
              s.label ≠ stateServerLabel
            then ((is.filter (·.label = stateServerLabel)).map (·.instanceId) ++ ·) <$> providerState
            else .ok ((is.filter (·.label = stateServerLabel)).map (·.instanceId))), ⟨ss, []⟩) := by
  obtain ⟨is, his, -⟩ := allInstances_of_layoutInv h
  have hmem := allInstances_mem h.nodup his
  have hlegacy : (is.any fun i => i.label ≠ stateServerLabel ∧
      (splitInstanceId envName i.instanceId).2 = []) = true ↔
      ∃ s ∈ ss, getEnvPrefix envName <+: s.serviceName ∧ Legacy s ∧ s.label ≠ stateServerLabel := by
    simp only [List.any_eq_true, decide_eq_true_eq]
    constructor
    · rintro ⟨i, hi, hl, hr⟩
      obtain ⟨s, hs, hp, r, hr', hgi⟩ := (hmem i).mp hi
      exact ⟨s, hs, hp, (splitInstanceId_role_eq_nil_iff (h.tidy s hs hp).1 (hmade s hs hp).1
        (hmade s hs hp).2 hr' hgi).mp hr, getInstance_label hgi ▸ hl⟩
    · rintro ⟨s, hs, hp, hleg, hl⟩
      obtain ⟨hlay, -, -⟩ := h.tidy s hs hp
      rcases hlay with h0 | ⟨d, hd, hk⟩
      · obtain ⟨d, hd, -⟩ := hleg
        simp [h0] at hd
      have hne : d.roleList ≠ [] := by
        rcases hk with ⟨-, hlen⟩ | ⟨-, hne⟩
        · exact List.ne_nil_of_length_eq_add_one hlen
        · exact hne
      obtain ⟨r0, hr0⟩ := List.exists_mem_of_ne_nil _ hne
      have hr0' : r0 ∈ serviceRoles s := by simpa [serviceRoles, hd] using hr0
      obtain ⟨i, hi⟩ := getInstance_ok_of_layout ⟨d, hd, hk.imp id And.left⟩ r0
      exact ⟨i, (hmem i).mpr ⟨s, hs, hp, r0, hr0', hi⟩, getInstance_label hi ▸ hl,
        (splitInstanceId_role_eq_nil_iff (.inr ⟨d, hd, hk⟩) (hmade s hs hp).1 (hmade s hs hp).2
          hr0' hi).mpr hleg⟩
  refine ⟨is, his, fun i => ?_, ?_⟩
  · rw [List.mem_filter, hmem]
    constructor
    · rintro ⟨⟨s, hs, hp, r, hr, hi⟩, hl⟩
      exact ⟨s, hs, hp, getInstance_label hi ▸ of_decide_eq_true hl, r, hr, hi⟩
    · rintro ⟨s, hs, hp, hl, r, hr, hi⟩
      exact ⟨⟨s, hs, hp, r, hr, hi⟩, decide_eq_true (getInstance_label hi ▸ hl)⟩
  · rw [stateServerInstances_eq his]
    by_cases hc : ∃ s ∈ ss, getEnvPrefix envName <+: s.serviceName ∧ Legacy s ∧
        s.label ≠ stateServerLabel
    · rw [if_pos (hlegacy.mpr hc), if_pos hc]
    · rw [if_neg (mt hlegacy.mp hc), if_neg hc]

/-- The law on a current service `juju-e-ctl` labelled for state servers and
an unlabelled legacy service `juju-e-old`, with provider-state naming the
latter. -/
theorem stateServerInstances_layout_ctl :
    let ss : List HostedService :=
      [⟨"juju-e-ctl".toList, stateServerLabel, [⟨"juju-e-ctl-v2".toList, ["r1".toList],
          ["r1".toList]⟩]⟩,
        ⟨"juju-e-old".toList, "juju-e-old".toList, [⟨"juju-e-old".toList, ["r0".toList],
          ["r0".toList]⟩]⟩]
    let providerState : Except AzErr (List Str) := .ok ["juju-e-old".toList]
    LayoutInv "e".toList ss ∧
      (∀ hs ∈ ss, getEnvPrefix "e".toList <+: hs.serviceName →
        CreatedFor "e".toList hs ∧ ∀ d ∈ hs.deployments, ∀ r ∈ d.roleList, IsIdent r ∧ r ≠ []) ∧
      ∃ is, allInstances "e".toList ⟨ss, []⟩ = (.ok is, ⟨ss, []⟩) ∧
        (∀ i, i ∈ is.filter (·.label = stateServerLabel) ↔
          ∃ s ∈ ss, getEnvPrefix "e".toList <+: s.serviceName ∧ s.label = stateServerLabel ∧
            ∃ r ∈ serviceRoles s, getInstance s r = .ok i) ∧
        stateServerInstances "e".toList providerState ⟨ss, []⟩ =
          (reportIds (if ∃ s ∈ ss, getEnvPrefix "e".toList <+: s.serviceName ∧ Legacy s ∧
                s.label ≠ stateServerLabel
              then ((is.filter (·.label = stateServerLabel)).map (·.instanceId) ++ ·) <$>
                providerState
              else .ok ((is.filter (·.label = stateServerLabel)).map (·.instanceId))),
            ⟨ss, []⟩) := by
  intro ss providerState
  have h : LayoutInv "e".toList ss := ⟨by decide, fun hs hm hp => by
    simp only [ss, List.mem_cons, List.mem_singleton, List.not_mem_nil, or_false] at hm
    rcases hm with rfl | rfl
    · exact ⟨.inr ⟨_, rfl, .inr ⟨rfl, by simp⟩⟩, ⟨"ctl".toList, by decide, rfl⟩, by decide⟩
    · exact ⟨.inr ⟨_, rfl, .inl ⟨rfl, rfl⟩⟩, ⟨"old".toList, by decide, rfl⟩, by decide⟩⟩
  have hmade : ∀ hs ∈ ss, getEnvPrefix "e".toList <+: hs.serviceName →
      CreatedFor "e".toList hs ∧ ∀ d ∈ hs.deployments, ∀ r ∈ d.roleList, IsIdent r ∧ r ≠ [] := by
    decide
  exact ⟨h, hmade, stateServerInstances_layout _ providerState _ h hmade⟩

/-! ## A machine started -/

theorem drawnService_label_eq {envName : Str} (henv : envName ≠ "state".toList) (draw : Nat → Str)
    (k : Nat) (stateServer : Bool) :
    (drawnService (getEnvPrefix envName) (if stateServer then stateServerLabel else []) draw k).label =
      stateServerLabel ↔ stateServer = true := by
  cases stateServer
  · simp [drawnService, getEnvPrefix_ne_stateServerLabel henv]
  · simp [drawnService, (by decide : stateServerLabel ≠ [])]

/-- **A state server is found again.** From a well-made cloud of an
environment not named `state`, a `StartInstance` that succeeded, whatever
failed on the way, into a new cloud service (availability sets off, or no
distribution group) changes what `StateServerInstances` reports, with no
failing request, only by the new machine, which it adds exactly when the
machine was started with the `JobManageEnviron` job: provider-state's ids
are appended after it as before. -/
theorem stateServerInstances_startInstance {envName : Str} (henv : envName ≠ "state".toList)
    {ss : List HostedService} (h : WellMade envName ss) {availabilitySetsEnabled : Bool}
    {draw : Nat → Str} (hdraw : ∀ k, IsIdent (draw k)) {roleName : Str}
    (hrole : IsIdent roleName ∧ roleName ≠ []) {args : StartInstanceParams}
    (hnew : availabilitySetsEnabled = false ∨ args.distributionGroup = none)
    {faults : List Bool} {i : AzureInstance} {w' : World}
    (hok : startInstance envName availabilitySetsEnabled draw roleName args ⟨ss, faults⟩ = (.ok i, w')) :
    ∃ (legacy : Bool) (L L' : List Str),
      L'.Perm (L ++ if args.jobs.contains .manageEnviron then [i.instanceId] else []) ∧
      ∀ providerState,
        (stateServerInstances envName providerState ⟨ss, []⟩).1 =
          reportIds (if legacy then (L ++ ·) <$> providerState else .ok L) ∧
        (stateServerInstances envName providerState ⟨w'.services, []⟩).1 =
          reportIds (if legacy then (L' ++ ·) <$> providerState else .ok L') := by
  obtain ⟨sn, hsn, hc, -⟩ := startInstance_ok hdraw h.layout hok
  obtain rfl : sn = [] := hsn.resolve_right fun ⟨_, hon, hg, _⟩ => by
    rcases hnew with hn | hn <;> simp_all
  obtain ⟨k, -, -, hi⟩ := hc.drawn
  have hlabel : i.label = stateServerLabel ↔ args.jobs.contains .manageEnviron = true := by
    rw [hi]
    exact drawnService_label_eq henv draw k _
  have hrole' : (splitInstanceId envName i.instanceId).2 = roleName := by
    rw [hi, List.append_assoc, splitInstanceId_current envName (draw k) roleName (hdraw k).dash_not_mem
      hrole.1.dash_not_mem]
  obtain ⟨-, hstart⟩ := (Call.started hdraw hrole hok).refines h
  obtain ⟨is, his, -⟩ := allInstances_of_layoutInv h.layout
  obtain ⟨is1, his1, hp1⟩ := hstart is his
  -- the new instance is not an unlabelled legacy one
  have hany : (is1.any fun j => j.label ≠ stateServerLabel ∧ (splitInstanceId envName j.instanceId).2 = []) =
      is.any fun j => j.label ≠ stateServerLabel ∧ (splitInstanceId envName j.instanceId).2 = [] := by
    rw [Bool.eq_iff_iff, List.any_eq_true, List.any_eq_true]
    simp only [hp1.mem_iff, Event.apply, List.mem_append, List.mem_singleton, or_and_right, exists_or,
      exists_eq_left]
    simp [hrole', hrole.2]
  refine ⟨_, _, _, ((hp1.filter _).map _).trans ?_, fun ps =>
    ⟨by rw [stateServerInstances_eq his], by rw [stateServerInstances_eq his1, hany]⟩⟩
  refine .of_eq ?_
  rw [Event.apply, List.filter_append, List.map_append]
  generalize args.jobs.contains .manageEnviron = b at hlabel
  cases b <;> simp [List.filter_cons, hlabel]

/-- A state server started beside the current service `juju-e-abc`. -/
theorem stateServerInstances_startInstance_ctl :
    let ss : List HostedService :=
      [⟨"juju-e-abc".toList, [], [⟨"juju-e-abc-v2".toList, ["r1".toList], ["r1".toList]⟩]⟩]
    let args : StartInstanceParams :=
      ⟨false, .ok (), ["t".toList], .ok (), .ok (), none, [.manageEnviron]⟩
    let started := startInstance "e".toList false (fun _ => "x".toList) "r2".toList args ⟨ss, []⟩
    let i : AzureInstance := ⟨"juju-e-x".toList, stateServerLabel, "juju-e-x-r2".toList,
      "juju-e-x-v2".toList, "r2".toList, none, true⟩
    started.1 = .ok i ∧ WellMade "e".toList ss ∧
      ∃ (legacy : Bool) (L L' : List Str),
        L'.Perm (L ++ if args.jobs.contains .manageEnviron then [i.instanceId] else []) ∧
        ∀ providerState,
          (stateServerInstances "e".toList providerState ⟨ss, []⟩).1 =
            reportIds (if legacy then (L ++ ·) <$> providerState else .ok L) ∧
          (stateServerInstances "e".toList providerState ⟨started.2.services, []⟩).1 =
            reportIds (if legacy then (L' ++ ·) <$> providerState else .ok L') := by
  intro ss args started i
  have h : WellMade "e".toList ss := ⟨⟨by decide, fun hs hm _ => by
    rw [List.mem_singleton.mp hm]
    exact ⟨.inr ⟨_, rfl, .inr ⟨rfl, by simp⟩⟩, ⟨"abc".toList, by decide, rfl⟩, by decide⟩⟩, by decide⟩
  have hok : started = (.ok i, started.2) := rfl
  exact ⟨rfl, h, stateServerInstances_startInstance (by decide) h
    (fun _ => (by decide : IsIdent "x".toList)) (by decide) (.inl rfl) hok⟩

/-! ## The other legacy test -/

/-- mirrors part_001:300-315 (`isLegacyInstance`): the instance's service,
read again, has one deployment, named as a legacy one. -/
def isLegacyInstance (inst : AzureInstance) : Go Bool := do
  getManagementAPI
  let service ← getHostedServiceProperties inst.serviceName
  match service.deployments with
  | [d] => pure (decide (d.name = deploymentNameV1 inst.serviceName))
  | _ => pure false

/-- **The provider's two legacy tests agree.** In a laid-out cloud whose
environment services `newHostedService` made, with role names over gwacl's
alphabet and none empty, `isLegacyInstance` with no failing request
answers, for every instance `AllInstances` lists, whether its id decodes
to no role: the test `StateServerInstances` makes instead. -/
theorem isLegacyInstance_agrees (envName : Str) (ss : List HostedService) (h : LayoutInv envName ss)
    (hmade : ∀ hs ∈ ss, getEnvPrefix envName <+: hs.serviceName →
      CreatedFor envName hs ∧ ∀ d ∈ hs.deployments, ∀ r ∈ d.roleList, IsIdent r ∧ r ≠ []) :
    ∃ is, allInstances envName ⟨ss, []⟩ = (.ok is, ⟨ss, []⟩) ∧ ∀ i ∈ is,
      isLegacyInstance i ⟨ss, []⟩ =
        (.ok (decide ((splitInstanceId envName i.instanceId).2 = [])), ⟨ss, []⟩) := by
  obtain ⟨is, his, -⟩ := allInstances_of_layoutInv h
  refine ⟨is, his, fun i hi => ?_⟩
  obtain ⟨s, hs, hp, r, hr, hgi⟩ := (allInstances_mem h.nodup his i).mp hi
  obtain ⟨hlay, -, -⟩ := h.tidy s hs hp
  have hleg := splitInstanceId_role_eq_nil_iff hlay (hmade s hs hp).1 (hmade s hs hp).2 hr hgi
  -- a service with a role has its one deployment
  obtain ⟨d, hd⟩ : ∃ d, s.deployments = [d] := by
    rcases hlay with h0 | ⟨d, hd, -⟩
    · simp [serviceRoles, h0] at hr
    · exact ⟨d, hd⟩
  have hlegd : Legacy s ↔ d.name = deploymentNameV1 s.serviceName := by simp [Legacy, hd]
  rw [isLegacyInstance, Go.bind_ok _ (getManagementAPI_nofault ss), getInstance_serviceName hgi,
    Go.bind_ok _ (getHostedServiceProperties_found ss (findService_of_mem h.nodup hs))]
  simp only [hd, hleg, hlegd, Go.pure_apply]

/-- The law on a legacy service `juju-e-old` and a current one
`juju-e-new` with two roles. -/
theorem isLegacyInstance_agrees_oldNew :
    let ss : List HostedService :=
      [⟨"juju-e-old".toList, "juju-e-old".toList, [⟨"juju-e-old".toList, ["r0".toList],
          ["r0".toList]⟩]⟩,
        ⟨"juju-e-new".toList, "juju-e-new".toList, [⟨"juju-e-new-v2".toList,
          ["r1".toList, "r2".toList], ["r1".toList]⟩]⟩]
    LayoutInv "e".toList ss ∧
      (∀ hs ∈ ss, getEnvPrefix "e".toList <+: hs.serviceName →
        CreatedFor "e".toList hs ∧ ∀ d ∈ hs.deployments, ∀ r ∈ d.roleList, IsIdent r ∧ r ≠ []) ∧
      ∃ is, allInstances "e".toList ⟨ss, []⟩ = (.ok is, ⟨ss, []⟩) ∧ ∀ i ∈ is,
        isLegacyInstance i ⟨ss, []⟩ =
          (.ok (decide ((splitInstanceId "e".toList i.instanceId).2 = [])), ⟨ss, []⟩) := by
  intro ss
  have h : LayoutInv "e".toList ss := ⟨by decide, fun hs hm hp => by
    simp only [ss, List.mem_cons, List.mem_singleton, List.not_mem_nil, or_false] at hm
    rcases hm with rfl | rfl
    · exact ⟨.inr ⟨_, rfl, .inl ⟨rfl, rfl⟩⟩, ⟨"old".toList, by decide, rfl⟩, by decide⟩
    · exact ⟨.inr ⟨_, rfl, .inr ⟨rfl, by simp⟩⟩, ⟨"new".toList, by decide, rfl⟩, by decide⟩⟩
  have hmade : ∀ hs ∈ ss, getEnvPrefix "e".toList <+: hs.serviceName →
      CreatedFor "e".toList hs ∧ ∀ d ∈ hs.deployments, ∀ r ∈ d.roleList, IsIdent r ∧ r ≠ [] := by
    decide
  exact ⟨h, hmade, isLegacyInstance_agrees _ _ h hmade⟩

end Juju.Azure
