import Juju.Azure.Layout

/-!
# Every outcome of `createInstance`

`createInstance` (part_001:553-619) makes up to four requests after the
service name is settled, `newHostedService` up to twenty more, and any of
them may fail. Whatever the faults, the function does not panic, and the
cloud it leaves is one of a few, each named here by what it holds.

On success (`Created`): a current deployment holding the role added to the
service the function was given, when that service had no deployment, or to
the service `newHostedService` made for it; or the role added to the first
deployment of the service it was given.

On failure (`FailedCreate`): the cloud it started from; that cloud with the
service `newHostedService` made and left without deployment; that cloud
without the service it was given, when the service had no deployment and
`AddDeployment` failed; or that cloud with the role added to the first
deployment of the service it was given, when `getInstance` rejects the
result. The cleanup meant to stop the new instance never runs, so nothing is
ever stopped; the cleanup that deletes the service runs whether the service
was made for this instance or existed before.

Results:
* `createInstance_outcomes`: from any cloud and under any faults,
  `createInstance` does not panic, returns an instance only as `Created`
  says and fails only as `FailedCreate` says (`createInstance_hoare` is the
  same as a `Go.Hoare` triple, for use in later proofs).
-/
namespace Juju.Azure

/-- The service `attemptCreateService` adds on the try that draws `draw k`:
no deployment, and the label given or, without one, the name. -/
def drawnService (pre label : Str) (draw : Nat → Str) (k : Nat) : HostedService :=
  ⟨pre ++ draw k, if label = [] then pre ++ draw k else label, []⟩

/-- The service `createInstance` works on, and the cloud once it has it:
the service named `serviceName`, read from `ss`, or, with no name, the
service `newHostedService` added to `ss` on one of its ten tries, under a
name `ss` does not use. -/
inductive ServiceFor (pre label serviceName : Str) (draw : Nat → Str) (ss : List HostedService) :
    List HostedService → HostedService → Prop
  | given {hs : HostedService} (hn : serviceName ≠ []) (hf : findService ss serviceName = some hs) :
    ServiceFor pre label serviceName draw ss ss hs
  | drawn {k : Nat} (hn : serviceName = []) (hk : 0 < k ∧ k ≤ 10)
    (hfree : ¬ss.any fun s => s.serviceName = pre ++ draw k) :
    ServiceFor pre label serviceName draw ss (ss ++ [drawnService pre label draw k])
      (drawnService pre label draw k)

/-- What a successful `createInstance` of the role `roleName` leaves from the
cloud `ss`, and the instance it returns. -/
inductive Created (pre label roleName serviceName : Str) (draw : Nat → Str) (ss : List HostedService) :
    List HostedService → AzureInstance → Prop
  /-- A current deployment holding the role, added to a service without one. -/
  | deployed {ss1 : List HostedService} {hs : HostedService} {i : AzureInstance}
    (hs1 : ServiceFor pre label serviceName draw ss ss1 hs) (hd : hs.deployments = [])
    (hi : getInstance { hs with deployments := [⟨deploymentNameV2 hs.serviceName, [roleName], []⟩] }
      roleName = .ok i) :
    Created pre label roleName serviceName draw ss
      (updateService hs.serviceName (fun s => { s with deployments :=
        s.deployments ++ [⟨deploymentNameV2 hs.serviceName, [roleName], [roleName]⟩] }) ss1) i
  /-- The role added to the first deployment of the service it was given. -/
  | roleAdded {hs : HostedService} {d : Deployment} {ds : List Deployment} {i : AzureInstance}
    (hn : serviceName ≠ []) (hf : findService ss serviceName = some hs)
    (hd : hs.deployments = d :: ds) (hr : roleName ∉ d.roleList)
    (hi : getInstance { hs with deployments := { d with roleList := d.roleList ++ [roleName] } :: ds }
      roleName = .ok i) :
    Created pre label roleName serviceName draw ss
      (updateService serviceName (updateDeployment d.name (Deployment.withRole roleName)) ss) i

/-- What a failed `createInstance` of the role `roleName` leaves from the
cloud `ss`. -/
inductive FailedCreate (pre label roleName serviceName : Str) (draw : Nat → Str)
    (ss : List HostedService) : List HostedService → Prop
  | unchanged : FailedCreate pre label roleName serviceName draw ss ss
  /-- The service `newHostedService` made, left without deployment. -/
  | serviceLeft {k : Nat} (hn : serviceName = []) (hk : 0 < k ∧ k ≤ 10)
    (hfree : ¬ss.any fun s => s.serviceName = pre ++ draw k) :
    FailedCreate pre label roleName serviceName draw ss (ss ++ [drawnService pre label draw k])
  /-- The service it was given, which had no deployment, deleted. -/
  | serviceDeleted {hs : HostedService} (hn : serviceName ≠ [])
    (hf : findService ss serviceName = some hs) (hd : hs.deployments = []) :
    FailedCreate pre label roleName serviceName draw ss
      (ss.filter fun s => s.serviceName ≠ serviceName)
  /-- The role added to the first deployment of the service it was given,
  which `getInstance` then rejects. -/
  | roleLeft {hs : HostedService} {d : Deployment} {ds : List Deployment} {e : AzErr}
    (hn : serviceName ≠ []) (hf : findService ss serviceName = some hs)
    (hd : hs.deployments = d :: ds) (hr : roleName ∉ d.roleList)
    (he : getInstance { hs with deployments := { d with roleList := d.roleList ++ [roleName] } :: ds }
      roleName = .error e) :
    FailedCreate pre label roleName serviceName draw ss
      (updateService serviceName (updateDeployment d.name (Deployment.withRole roleName)) ss)

/-! ## The requests from a known cloud -/

section Requests

variable (ss : List HostedService)

theorem getManagementAPI_outcome :
    Go.Hoare (· = ss) getManagementAPI (fun ss' _ => ss' = ss) (· = ss) :=
  Go.Hoare.request_at ss rfl rfl

theorem checkHostedServiceNameAvailability_outcome (name : Str) :
    Go.Hoare (· = ss) (checkHostedServiceNameAvailability name) (fun ss' _ => ss' = ss) (· = ss) :=
  Go.Hoare.request_at ss rfl <| by
    by_cases h : ss.any fun s => s.serviceName = name <;> simp [h]

theorem addHostedService_outcome (name label : Str) :
    Go.Hoare (· = ss) (addHostedService name label)
      (fun ss' _ => (¬ss.any fun s => s.serviceName = name) ∧ ss' = ss ++ [⟨name, label, []⟩])
      (· = ss) :=
  Go.Hoare.request_at ss rfl <| by
    by_cases h : ss.any fun s => s.serviceName = name <;> simp [h]

theorem getHostedServiceProperties_outcome (name : Str) :
    Go.Hoare (· = ss) (getHostedServiceProperties name)
      (fun ss' hs => ss' = ss ∧ findService ss name = some hs) (· = ss) :=
  Go.Hoare.request_at ss rfl <| by
    rcases findService ss name with _ | s <;> simp

theorem addDeployment_outcome (d : Deployment) (n : Str) :
    Go.Hoare (· = ss) (addDeployment d n)
      (fun ss' _ => ss' = updateService n
        (fun s => { s with deployments := s.deployments ++ [{ d with roleInstanceList := d.roleList }] }) ss)
      (· = ss) :=
  Go.Hoare.request_at ss rfl <| by
    rcases findService ss n with _ | s <;> simp

theorem addRole_outcome (n r : Str) {hs : HostedService} {d : Deployment} {ds : List Deployment}
    (hf : findService ss n = some hs) (hd : hs.deployments = d :: ds) :
    Go.Hoare (· = ss) (addRole n d.name r)
      (fun ss' _ => r ∉ d.roleList ∧ ss' = updateService n (updateDeployment d.name (Deployment.withRole r)) ss)
      (· = ss) :=
  Go.Hoare.request_at ss rfl <| by
    simp only [hf, hd, Option.some_bind, List.find?_cons_of_pos, decide_True]
    by_cases h : r ∈ d.roleList <;> simp [h]

theorem deleteHostedService_outcome (n : Str) :
    Go.Hoare (· = ss) (deleteHostedService n)
      (fun ss' _ => ss' = ss.filter fun s => s.serviceName ≠ n) (· = ss) :=
  Go.Hoare.request_at ss rfl <| by
    by_cases h : ss.any fun s => s.serviceName = n <;> simp [h]

theorem deleteRole_outcome (n dn r : Str) :
    Go.Hoare (· = ss) (deleteRole n dn r)
      (fun ss' _ => ss' = updateService n (updateDeployment dn (Deployment.withoutRole r)) ss)
      (· = ss) :=
  Go.Hoare.request_at ss rfl <| by
    rcases findService ss n with _ | s
    · simp
    rcases hd : s.deployments.find? fun d => d.name = dn with _ | d
    · simp [hd]
    · by_cases h : r ∈ d.roleList <;> simp [hd, h]

end Requests

/-! ## `newHostedService` -/

section NewService

variable {pre label roleName serviceName : Str} {draw : Nat → Str}

theorem attemptCreateService_outcome (name label : Str) (ss : List HostedService) :
    Go.Hoare (· = ss) (attemptCreateService name label)
      (fun ss' r => match r with
        | none => ss' = ss
        | some n => n = name ∧ (¬ss.any fun s => s.serviceName = name) ∧
            ss' = ss ++ [⟨name, if label = [] then name else label, []⟩])
      (· = ss) :=
  Go.Hoare.bind (checkHostedServiceNameAvailability_outcome ss name).attempt fun r => by
    cases r with
    | error e => exact Go.Hoare.pure none fun _ h => h
    | ok u =>
      exact Go.Hoare.bind (addHostedService_outcome ss name _) fun _ =>
        Go.Hoare.pure _ fun _ h => ⟨rfl, h⟩

/-- The retry loop with `tries` tries left: no name and the cloud
unchanged, or the service of one of the tries added under a free name. -/
theorem createServiceLoop_outcome (pre label : Str) (draw : Nat → Str) :
    ∀ tries ss, Go.Hoare (· = ss) (createServiceLoop pre label draw tries)
      (fun ss' r => match r with
        | none => ss' = ss
        | some n => ∃ k, (0 < k ∧ k ≤ tries) ∧ n = pre ++ draw k ∧
            (¬ss.any fun s => s.serviceName = pre ++ draw k) ∧ ss' = ss ++ [drawnService pre label draw k])
      (· = ss)
  | 0, ss => Go.Hoare.pure none fun _ h => h
  | tries + 1, ss => Go.Hoare.bind (attemptCreateService_outcome _ label ss) fun r => by
    cases r with
    | some n => exact Go.Hoare.pure _ fun _ h => ⟨tries + 1, ⟨tries.succ_pos, le_rfl⟩, h⟩
    | none =>
      refine (createServiceLoop_outcome pre label draw tries ss).weaken (fun _ h => h)
        (fun ss' r h => ?_) fun _ h => h
      cases r with
      | none => exact h
      | some n =>
        obtain ⟨k, hk, rest⟩ := h
        exact ⟨k, ⟨hk.1, Nat.le_succ_of_le hk.2⟩, rest⟩

/-- `newHostedService` returns the service it added under a free name, or
fails leaving the cloud as it was or with that service. -/
theorem newHostedService_outcome (pre label : Str) (draw : Nat → Str) (ss : List HostedService) :
    Go.Hoare (· = ss) (newHostedService pre label draw) (ServiceFor pre label [] draw ss)
      (FailedCreate pre label roleName [] draw ss) :=
  Go.Hoare.bind (createServiceLoop_outcome pre label draw 10 ss).attempt fun r => by
    rcases r with e | _ | name
    · exact Go.Hoare.throw _ fun _ h => h ▸ .unchanged
    · exact Go.Hoare.throw _ fun _ h => h ▸ .unchanged
    · refine Go.Hoare.of_eq fun _ ⟨k, hk, hn, hfree, h⟩ => ?_
      subst h hn
      refine (getHostedServiceProperties_outcome _ _).weaken (fun _ h => h)
        (fun ss' hs ⟨h, hf⟩ => ?_) fun _ h => h ▸ .serviceLeft rfl hk hfree
      obtain rfl := Option.some.inj
        (hf.symm.trans (@findService_append_fresh ss (drawnService pre label draw k) hfree))
      exact h ▸ .drawn rfl hk hfree

end NewService

/-! ## `createInstance` -/

section CreateInstance

variable {pre label roleName serviceName : Str} {draw : Nat → Str}

theorem filter_append_fresh {ss : List HostedService} {hs : HostedService}
    (hn : ¬ss.any fun s => s.serviceName = hs.serviceName) :
    ((ss ++ [hs]).filter fun s => s.serviceName ≠ hs.serviceName) = ss := by
  simp only [List.any_eq_true, decide_eq_true_eq, not_exists, not_and] at hn
  simpa [List.filter_eq_self] using hn

/-- A failed run from a service without deployment ends in the cloud
`createInstance` had once it got the service, or in that cloud without it. -/
theorem ServiceFor.failed {ss ss1 : List HostedService} {hs : HostedService}
    (h : ServiceFor pre label serviceName draw ss ss1 hs) (hd : hs.deployments = []) :
    FailedCreate pre label roleName serviceName draw ss ss1 ∧
      FailedCreate pre label roleName serviceName draw ss
        (ss1.filter fun s => s.serviceName ≠ hs.serviceName) := by
  cases h with
  | given hn hf =>
    rw [(findService_some hf).2]
    exact ⟨.unchanged, .serviceDeleted hn hf hd⟩
  | drawn hn hk hfree =>
    rw [@filter_append_fresh ss (drawnService pre label draw _) hfree]
    exact ⟨.serviceLeft hn hk hfree, .unchanged⟩

theorem getInstance_added_deployment (hs : HostedService) (roleName : Str) :
    ∃ i, getInstance { hs with deployments := [⟨deploymentNameV2 hs.serviceName, [roleName], []⟩] }
      roleName = .ok i :=
  let ⟨i, hi, _⟩ := @getInstance_current
    { hs with deployments := [⟨deploymentNameV2 hs.serviceName, [roleName], []⟩] } _ roleName rfl rfl
  ⟨i, hi⟩

/-- The runs of `createInstance` from the cloud `ss`: no panic, a success as
`Created` says, a failure as `FailedCreate` says. -/
theorem createInstance_hoare (envName : Str) (draw : Nat → Str) (roleName serviceName : Str)
    (stateServer : Bool) (ss : List HostedService) :
    Go.Hoare (· = ss) (createInstance envName draw roleName serviceName stateServer)
      (Created (getEnvPrefix envName) (if stateServer then stateServerLabel else []) roleName
        serviceName draw ss)
      (FailedCreate (getEnvPrefix envName) (if stateServer then stateServerLabel else []) roleName
        serviceName draw ss) := by
  refine Go.Hoare.deferOnError ?_ (Go.Hoare.pure () fun _ h => h)
  refine Go.Hoare.bind (?_ : Go.Hoare _ _ (ServiceFor (getEnvPrefix envName)
    (if stateServer then stateServerLabel else []) serviceName draw ss) _)
    fun hs => Go.Hoare.of_eq fun ss1 h1 => ?_
  · by_cases hn : serviceName ≠ []
    · rw [if_pos hn]
      exact (getHostedServiceProperties_outcome ss serviceName).weaken (fun _ h => h)
        (fun _ _ ⟨h, hf⟩ => by subst h; exact .given hn hf) fun _ h => h ▸ .unchanged
    · rw [if_neg hn]
      obtain rfl := not_not.mp hn
      exact newHostedService_outcome _ _ draw ss
  · split
    · rename_i hd
      obtain ⟨hfail, hdel⟩ := h1.failed hd
      refine Go.Hoare.deferOnError (Go.Hoare.bind (addDeployment_outcome ss1 _ _) fun _ =>
        Go.Hoare.ofExcept _ (fun _ i h hi => by subst h; exact .deployed h1 hd hi)
          fun _ e _ he => ?_) ?_
      · obtain ⟨i, hi⟩ := getInstance_added_deployment hs roleName
        rw [hi] at he
        cases he
      · exact (deleteHostedService_outcome ss1 _).weaken (fun _ h => h) (fun _ _ h => h ▸ hdel)
          fun _ h => h ▸ hfail
    · rename_i d ds hd
      cases h1 with
      | drawn => cases hd
      | given hn hf =>
        obtain ⟨-, rfl⟩ := findService_some hf
        exact Go.Hoare.bind ((addRole_outcome ss _ roleName hf hd).weaken (fun _ h => h)
          (fun _ _ h => h) fun _ h => h ▸ .unchanged) fun _ =>
          Go.Hoare.ofExcept _ (fun _ i ⟨hr, h⟩ hi => h ▸ .roleAdded hn hf hd hr hi)
            fun _ e ⟨hr, h⟩ he => h ▸ .roleLeft hn hf hd hr he

/-- Every run of `createInstance`, from any cloud and whatever requests
fail: it does not panic, it returns an instance only as `Created` says, and
it fails only as `FailedCreate` says. -/
theorem createInstance_outcomes (envName : Str) (draw : Nat → Str) (roleName serviceName : Str)
    (stateServer : Bool) (w : World) :
    match createInstance envName draw roleName serviceName stateServer w with
    | (.ok i, w') => Created (getEnvPrefix envName) (if stateServer then stateServerLabel else [])
        roleName serviceName draw w.services w'.services i
    | (.err _, w') => FailedCreate (getEnvPrefix envName)
        (if stateServer then stateServerLabel else []) roleName serviceName draw w.services w'.services
    | (.panic _, _) => False := by
  have h := createInstance_hoare envName draw roleName serviceName stateServer w.services w rfl
  rcases hr : createInstance envName draw roleName serviceName stateServer w with ⟨i | e | m, w'⟩ <;>
    rw [hr] at h <;> exact h

/-- The run for the role `r1` whose read-back of the service it made fails
leaves that service: a `serviceLeft` failure. -/
theorem createInstance_outcomes_left :
    FailedCreate (getEnvPrefix "e".toList) [] "r1".toList [] (fun _ => "x".toList) []
      [⟨"juju-e-x".toList, "juju-e-x".toList, []⟩] := by
  have h := createInstance_outcomes "e".toList (fun _ => "x".toList) "r1".toList [] false
    ⟨[], [false, false, true]⟩
  rwa [show createInstance "e".toList (fun _ => "x".toList) "r1".toList [] false ⟨[], [false, false, true]⟩ =
    (.err (.api "GetHostedServiceProperties"), ⟨[⟨"juju-e-x".toList, "juju-e-x".toList, []⟩], []⟩)
    by decide] at h

end CreateInstance

end Juju.Azure
