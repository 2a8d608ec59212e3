import Juju.Azure.Stop

/-!
# Creating an instance: `newHostedService`, `createInstance`, `StartInstance`

`StartInstance` picks a cloud service for the new role: the service of the
first instance of the distribution group when availability sets are enabled,
and otherwise none. Before that it reads the first of the tools it is given
(`args.Tools[0]`), a run-time panic when there is none. `createInstance` then either adds the role to the
service's first deployment (`AddRole`) or, for a service without deployment
(a new one from `newHostedService`, which tries up to ten random names), adds
a current deployment holding the role (`AddDeployment`), and reads the
instance back with `getInstance`.

On failure, two deferred cleanups are meant to undo what was done: the
service is deleted when it had no deployment, and the new instance is
stopped. The second reads the local `inst`, which the function never
assigns, so it never runs.

Results:
* `createInstance_error_changes_cloud`: a failed `createInstance` can leave
  the cloud changed: a role added to a legacy deployment that `getInstance`
  then rejects, a service created by `newHostedService` whose read-back
  failed, a service that existed before deleted by the cleanup.
-/
namespace Juju.Azure

/-- mirrors part_001:396-414 (`attemptCreateService`); `name` is what
`gwacl.MakeRandomHostedServiceName(prefix)` drew. `none` when the name is
taken: the caller tries again. -/
def attemptCreateService (name label : Str) : Go (Option Str) := do
  match ← Go.attempt (checkHostedServiceNameAvailability name) with
  | .error _ => pure none
  | .ok () =>
    addHostedService name (if label = [] then name else label)
    pure (some name)

/-- The retry loop of `newHostedService` (part_001:421-423) with `tries`
tries left; `draw tries` is the random identifier gwacl appends to the
prefix on that try. -/
def createServiceLoop (pre label : Str) (draw : Nat → Str) : Nat → Go (Option Str)
  | 0 => pure none
  | tries + 1 => do
    match ← attemptCreateService (pre ++ draw (tries + 1)) label with
    | some name => pure (some name)
    | none => createServiceLoop pre label draw tries

/-- mirrors part_001:418-431 (`newHostedService`) -/
def newHostedService (pre label : Str) (draw : Nat → Str) : Go HostedService := do
  match ← Go.attempt (createServiceLoop pre label draw 10) with
  | .error e => Go.throw (.couldNotCreateHostedService e)
  | .ok none => Go.throw .noUniqueServiceName
  | .ok (some name) => getHostedServiceProperties name

/-- The first deferred cleanup of `createInstance` (part_001:555-562): stop
the instance `inst` when there is one. -/
def releaseFailedInstance (envName : Str) (inst : Option AzureInstance) : Go Unit :=
  match inst with
  | some i => stopInstances envName [i.instanceId]
  | none => pure ()

/-- mirrors part_001:553-619 (`azureEnviron.createInstance`); the role is
known by its name, and `draw` feeds `newHostedService`. The local `inst`
that the first cleanup reads keeps its initial `nil`; the second cleanup,
registered for a service without deployment, deletes the service and
ignores the error. -/
def createInstance (envName : Str) (draw : Nat → Str) (roleName serviceName : Str)
    (stateServer : Bool) : Go AzureInstance :=
  let inst : Option AzureInstance := none
  Go.deferOnError (releaseFailedInstance envName inst) do
    let label := if stateServer then stateServerLabel else []
    let service ← (if serviceName ≠ [] then getHostedServiceProperties serviceName
      else newHostedService (getEnvPrefix envName) label draw)
    match service.deployments with
    | [] =>
      Go.deferOnError (deleteHostedService service.serviceName) do
        let deployment : Deployment :=
          ⟨deploymentNameV2 service.serviceName, [roleName], []⟩
        addDeployment deployment service.serviceName
        Go.ofExcept (getInstance { service with deployments := [deployment] } roleName)
    | d :: ds =>
      addRole service.serviceName d.name roleName
      let d' := { d with roleList := d.roleList ++ [roleName] }
      Go.ofExcept (getInstance { service with deployments := d' :: ds } roleName)

/-- The loop of `StartInstance` over the distribution group (part_001:683-688):
the service of the first id that decodes to one. -/
def pickCloudServiceName (envName : Str) : List Str → Str
  | [] => []
  | id :: ids =>
    let service := (splitInstanceId envName id).1
    if service ≠ [] then service else pickCloudServiceName envName ids

/-- The machine jobs `StartInstance` looks at (`params.MachineJob`). -/
inductive Job where
  | hostUnits
  | manageEnviron
  deriving DecidableEq, Repr

/-- What `StartInstance` reads of its arguments: whether networks are asked
for, the tools (the first is picked), the outcome of the steps whose code is
not in this repository (`FinishMachineConfig`, `makeCustomData` with its
`custom data:` wrapping, `selectInstanceTypeAndImage`), the distribution
group, if any, with what it returns, and the machine's jobs. -/
structure StartInstanceParams where
  hasNetworks : Bool
  finishMachineConfig : Except AzErr Unit
  tools : List Str
  customData : Except AzErr Unit
  selectImage : Except AzErr Unit
  distributionGroup : Option (Except AzErr (List Str))
  jobs : List Job

/-- Go's run-time error for an index past the end of a slice. -/
def indexOutOfRange : String := "index out of range"

/-- mirrors part_001:634-704 (`azureEnviron.StartInstance`), without the
hardware characteristics it returns; `roleName` is what
`gwacl.MakeRandomRoleName("juju")` drew in `newRole`. -/
def startInstance (envName : Str) (availabilitySetsEnabled : Bool) (draw : Nat → Str)
    (roleName : Str) (args : StartInstanceParams) : Go AzureInstance := do
  (if args.hasNetworks then Go.throw .networksNotSupported else pure ())
  Go.ofExcept args.finishMachineConfig
  (match args.tools with
    | [] => Go.crash indexOutOfRange
    | _ :: _ => pure ())
  Go.ofExcept args.customData
  getManagementAPI
  Go.ofExcept args.selectImage
  let cloudServiceName ← (match args.distributionGroup with
    | some ids =>
      if availabilitySetsEnabled then pickCloudServiceName envName <$> Go.ofExcept ids
      else pure []
    | none => pure [])
  createInstance envName draw roleName cloudServiceName (args.jobs.contains .manageEnviron)

/-! ## Failures that leave the cloud changed -/

/-- Three failed runs of `createInstance` in the environment `e`: adding the
role `r2` to the legacy service `juju-e-abc` succeeds and `getInstance`
rejects the result, so the role stays; the service `juju-e-x` created for a
new instance stays when reading it back fails; and the service `juju-e-abc`
with no deployment, which existed before, is deleted when `AddDeployment`
fails. -/
theorem createInstance_error_changes_cloud :
    createInstance "e".toList (fun _ => "x".toList) "r2".toList "juju-e-abc".toList false
      ⟨[⟨"juju-e-abc".toList, [], [⟨"juju-e-abc".toList, ["r1".toList], ["r1".toList]⟩]⟩], []⟩ =
      (.err (.expectedOneRole "juju-e-abc".toList 2),
        ⟨[⟨"juju-e-abc".toList, [], [⟨"juju-e-abc".toList, ["r1".toList, "r2".toList],
          ["r1".toList, "r2".toList]⟩]⟩], []⟩) ∧
    createInstance "e".toList (fun _ => "x".toList) "r1".toList [] false ⟨[], [false, false, true]⟩ =
      (.err (.api "GetHostedServiceProperties"),
        ⟨[⟨"juju-e-x".toList, "juju-e-x".toList, []⟩], []⟩) ∧
    createInstance "e".toList (fun _ => "x".toList) "r1".toList "juju-e-abc".toList false
      ⟨[⟨"juju-e-abc".toList, [], []⟩], [false, true]⟩ = (.err (.api "AddDeployment"), ⟨[], []⟩) := by
  decide

end Juju.Azure
