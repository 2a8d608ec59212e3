import Juju.Azure.Cloud

/-!
# Instance ids: the encoder `getInstance` and the decoder `splitInstanceId`

An instance of the Azure provider is a role of a cloud service. Its id is
built by `getInstance` from the service and the role:

* a legacy service (one deployment named `deploymentNameV1 s = s`, one
  role) gives the id `s`;
* a current service (one deployment named `deploymentNameV2 s = s ++ "-v2"`)
  gives `s ++ "-" ++ role` for any role asked for.

`splitInstanceId` takes an id apart again: strip the environment prefix
`juju-<name>-`, split the rest at `-`, and read the service as the prefix
plus the first field and the role as the second field.

Result:
* `splitInstanceId_getInstance`: for every environment name (with or
  without `-`), every service named `getEnvPrefix name ++ x` and every role
  `r` with `x`, `r` over gwacl's alphabet `[a-z0-9]`, decoding the id
  `getInstance` builds gives back `(s, r)` for a current service and `(s, "")`
  for a legacy one; the role comes back empty exactly for legacy services.

A cloud service made by `newHostedService` for an environment
(`CreatedFor`) is named by its prefix and a random identifier over
`[a-z0-9]`. The prefix of one environment selects a service made for
another exactly when the other's name is the first's followed by `-` and
more (`getEnvPrefix_separates`).
-/
namespace Juju.Azure

/-- mirrors part_001:1074-1076 (`azureEnviron.getEnvPrefix`) -/
def getEnvPrefix (envName : Str) : Str := "juju-".toList ++ envName ++ ['-']

/-- mirrors part_001:623-625 (`deploymentNameV1`) -/
def deploymentNameV1 (serviceName : Str) : Str := serviceName

/-- mirrors part_001:629-631 (`deploymentNameV2`) -/
def deploymentNameV2 (serviceName : Str) : Str := serviceName ++ "-v2".toList

/-- The label of the cloud service created for state servers (part_001:53). -/
def stateServerLabel : Str := "juju-state-server".toList

theorem deploymentNameV1_ne_V2 (s : Str) : deploymentNameV1 s ≠ deploymentNameV2 s := by
  simp [deploymentNameV1, deploymentNameV2]

/-- mirrors part_001:939-950 (`azureEnviron.splitInstanceId`): both parts
empty for an id without the prefix, the role empty for a legacy id. -/
def splitInstanceId (envName id : Str) : Str × Str :=
  let pre := getEnvPrefix envName
  if pre.isPrefixOf id then
    let fields := (id.drop pre.length).splitOn '-'
    (pre ++ fields.headD [], fields.getD 1 [])
  else ([], [])

/-- An instance (`azureInstance`) as `getInstance` builds it: the service's
descriptor (name and label), the id, the deployment, the role, the role's
running instance if it is listed, and whether the state-server ports are
masked. -/
structure AzureInstance where
  serviceName : Str
  label : Str
  instanceId : Str
  deploymentName : Str
  roleName : Str
  roleInstance : Option Str
  maskStateServerPorts : Bool
  deriving DecidableEq, Repr

/-- The `switch deployment.Name` of `getInstance` (part_001:726-745): the
instance id, the role and `maskStateServerPorts`. A deployment with neither
name leaves the id empty. -/
def identify (hs : HostedService) (d : Deployment) (roleName : Str) :
    Except AzErr (Str × Str × Bool) :=
  if d.name = deploymentNameV1 hs.serviceName then
    match d.roleList with
    | [r] => .ok (hs.serviceName, r, true)
    | rs => .error (.expectedOneRole d.name rs.length)
  else if d.name = deploymentNameV2 hs.serviceName then
    .ok (hs.serviceName ++ '-' :: roleName, roleName, hs.label = stateServerLabel)
  else .ok ([], roleName, false)

/-- mirrors part_001:718-765 (`azureEnviron.getInstance`) -/
def getInstance (hs : HostedService) (roleName : Str) : Except AzErr AzureInstance :=
  match hs.deployments with
  | [d] => (identify hs d roleName).map fun (instanceId, roleName, mask) =>
      { serviceName := hs.serviceName, label := hs.label, instanceId := instanceId,
        deploymentName := d.name, roleName := roleName,
        roleInstance := d.roleInstanceList.find? (· = roleName),
        maskStateServerPorts := mask }
  | ds => .error (.expectedOneDeployment hs.serviceName ds.length)

/-! ## Decoding what `getInstance` encodes -/

theorem splitInstanceId_service_hasPrefix (envName id : Str) (h : (splitInstanceId envName id).1 ≠ []) :
    getEnvPrefix envName <+: (splitInstanceId envName id).1 := by
  by_cases hp : (getEnvPrefix envName).isPrefixOf id <;> simp_all [splitInstanceId]

theorem splitInstanceId_legacy (envName x : Str) (hx : '-' ∉ x) :
    splitInstanceId envName (getEnvPrefix envName ++ x) = (getEnvPrefix envName ++ x, []) := by
  simp [splitInstanceId, splitOn_single hx]

theorem splitInstanceId_current (envName x r : Str) (hx : '-' ∉ x) (hr : '-' ∉ r) :
    splitInstanceId envName (getEnvPrefix envName ++ (x ++ '-' :: r)) =
      (getEnvPrefix envName ++ x, r) := by
  simp [splitInstanceId, splitOn_dash hx hr]

theorem splitInstanceId_current_service (envName x r : Str) (hx : '-' ∉ x) :
    (splitInstanceId envName (getEnvPrefix envName ++ (x ++ '-' :: r))).1 =
      getEnvPrefix envName ++ x := by
  simp [splitInstanceId, splitOn_dash_cons hx]

theorem getInstance_legacy {hs : HostedService} {d : Deployment} {r0 : Str} (roleName : Str)
    (hd : hs.deployments = [d]) (hn : d.name = deploymentNameV1 hs.serviceName)
    (hr : d.roleList = [r0]) :
    ∃ i, getInstance hs roleName = .ok i ∧ i.instanceId = hs.serviceName ∧ i.roleName = r0 := by
  simp [getInstance, hd, identify, hn, hr, Except.map]

theorem getInstance_current {hs : HostedService} {d : Deployment} (roleName : Str)
    (hd : hs.deployments = [d]) (hn : d.name = deploymentNameV2 hs.serviceName) :
    ∃ i, getInstance hs roleName = .ok i ∧ i.instanceId = hs.serviceName ++ '-' :: roleName ∧
      i.roleName = roleName := by
  have := deploymentNameV1_ne_V2 hs.serviceName
  simp [getInstance, hd, identify, hn, Except.map, Ne.symm this]

/-- The id codec round trip: for a service `getEnvPrefix envName ++ x` whose
single deployment is a current one, or a legacy one with one role,
`getInstance` succeeds and `splitInstanceId` gives back the service and the
role (empty exactly for the legacy deployment). -/
theorem splitInstanceId_getInstance (envName x r : Str) (hs : HostedService) (d : Deployment)
    (hx : IsIdent x) (hr : IsIdent r) (hr0 : r ≠ [])
    (hname : hs.serviceName = getEnvPrefix envName ++ x) (hd : hs.deployments = [d])
    (hkind : d.name = deploymentNameV2 hs.serviceName ∨
      (d.name = deploymentNameV1 hs.serviceName ∧ d.roleList.length = 1)) :
    ∃ i, getInstance hs r = .ok i ∧
      splitInstanceId envName i.instanceId =
        (hs.serviceName, if d.name = deploymentNameV1 hs.serviceName then [] else r) ∧
      ((splitInstanceId envName i.instanceId).2 = [] ↔ d.name = deploymentNameV1 hs.serviceName) := by
  rcases hkind with hv2 | ⟨hv1, hlen⟩
  · obtain ⟨i, hi, hid, -⟩ := getInstance_current r hd hv2
    have hne : d.name ≠ deploymentNameV1 hs.serviceName :=
      hv2 ▸ (deploymentNameV1_ne_V2 _).symm
    refine ⟨i, hi, ?_⟩
    rw [hid, hname, List.append_assoc,
      splitInstanceId_current envName x r hx.dash_not_mem hr.dash_not_mem, ← hname]
    simp [hne, hr0]
  · obtain ⟨r0, hr0'⟩ := List.length_eq_one.mp hlen
    obtain ⟨i, hi, hid, -⟩ := getInstance_legacy r hd hv1 hr0'
    refine ⟨i, hi, ?_⟩
    rw [hid, hname, splitInstanceId_legacy envName x hx.dash_not_mem, ← hname]
    simp [hv1]

/-- The round trip for the role `juju9` of the current service `abc1` of the
environment `my-env`, whose name holds a `-`. -/
theorem splitInstanceId_getInstance_myEnv :
    let hs : HostedService := ⟨"juju-my-env-abc1".toList, [],
      [⟨"juju-my-env-abc1-v2".toList, ["juju9".toList], []⟩]⟩
    ∃ i, getInstance hs "juju9".toList = .ok i ∧
      splitInstanceId "my-env".toList i.instanceId = (hs.serviceName, "juju9".toList) ∧
      ((splitInstanceId "my-env".toList i.instanceId).2 = [] ↔
        "juju-my-env-abc1-v2".toList = deploymentNameV1 hs.serviceName) := by
  intro hs
  have h := splitInstanceId_getInstance "my-env".toList "abc1".toList "juju9".toList hs
    ⟨"juju-my-env-abc1-v2".toList, ["juju9".toList], []⟩ (by decide) (by decide) (by decide)
    rfl rfl (Or.inl rfl)
  simpa using h

/-! ## Names made for an environment -/

/-- A cloud service made by `newHostedService` for the environment: the
prefix and a random identifier over `[a-z0-9]`. -/
def CreatedFor (envName : Str) (s : HostedService) : Prop :=
  ∃ x, IsIdent x ∧ s.serviceName = getEnvPrefix envName ++ x

instance (envName : Str) (s : HostedService) : Decidable (CreatedFor envName s) :=
  decidable_of_iff (getEnvPrefix envName <+: s.serviceName ∧
      IsIdent (s.serviceName.drop (getEnvPrefix envName).length)) <| by
    constructor
    · rintro ⟨hp, hx⟩
      exact ⟨_, hx, (List.prefix_iff_eq_append.mp hp).symm⟩
    · rintro ⟨x, hx, hn⟩
      rw [hn, List.drop_left]
      exact ⟨List.prefix_append _ _, hx⟩

/-- The prefix of `n1` is not a prefix of a name made for `n2`, unless `n2`
is `n1`, or `n1` followed by `-` and more. -/
theorem getEnvPrefix_separates {n1 n2 x : Str} (hne : n1 ≠ n2) (hsep : ¬n1 ++ ['-'] <+: n2)
    (hx : '-' ∉ x) : ¬getEnvPrefix n1 <+: getEnvPrefix n2 ++ x := by
  intro h
  simp only [getEnvPrefix, List.append_assoc, List.prefix_append_right_inj] at h
  have h1 : n1 <+: n2 ++ ('-' :: x) := (List.prefix_append n1 _).trans h
  rcases Nat.lt_or_ge n1.length n2.length with hl | hl
  · exact hsep (List.prefix_of_prefix_length_le h (List.prefix_append n2 _) (by simp; omega))
  · rcases Nat.eq_or_lt_of_le hl with he | hl
    · exact hne ((List.prefix_of_prefix_length_le h1 (List.prefix_append n2 _) he.symm.le).eq_of_length
        he.symm)
    · obtain ⟨z, rfl⟩ := List.prefix_of_prefix_length_le
        (show n2 ++ ['-'] <+: n2 ++ ('-' :: x) by simp) h1 (by simp; omega)
      simp only [List.append_assoc, List.prefix_append_right_inj, List.singleton_append] at h
      exact hx (((List.prefix_cons_inj _).mp h).subset (by simp))

theorem getEnvPrefix_ne_stateServerLabel {envName : Str} (henv : envName ≠ "state".toList)
    (x : Str) : getEnvPrefix envName ++ x ≠ stateServerLabel := fun h =>
  getEnvPrefix_separates henv (fun hp => (by decide : '-' ∉ "state".toList) (hp.subset (by simp)))
    (by decide : '-' ∉ "server".toList)
    (by rw [(by decide : getEnvPrefix "state".toList ++ "server".toList = stateServerLabel), ← h]
        exact List.prefix_append _ _)

end Juju.Azure
