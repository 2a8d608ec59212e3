import Juju.Azure.Listing

/-!
# What the environ says it supports: architectures, constraints, placement, ports

Model of the environ's capability answers in part_001:

* `SupportedArchitectures` (part_001:434-454) asks simplestreams
  (`common.SupportedArchitectures`, outside this repository) for the
  architectures of the region's images and keeps the list in
  `env.supportedArchitectures`, under `archMutex`: while that field is not
  nil the list is returned as it is. Go stores whatever list comes back, with
  its error, and an empty list that is not nil.
* `ConstraintsValidator` (part_001:501-524) asks for the architectures the
  same way, then for the instance types (`listInstanceTypes`, outside this
  repository), and registers both as vocabularies.
* `PrecheckInstance` (part_001:527-545) rejects a placement directive and an
  instance type that `listInstanceTypes` does not offer.
* `getInitialEndpoints` and `newRole` (part_001:782-837) give a new role its
  Linux configuration and its open ports.
* `SupportsUnitPlacement` (part_001:1283-1288) refuses unit placement when
  availability sets are enabled, the case in which `StartInstance` may put
  a machine into the cloud service of another (part_001:673-686).

**Answers from outside.** What simplestreams and `listInstanceTypes` answer
is given to each call (`ArchAnswer`, `Except String (List InstanceType)`); a
call that does not ask ignores it. Calls are taken one after the other, the
order `archMutex` gives them.

Results:
* `runCalls_after_list`: over every sequence of `SupportedArchitectures`
  and `ConstraintsValidator` calls from the empty cache, each call asks
  simplestreams until one gets a list back, even an empty list, even with an
  error; from then on the cache holds that list, `SupportedArchitectures`
  returns it with no error and every validator registers it, whatever
  simplestreams would answer.
* `startInstance_own_service`: when `SupportsUnitPlacement` allows unit
  placement, every `StartInstance` that succeeds creates a cloud service of
  its own, under a name no service had, holding the new role alone, and
  leaves every other service as it was.
-/
namespace Juju.Azure

/-! ## Architectures and the constraints validator -/

/-- What `common.SupportedArchitectures` answers: the architectures
(`none` for Go's nil slice) and an error's text. -/
structure ArchAnswer where
  arches : Option (List Str)
  err : Option String
  deriving DecidableEq, Repr

/-- mirrors part_001:434-454 (`azureEnviron.SupportedArchitectures`); the
cache is `env.supportedArchitectures`. -/
def supportedArchitectures (answer : ArchAnswer) :
    Option (List Str) → ArchAnswer × Option (List Str)
  | some as => (⟨some as, none⟩, some as)
  | none => (answer, answer.arches)

/-- An instance type (`instances.InstanceType`) by its name, the one field
the provider reads. -/
structure InstanceType where
  name : Str
  deriving DecidableEq, Repr

/-- The constraint attributes the validator is told about (constants of
juju's constraints package). -/
inductive ConstraintAttr where
  | arch | cpuCores | cpuPower | instanceType | mem | rootDisk | tags
  deriving DecidableEq, Repr

/-- mirrors part_001:495-498 (`unsupportedConstraints`) -/
def unsupportedConstraints : List ConstraintAttr := [.cpuPower, .tags]

/-- What `ConstraintsValidator` registers with juju's validator. -/
structure Validator where
  unsupported : List ConstraintAttr
  archVocabulary : Option (List Str)
  instanceTypeVocabulary : List Str
  conflicts : List ConstraintAttr × List ConstraintAttr
  deriving DecidableEq, Repr

/-- The validator `ConstraintsValidator` builds from the architectures and
the instance types it got. -/
def newValidator (arches : Option (List Str)) (instanceTypes : List InstanceType) : Validator where
  unsupported := unsupportedConstraints
  archVocabulary := arches
  instanceTypeVocabulary := instanceTypes.map (·.name)
  conflicts := ([.instanceType], [.mem, .cpuCores, .arch, .rootDisk])

/-- mirrors part_001:501-524 (`azureEnviron.ConstraintsValidator`);
`instanceTypes` is what `listInstanceTypes` answers. -/
def constraintsValidator (answer : ArchAnswer) (instanceTypes : Except String (List InstanceType))
    (cache : Option (List Str)) : Except String Validator × Option (List Str) :=
  let (arches, cache') := supportedArchitectures answer cache
  let validator : Except String Validator := do
    if let some e := arches.err then throw e
    let its ← instanceTypes
    pure (newValidator arches.arches its)
  (validator, cache')

/-- Answers can be compared, so that runs can be evaluated. -/
instance decEqExcept {ε α : Type} [DecidableEq ε] [DecidableEq α] : DecidableEq (Except ε α)
  | .error a, .error b => decidable_of_iff (a = b) (by simp)
  | .ok a, .ok b => decidable_of_iff (a = b) (by simp)
  | .error _, .ok _ => isFalse (by simp)
  | .ok _, .error _ => isFalse (by simp)

/-- A call that reads the architectures' cache, with what simplestreams and
`listInstanceTypes` would answer it. -/
inductive CapabilityCall where
  | supportedArchitectures (answer : ArchAnswer)
  | constraintsValidator (answer : ArchAnswer) (instanceTypes : Except String (List InstanceType))
  deriving DecidableEq, Repr

/-- What such a call returns. -/
inductive CapabilityResult where
  | architectures (a : ArchAnswer)
  | validator (v : Except String Validator)
  deriving DecidableEq, Repr

/-- What simplestreams would answer the call. -/
def CapabilityCall.answer : CapabilityCall → ArchAnswer
  | .supportedArchitectures a => a
  | .constraintsValidator a _ => a

/-- One call on the cache. -/
def CapabilityCall.run : CapabilityCall → Option (List Str) → CapabilityResult × Option (List Str)
  | .supportedArchitectures answer, cache =>
    let r := Juju.Azure.supportedArchitectures answer cache
    (.architectures r.1, r.2)
  | .constraintsValidator answer its, cache =>
    let r := Juju.Azure.constraintsValidator answer its cache
    (.validator r.1, r.2)

/-- Calls one after the other, on the environ's cache. -/
def runCalls : Option (List Str) → List CapabilityCall → List CapabilityResult × Option (List Str)
  | cache, [] => ([], cache)
  | cache, c :: cs =>
    let r := c.run cache
    let rs := runCalls r.2 cs
    (r.1 :: rs.1, rs.2)

/-- What a call returns once the cache holds `l`: the list with no error, or
a validator on it. -/
def CapabilityCall.cached (l : List Str) : CapabilityCall → CapabilityResult
  | .supportedArchitectures _ => .architectures ⟨some l, none⟩
  | .constraintsValidator _ its => .validator (its.map (newValidator (some l)))

section Cache

variable (c : CapabilityCall) (l : List Str)

@[simp] theorem run_none_snd : (c.run none).2 = c.answer.arches := by
  cases c <;> rfl

@[simp] theorem run_some : c.run (some l) = (c.cached l, some l) := by
  cases c with
  | supportedArchitectures a => rfl
  | constraintsValidator a its => cases its <;> rfl

theorem runCalls_some : ∀ cs, runCalls (some l) cs = (cs.map (CapabilityCall.cached l), some l)
  | [] => rfl
  | c :: cs => by simp only [runCalls, run_some, runCalls_some cs, List.map_cons]

theorem runCalls_none_append : ∀ (pre cs : List CapabilityCall),
    (∀ c ∈ pre, c.answer.arches = none) →
    runCalls none (pre ++ cs) =
      (pre.map (fun c => (c.run none).1) ++ (runCalls none cs).1, (runCalls none cs).2)
  | [], _, _ => rfl
  | c :: pre, cs, h => by
    have hc : (c.run none).2 = none := by rw [run_none_snd, h c (List.mem_cons_self _ _)]
    simp only [List.cons_append, List.append_eq, runCalls, hc,
      runCalls_none_append pre cs fun c' hc' => h c' (List.mem_cons_of_mem _ hc'), List.map_cons]

end Cache

/-- **The first list is kept.** From the empty cache, every call asks
simplestreams until one gets a list back (even an empty one, even with an
error, which that call still returns); from then on the cache holds that
list, and every later call returns it, whatever simplestreams would answer. -/
theorem runCalls_after_list (pre post : List CapabilityCall) (c : CapabilityCall) (l : List Str)
    (hpre : ∀ c ∈ pre, c.answer.arches = none) (hc : c.answer.arches = some l) :
    runCalls none (pre ++ c :: post) =
      ((pre ++ [c]).map (fun c => (c.run none).1) ++ post.map (CapabilityCall.cached l), some l) := by
  have hrun : runCalls none (c :: post) = ((c.run none).1 :: post.map (CapabilityCall.cached l), some l) := by
    simp only [runCalls, run_none_snd, hc, runCalls_some]
  rw [runCalls_none_append pre _ hpre, hrun]
  simp

/-- A failed lookup, then a list with an error: the validator fails, and
later calls get that list. -/
theorem runCalls_after_list_partial :
    let pre := [CapabilityCall.supportedArchitectures ⟨none, some "no image metadata"⟩]
    let c := CapabilityCall.constraintsValidator ⟨some ["amd64".toList], some "partial"⟩
      (.ok [⟨"A6".toList⟩])
    let post := [CapabilityCall.supportedArchitectures ⟨some ["i386".toList], none⟩,
      .constraintsValidator ⟨none, none⟩ (.ok [⟨"A6".toList⟩])]
    (∀ c ∈ pre, c.answer.arches = none) ∧ c.answer.arches = some ["amd64".toList] ∧
      runCalls none (pre ++ c :: post) =
        ((pre ++ [c]).map (fun c => (c.run none).1) ++
          post.map (CapabilityCall.cached ["amd64".toList]), some ["amd64".toList]) :=
  ⟨by decide, rfl, runCalls_after_list _ _ _ _ (by decide) rfl⟩

/-! ## Prechecking an instance -/

/-- mirrors part_001:527-545 (`azureEnviron.PrecheckInstance`): `instanceType`
is the constraint's instance type when `HasInstanceType` holds, and
`instanceTypes` what `listInstanceTypes` answers; the result is the error's
text, `none` for nil. The series is not read. -/
def precheckInstance (instanceTypes : Except String (List InstanceType))
    (instanceType : Option Str) (placement : Str) : Option String :=
  if placement ≠ [] then some ("unknown placement directive: " ++ String.mk placement)
  else match instanceType with
    | none => none
    | some t =>
      match instanceTypes with
      | .error e => some e
      | .ok its => if its.any (·.name = t) then none else some ("invalid instance type " ++ quote t)

/-- A rejection names the placement directive or the instance type, or is
the error `listInstanceTypes` returned. -/
theorem precheckInstance_error {instanceTypes : Except String (List InstanceType)}
    {instanceType : Option Str} {placement : Str} {e : String}
    (h : precheckInstance instanceTypes instanceType placement = some e) :
    e = "unknown placement directive: " ++ String.mk placement ∨
      instanceTypes = .error e ∨ ∃ t ∈ instanceType, e = "invalid instance type " ++ quote t := by
  unfold precheckInstance at h
  split at h
  · exact .inl (Option.some.inj h).symm
  · split at h
    · cases h
    · split at h
      · exact .inr (.inl (by cases h; rfl))
      · split at h
        · cases h
        · exact .inr (.inr ⟨_, rfl, (Option.some.inj h).symm⟩)

/-! ## The ports a new role opens -/

/-- `gwacl.LoadBalancerProbe` -/
structure LoadBalancerProbe where
  port : Nat
  protocol : String
  deriving DecidableEq, Repr

/-- `gwacl.InputEndpoint`, with the fields the provider sets; the others
keep Go's zero values. -/
structure InputEndpoint where
  localPort : Nat
  name : String
  port : Nat
  protocol : String
  loadBalancedEndpointSetName : String := ""
  loadBalancerProbe : Option LoadBalancerProbe := none
  deriving DecidableEq, Repr

/-- mirrors part_001:782-807 (`azureEnviron.getInitialEndpoints`); `apiPort`
is the configuration's `APIPort()`. -/
def getInitialEndpoints (apiPort : Nat) (stateServer : Bool) : List InputEndpoint :=
  let endpoints : List InputEndpoint :=
    { localPort := 22, name := "sshport", port := 22, protocol := "tcp" } ::
      if stateServer then
        [{ localPort := apiPort, port := apiPort, protocol := "tcp", name := "apiport" }]
      else []
  endpoints.map fun endpoint =>
    { endpoint with
      loadBalancedEndpointSetName := endpoint.name
      loadBalancerProbe := some ⟨endpoint.port, "TCP"⟩ }

/-- `gwacl.ConfigurationSet`, as `newRole` makes them. -/
inductive ConfigurationSet where
  /-- `NewLinuxProvisioningConfigurationSet(hostname, username, password,
  customData, disableSSHPasswordAuthentication)` -/
  | linuxProvisioning (hostname username password customData : Str) (disableSSH : String)
  /-- `NewNetworkConfigurationSet(inputEndpoints, nil)` -/
  | network (inputEndpoints : List InputEndpoint)
  deriving DecidableEq, Repr

/-- `gwacl.Role`, without its OS disk. -/
structure Role where
  roleSize : String
  roleName : Str
  configurationSets : List ConfigurationSet
  availabilitySetName : String
  deriving DecidableEq, Repr

/-- mirrors part_001:821-837 (`azureEnviron.newRole`); `roleName` and
`password` are gwacl's random draws (`MakeRandomRoleName("juju")`,
`MakeRandomPassword()`). -/
def newRole (roleSize : String) (userData : Str) (stateServer : Bool) (apiPort : Nat)
    (roleName password : Str) : Role :=
  let hostname := roleName
  let username := "ubuntu".toList
  { roleSize := roleSize
    roleName := roleName
    configurationSets := [.linuxProvisioning hostname username password userData "true",
      .network (getInitialEndpoints apiPort stateServer)]
    availabilitySetName := "juju" }

/-! ## Unit placement -/

/-- mirrors part_001:1283-1288 (`azureEnviron.SupportsUnitPlacement`): the
error's text, `none` for nil. -/
def supportsUnitPlacement (availabilitySetsEnabled : Bool) : Option String :=
  if availabilitySetsEnabled then some "unit placement is not supported with availability-sets-enabled"
  else none

/-- **A placed machine gets a cloud service of its own.** When
`SupportsUnitPlacement` allows unit placement, a `StartInstance` that
succeeds from a laid-out cloud creates a new cloud service, named as no
service before it, with one current deployment holding the new role alone,
and leaves every other service as it was. -/
theorem startInstance_own_service {envName : Str} {availabilitySetsEnabled : Bool}
    (hplace : supportsUnitPlacement availabilitySetsEnabled = none) {draw : Nat → Str}
    (hdraw : ∀ k, IsIdent (draw k)) {roleName : Str} {args : StartInstanceParams} {w : World}
    (h : LayoutInv envName w.services) {i : AzureInstance} {w' : World}
    (hok : startInstance envName availabilitySetsEnabled draw roleName args w = (.ok i, w')) :
    i.serviceName ∉ w.services.map (·.serviceName) ∧ ∃ label,
      w'.services = w.services ++
        [⟨i.serviceName, label, [⟨deploymentNameV2 i.serviceName, [roleName], [roleName]⟩]⟩] := by
  obtain ⟨sn, hsn, hc, -⟩ := startInstance_ok hdraw h hok
  have hoff : availabilitySetsEnabled = false := by
    cases availabilitySetsEnabled
    · rfl
    · cases hplace
  -- without availability sets no service is picked, so one is drawn
  obtain rfl : sn = [] := hsn.resolve_right fun ⟨_, hon, _⟩ => by simp [hoff] at hon
  obtain ⟨k, hfree, hss, rfl⟩ := hc.drawn
  simp only [List.any_eq_true, decide_eq_true_eq, not_exists, not_and] at hfree
  exact ⟨by simpa using hfree, _, hss⟩

/-- Without availability sets, a machine started with the distribution group
of `juju-e-abc`'s machine still gets the new service `juju-e-x`. -/
theorem startInstance_own_service_abc :
    let ss : List HostedService :=
      [⟨"juju-e-abc".toList, [], [⟨"juju-e-abc-v2".toList, ["r1".toList], ["r1".toList]⟩]⟩]
    let args : StartInstanceParams := ⟨false, .ok (), ["t".toList], .ok (), .ok (),
      some (.ok ["juju-e-abc-r1".toList]), []⟩
    supportsUnitPlacement false = none ∧ (∀ k, IsIdent ((fun _ : Nat => "x".toList) k)) ∧
      LayoutInv "e".toList ss ∧
      ∃ i w', startInstance "e".toList false (fun _ => "x".toList) "r2".toList args ⟨ss, []⟩ =
          (.ok i, w') ∧
        i.serviceName ∉ ss.map (·.serviceName) ∧ ∃ label, w'.services = ss ++
          [⟨i.serviceName, label, [⟨deploymentNameV2 i.serviceName, ["r2".toList], ["r2".toList]⟩]⟩] := by
  intro ss args
  have hdraw : ∀ k, IsIdent ((fun _ : Nat => "x".toList) k) := fun _ => (by decide : IsIdent "x".toList)
  have h : LayoutInv "e".toList ss := ⟨by decide, fun hs hm _ => by
    rw [List.mem_singleton.mp hm]
    exact ⟨.inr ⟨_, rfl, .inr ⟨rfl, by simp⟩⟩, ⟨"abc".toList, by decide, rfl⟩, by decide⟩⟩
  exact ⟨rfl, hdraw, h, _, _, rfl, @startInstance_own_service _ false rfl _ hdraw "r2".toList args ⟨ss, []⟩ h _ _ rfl⟩

end Juju.Azure
