import Mathlib.Data.List.Nodup
import Juju.Core.GoString
import Juju.Core.ErrState

/-!
# The Azure management API as the provider uses it

The provider (part_001) reaches Azure only through gwacl's
`ManagementAPI`. This module fixes what the cloud is (`HostedService`,
`Deployment`), what a Go function of the provider does to it (`Go`: the
error-state monad `ErrState` over `World`, with Go's run-time panics as a
third outcome) and what each gwacl request does
(`getHostedServiceProperties` and the rest). Its judgements (`Go.Spec`,
`Go.Reads`, `Go.Triple`, `Go.Hoare`) are instances of `ErrState.Triple`.

**Faults.** Any request may fail whatever the cloud holds (network, throttling,
a conflict elsewhere in the subscription). `World.faults` says, request by
request, whether the next one fails; `[]` is a session in which no request
fails. A failed request changes nothing. A request that succeeds answers from
the cloud: asking for a service that does not exist is an error answer
(HTTP 404), adding a name that exists is a conflict.

**Labels** are kept decoded: gwacl base64-encodes a label when it creates the
service and the provider decodes it on every read, so only the plain text
matters.
-/
namespace Juju.Azure

/-- A deployment (`gwacl.Deployment`): its name, the names of its roles
(`RoleList`) and of its running role instances (`RoleInstanceList`). -/
structure Deployment where
  name : Str
  roleList : List Str
  roleInstanceList : List Str
  deriving DecidableEq, Repr

/-- A cloud service (`gwacl.HostedService`) as `GetHostedServiceProperties(name, true)`
returns it. -/
structure HostedService where
  serviceName : Str
  label : Str
  deployments : List Deployment
  deriving DecidableEq, Repr

/-- The errors the modelled functions return. -/
inductive AzErr where
  /-- a gwacl request failed; the Azure error text is not part of this repository -/
  | api (request : String)
  | couldNotCreateHostedService (e : AzErr)
  | noUniqueServiceName
  | expectedOneDeployment (service : Str) (n : Nat)
  | expectedOneRole (deployment : Str) (n : Nat)
  /-- `environs.ErrNoInstances` -/
  | noInstances
  /-- `environs.ErrPartialInstances` -/
  | partialInstances
  | networksNotSupported
  /-- `FinishMachineConfig`, `makeCustomData` or the image selection failed -/
  | prepare (step : String)
  /-- the error of `args.DistributionGroup()` -/
  | distributionGroup
  /-- `environs.ErrNotBootstrapped` -/
  | notBootstrapped
  deriving DecidableEq, Repr

/-- Go's `%q` of an ASCII name. -/
def quote (s : Str) : String := "\"" ++ String.mk s ++ "\""

/-- The text of each error, as the provider formats it. -/
def AzErr.message : AzErr → String
  | .api r => r ++ " request failed"
  | .couldNotCreateHostedService e => "could not create hosted service: " ++ e.message
  | .noUniqueServiceName =>
    "could not come up with a unique hosted service name - is your randomizer initialized?"
  | .expectedOneDeployment s n => "expected one deployment for " ++ quote s ++ ", got " ++ toString n
  | .expectedOneRole d n => "expected one role for " ++ quote d ++ ", got " ++ toString n
  | .noInstances => "no instances found"
  | .partialInstances => "only some instances were found"
  | .networksNotSupported => "starting instances with networks is not supported yet."
  | .prepare s => s
  | .distributionGroup => "distribution group"
  | .notBootstrapped => "environment is not bootstrapped"

/-- The management session: the subscription's cloud services, and whether
each of the next requests fails. -/
structure World where
  services : List HostedService
  faults : List Bool
  deriving DecidableEq, Repr

/-- How a Go function of the provider ends. -/
abbrev Res := Outcome AzErr

/-- A Go function of the provider: errors and panics end it, and the cloud
keeps what it did before. -/
abbrev Go := ErrState World AzErr

namespace Go

export ErrState (throw crash attempt ofExcept deferOnError pure_apply bind_apply bind_ok bind_eq_ok
  attempt_apply throw_apply crash_apply ofExcept_apply)

end Go

/-! ## gwacl requests -/

/-- One request to the management API: it fails when the next fault says so,
and otherwise does `act` on the cloud. -/
def request (name : String) (act : List HostedService → Res α × List HostedService) : Go α :=
  fun w =>
    if w.faults.head? = some true then (.err (.api name), ⟨w.services, w.faults.tail⟩)
    else ((act w.services).1, ⟨(act w.services).2, w.faults.tail⟩)

/-- The cloud service named `name`. -/
def findService (ss : List HostedService) (name : Str) : Option HostedService :=
  ss.find? (fun s => s.serviceName = name)

/-- Apply `f` to the service named `name`. -/
def updateService (name : Str) (f : HostedService → HostedService) (ss : List HostedService) :
    List HostedService :=
  ss.map fun s => if s.serviceName = name then f s else s

/-- Apply `f` to the deployment named `dn`. -/
def updateDeployment (dn : Str) (f : Deployment → Deployment) (s : HostedService) :
    HostedService :=
  { s with deployments := s.deployments.map fun d => if d.name = dn then f d else d }

/-- `getManagementAPI`: a session from the snapshot's subscription and
certificate; it fails when the certificate file or the session cannot be made. -/
def getManagementAPI : Go Unit := request "getManagementAPI" fun ss => (.ok (), ss)

/-- `GetHostedServiceProperties(name, true)`. -/
def getHostedServiceProperties (name : Str) : Go HostedService :=
  request "GetHostedServiceProperties" fun ss =>
    match findService ss name with
    | some s => (.ok s, ss)
    | none => (.err (.api "GetHostedServiceProperties"), ss)

/-- `ListPrefixedHostedServices`: the services whose names start with `pre`
(`strings.HasPrefix`); the provider reads only their names. -/
def listPrefixedHostedServices (pre : Str) : Go (List Str) :=
  request "ListPrefixedHostedServices" fun ss =>
    (.ok ((ss.filter fun s => pre.isPrefixOf s.serviceName).map (·.serviceName)), ss)

/-- `ListSpecificHostedServices`: the services whose names were asked for. -/
def listSpecificHostedServices (names : List Str) : Go (List Str) :=
  request "ListSpecificHostedServices" fun ss =>
    (.ok ((ss.filter fun s => s.serviceName ∈ names).map (·.serviceName)), ss)

/-- `CheckHostedServiceNameAvailability`: an error when the name is taken. -/
def checkHostedServiceNameAvailability (name : Str) : Go Unit :=
  request "CheckHostedServiceNameAvailability" fun ss =>
    if ss.any (fun s => s.serviceName = name) then (.err (.api "CheckHostedServiceNameAvailability"), ss)
    else (.ok (), ss)

/-- `AddHostedService`: a new service with no deployment. -/
def addHostedService (name label : Str) : Go Unit :=
  request "AddHostedService" fun ss =>
    if ss.any (fun s => s.serviceName = name) then (.err (.api "AddHostedService"), ss)
    else (.ok (), ss ++ [⟨name, label, []⟩])

/-- `AddDeployment(deployment, serviceName)`: the deployment, with a running
instance of each of its roles. -/
def addDeployment (d : Deployment) (serviceName : Str) : Go Unit :=
  request "AddDeployment" fun ss =>
    match findService ss serviceName with
    | some _ =>
      let d' := { d with roleInstanceList := d.roleList }
      (.ok (), updateService serviceName (fun s => { s with deployments := s.deployments ++ [d'] }) ss)
    | none => (.err (.api "AddDeployment"), ss)

/-- The deployment with one more role, and its instance. -/
def Deployment.withRole (roleName : Str) (d : Deployment) : Deployment :=
  { d with roleList := d.roleList ++ [roleName],
           roleInstanceList := d.roleInstanceList ++ [roleName] }

/-- The deployment without a role, and its instance. -/
def Deployment.withoutRole (roleName : Str) (d : Deployment) : Deployment :=
  { d with roleList := d.roleList.filter (· ≠ roleName),
           roleInstanceList := d.roleInstanceList.filter (· ≠ roleName) }

/-- `AddRole`: a new role, and its instance, in an existing deployment; a role
name the deployment already has is a conflict. -/
def addRole (serviceName deploymentName roleName : Str) : Go Unit :=
  request "AddRole" fun ss =>
    match (findService ss serviceName).bind
        (fun s => s.deployments.find? (fun d => d.name = deploymentName)) with
    | some d =>
      if roleName ∈ d.roleList then (.err (.api "AddRole"), ss)
      else (.ok (), updateService serviceName
        (updateDeployment deploymentName (Deployment.withRole roleName)) ss)
    | none => (.err (.api "AddRole"), ss)

/-- `DeleteHostedService`: the service and all its deployments. -/
def deleteHostedService (name : Str) : Go Unit :=
  request "DeleteHostedService" fun ss =>
    if ss.any (fun s => s.serviceName = name) then
      (.ok (), ss.filter fun s => s.serviceName ≠ name)
    else (.err (.api "DeleteHostedService"), ss)

/-- `DeleteRole` (with `DeleteMedia`): the role and its instance. -/
def deleteRole (serviceName deploymentName roleName : Str) : Go Unit :=
  request "DeleteRole" fun ss =>
    match (findService ss serviceName).bind
        (fun s => s.deployments.find? (fun d => d.name = deploymentName)) with
    | some d =>
      if roleName ∈ d.roleList then
        (.ok (), updateService serviceName
          (updateDeployment deploymentName (Deployment.withoutRole roleName)) ss)
      else (.err (.api "DeleteRole"), ss)
    | none => (.err (.api "DeleteRole"), ss)

/-! ## Lookups -/

theorem findService_some {ss : List HostedService} {n : Str} {s : HostedService}
    (h : findService ss n = some s) : s ∈ ss ∧ s.serviceName = n :=
  ⟨List.mem_of_find?_eq_some h, by simpa using List.find?_some h⟩

theorem findService_isSome {ss : List HostedService} {n : Str} :
    (findService ss n).isSome ↔ ∃ s ∈ ss, s.serviceName = n := by
  simp [findService]

theorem findService_of_mem {ss : List HostedService} {s : HostedService}
    (hu : (ss.map (·.serviceName)).Nodup) (hs : s ∈ ss) : findService ss s.serviceName = some s := by
  obtain ⟨t, ht⟩ := Option.isSome_iff_exists.mp (findService_isSome.mpr ⟨s, hs, rfl⟩)
  obtain ⟨htm, htn⟩ := findService_some ht
  rw [ht, List.inj_on_of_nodup_map hu htm hs htn]

/-! ## Judgements over the cloud

Each is an instance of `ErrState.Triple` over `World`, and its rules are
those of `ErrState.Triple` and `ErrState.Rel`, instantiated. A request is
the one step whose rule is proved by unfolding (`request_triple`,
`request_rel`). -/

/-- A request: a fault leaves the cloud and uses up the fault; otherwise
`act` answers from the cloud. -/
theorem request_triple {name : String} {act : List HostedService → Res α × List HostedService}
    {P : World → Prop} {Q : World → α → Prop} {E : World → AzErr → Prop} {Z : World → Prop}
    (hf : ∀ w, P w → w.faults.head? = some true → E ⟨w.services, w.faults.tail⟩ (.api name))
    (ha : ∀ w, P w → w.faults.head? ≠ some true → match act w.services with
      | (.ok a, ss') => Q ⟨ss', w.faults.tail⟩ a
      | (.err e, ss') => E ⟨ss', w.faults.tail⟩ e
      | (.panic _, ss') => Z ⟨ss', w.faults.tail⟩) :
    ErrState.Triple P (request name act) Q E Z := by
  intro w hp
  unfold request
  by_cases hw : w.faults.head? = some true
  · rw [if_pos hw]
    exact hf w hp hw
  · rw [if_neg hw]
    have h := ha w hp hw
    revert h
    rcases act w.services with ⟨a | e | m, ss'⟩ <;> exact id

/-- A request whose answers, faulty or not, are related to the cloud it
started from. -/
theorem request_rel {name : String} {act : List HostedService → Res α × List HostedService}
    {R : World → World → Prop} {Q : World → α → Prop}
    (hfault : ∀ w : World, R w ⟨w.services, w.faults.tail⟩)
    (hact : ∀ w : World, R w ⟨(act w.services).2, w.faults.tail⟩)
    (hq : ∀ (w : World) a, (act w.services).1 = .ok a → Q ⟨(act w.services).2, w.faults.tail⟩ a) :
    ErrState.Rel R (request name act) Q := by
  intro s0
  refine request_triple (fun w hw _ => by subst hw; exact hfault _) fun w hw _ => ?_
  subst hw
  have hr := hact w
  have hq' := hq w
  revert hr hq'
  rcases act w.services with ⟨a | e | m, ss'⟩
  exacts [fun hr hq' => ⟨hr, hq' a rfl⟩, fun hr _ => hr, fun hr _ => hr]

/-- The services `keep` selects in the first cloud are in the second. -/
def Kept (keep : HostedService → Prop) (w w' : World) : Prop :=
  ∀ s ∈ w.services, keep s → s ∈ w'.services

theorem Kept.refl (keep : HostedService → Prop) (w : World) : Kept keep w w := fun _ hs _ => hs

theorem Kept.trans {keep : HostedService → Prop} {a b c : World} (h1 : Kept keep a b)
    (h2 : Kept keep b c) : Kept keep a c :=
  fun s hs hk => h2 s (h1 s hs hk) hk

/-- In every run, `x` keeps each service that `keep` selects, unchanged, and
every value it returns satisfies `post`. -/
def Go.Spec (keep : HostedService → Prop) (x : Go α) (post : α → Prop) : Prop :=
  ErrState.Rel (Kept keep) x fun _ a => post a

namespace Go.Spec

variable {keep : HostedService → Prop}

theorem run {x : Go α} {post : α → Prop} (h : Go.Spec keep x post) (w : World) :
    (∀ s ∈ w.services, keep s → s ∈ (x w).2.services) ∧ ∀ a, (x w).1 = .ok a → post a :=
  ErrState.Rel.run h w

theorem pure (a : α) {post : α → Prop} (h : post a) : Go.Spec keep (Pure.pure a) post :=
  ErrState.Rel.pure (Kept.refl keep) a fun _ => h

theorem throw (e : AzErr) (post : α → Prop) : Go.Spec keep (Go.throw e) post :=
  ErrState.Rel.throw (Kept.refl keep) e

theorem crash (m : String) (post : α → Prop) : Go.Spec keep (Go.crash m) post :=
  ErrState.Rel.crash (Kept.refl keep) m

theorem bind {x : Go α} {f : α → Go β} {P : α → Prop} {Q : β → Prop}
    (hx : Go.Spec keep x P) (hf : ∀ a, P a → Go.Spec keep (f a) Q) : Go.Spec keep (x >>= f) Q :=
  ErrState.Rel.bind (R := Kept keep) Kept.trans hx (fun _ a hp => hf a hp) fun _ _ _ _ _ _ h => h

theorem attempt {x : Go α} {P : α → Prop} (hx : Go.Spec keep x P) :
    Go.Spec keep (Go.attempt x) fun r => ∀ a, r = .ok a → P a :=
  ErrState.Rel.attempt hx

theorem ofExcept (r : Except AzErr α) {P : α → Prop} (h : ∀ a, r = .ok a → P a) :
    Go.Spec keep (Go.ofExcept r) P := by
  cases r with
  | ok a => exact Go.Spec.pure a (h a rfl)
  | error e => exact Go.Spec.throw e P

theorem weaken {x : Go α} {P Q : α → Prop} (hx : Go.Spec keep x P) (h : ∀ a, P a → Q a) :
    Go.Spec keep x Q :=
  ErrState.Rel.weaken hx fun _ a => h a

theorem request {name : String} {act : List HostedService → Res α × List HostedService}
    {P : α → Prop} (hk : ∀ ss, ∀ s ∈ ss, keep s → s ∈ (act ss).2)
    (hp : ∀ ss a, (act ss).1 = .ok a → P a) : Go.Spec keep (Juju.Azure.request name act) P :=
  request_rel (fun w => Kept.refl keep w) (fun w => hk w.services) fun w a => hp w.services a

end Go.Spec

/-- `x` changes no service, and every value it returns satisfies `post` of
the services it read. -/
def Go.Reads (x : Go α) (post : List HostedService → α → Prop) : Prop :=
  ErrState.Rel (fun w w' => w'.services = w.services) x fun w a => post w.services a

namespace Go.Reads

variable {post : List HostedService → α → Prop}

theorem run {x : Go α} (h : Go.Reads x post) (w : World) :
    (x w).2.services = w.services ∧ ∀ a, (x w).1 = .ok a → post w.services a := by
  obtain ⟨hw, hp⟩ := ErrState.Rel.run h w
  exact ⟨hw, fun a ha => hw ▸ hp a ha⟩

theorem pure (a : α) (h : ∀ ss, post ss a) : Go.Reads (Pure.pure a) post :=
  ErrState.Rel.pure (R := fun w w' : World => w'.services = w.services) (fun _ => rfl) a fun _ => h _

theorem throw (e : AzErr) : Go.Reads (Go.throw e) post :=
  ErrState.Rel.throw (R := fun w w' : World => w'.services = w.services) (fun _ => rfl) e

theorem ofExcept (r : Except AzErr α) (h : ∀ ss a, r = .ok a → post ss a) :
    Go.Reads (Go.ofExcept r) post := by
  cases r with
  | ok a => exact Go.Reads.pure a fun ss => h ss a rfl
  | error e => exact Go.Reads.throw e

theorem bind {x : Go α} {f : α → Go β} {P : List HostedService → α → Prop}
    {Q : List HostedService → β → Prop} (hx : Go.Reads x P)
    (hf : ∀ a, Go.Reads (f a) fun ss b => P ss a → Q ss b) : Go.Reads (x >>= f) Q :=
  ErrState.Rel.bind (R := fun w w' : World => w'.services = w.services) (fun h1 h2 => h2.trans h1) hx (fun _ a _ => hf a)
    fun _ _ _ _ h12 hp hq => hq (h12 ▸ hp)

theorem weaken {x : Go α} {Q : List HostedService → α → Prop} (hx : Go.Reads x post)
    (h : ∀ ss a, post ss a → Q ss a) : Go.Reads x Q :=
  ErrState.Rel.weaken hx fun _ a => h _ a

theorem request {name : String} {act : List HostedService → Res α × List HostedService}
    (hk : ∀ ss, (act ss).2 = ss) (hp : ∀ ss a, (act ss).1 = .ok a → post ss a) :
    Go.Reads (Juju.Azure.request name act) post :=
  request_rel (fun _ => rfl) (fun w => hk w.services) fun w a ha => (hk w.services).symm ▸ hp _ a ha

end Go.Reads

/-- Every run of `x` from a cloud where `pre` holds ends, however it ends and
whatever the faults, in a cloud where `inv` holds, and a value it returns
satisfies `post` of the cloud it ends in. -/
def Go.Triple (pre : List HostedService → Prop) (x : Go α) (inv : List HostedService → Prop)
    (post : List HostedService → α → Prop) : Prop :=
  ErrState.Triple (pre ·.services) x (fun w a => inv w.services ∧ post w.services a)
    (fun w _ => inv w.services) fun w => inv w.services

namespace Go.Triple

variable {P I : List HostedService → Prop} {Q : List HostedService → α → Prop}

theorem run {x : Go α} (h : Go.Triple P x I Q) (w : World) (hp : P w.services) :
    I (x w).2.services ∧ ∀ a, (x w).1 = .ok a → Q (x w).2.services a :=
  let ⟨hi, hq⟩ := ErrState.Triple.run h (fun _ _ h => h.1) (fun _ _ h => h) (fun _ h => h) w hp
  ⟨hi, fun a ha => (hq a ha).2⟩

theorem pure (a : α) (h : ∀ ss, P ss → I ss ∧ Q ss a) : Go.Triple P (Pure.pure a) I Q :=
  ErrState.Triple.pure a fun _ hp => h _ hp

theorem throw (e : AzErr) (h : ∀ ss, P ss → I ss) : Go.Triple P (Go.throw e) I Q :=
  ErrState.Triple.throw e fun _ hp => h _ hp

theorem crash (m : String) (h : ∀ ss, P ss → I ss) : Go.Triple P (Go.crash m) I Q :=
  ErrState.Triple.crash m fun _ hp => h _ hp

theorem ofExcept (r : Except AzErr α) (h : ∀ ss, P ss → I ss ∧ ∀ a, r = .ok a → Q ss a) :
    Go.Triple P (Go.ofExcept r) I Q :=
  ErrState.Triple.ofExcept r (fun _ a hp hr => ⟨(h _ hp).1, (h _ hp).2 a hr⟩) fun _ _ hp _ => (h _ hp).1

theorem bind {x : Go α} {f : α → Go β} {R : List HostedService → β → Prop}
    (hx : Go.Triple P x I Q) (hf : ∀ a, Go.Triple (fun ss => I ss ∧ Q ss a) (f a) I R) :
    Go.Triple P (x >>= f) I R :=
  ErrState.Triple.bind hx hf

theorem attempt {x : Go α} (hx : Go.Triple P x I Q) :
    Go.Triple P (Go.attempt x) I fun ss r => ∀ a, r = .ok a → Q ss a :=
  (ErrState.Triple.attempt hx).weaken (fun _ h => h)
    (fun _ r h => by
      cases r with
      | ok a => exact ⟨h.1, fun b hb => by cases hb; exact h.2⟩
      | error e => exact ⟨h, fun _ hb => by cases hb⟩) (fun _ _ h => h) fun _ h => h

theorem deferOnError {body : Go α} {cleanup : Go Unit} (hb : Go.Triple P body I Q)
    (hc : Go.Triple I cleanup I fun _ _ => True) : Go.Triple P (Go.deferOnError cleanup body) I Q :=
  ErrState.Triple.deferOnError hb fun _ =>
    hc.weaken (fun _ h => h) (fun _ _ h => h.1) (fun _ _ h => h) fun _ h => h

theorem weaken {x : Go α} {P' : List HostedService → Prop} {Q' : List HostedService → α → Prop}
    (hx : Go.Triple P x I Q) (hp : ∀ ss, P' ss → P ss) (hq : ∀ ss a, I ss → Q ss a → Q' ss a) :
    Go.Triple P' x I Q' :=
  ErrState.Triple.weaken hx (fun _ h => hp _ h) (fun _ a h => ⟨h.1, hq _ a h.1 h.2⟩)
    (fun _ _ h => h) fun _ h => h

theorem request {name : String} {act : List HostedService → Res α × List HostedService}
    (hf : ∀ ss, P ss → I ss) (ha : ∀ ss, P ss → I (act ss).2 ∧ ∀ a, (act ss).1 = .ok a → Q (act ss).2 a) :
    Go.Triple P (Juju.Azure.request name act) I Q :=
  request_triple (fun _ hp _ => hf _ hp) fun w hp _ => by
    have h := ha w.services hp
    revert h
    rcases act w.services with ⟨a | e | m, ss'⟩
    exacts [fun h => ⟨h.1, h.2 a rfl⟩, fun h => h.1, fun h => h.1]

theorem read {name : String} {act : List HostedService → Res α × List HostedService}
    (hk : ∀ ss, (act ss).2 = ss) (hf : ∀ ss, P ss → I ss) :
    Go.Triple P (Juju.Azure.request name act) I fun ss a => P ss ∧ (act ss).1 = .ok a :=
  Go.Triple.request hf fun ss hp => by rw [hk]; exact ⟨hf ss hp, fun a ha => ⟨hp, ha⟩⟩

end Go.Triple

/-- Every run of `x` from a cloud where `pre` holds ends, whatever the
faults, without a panic: in a cloud where `ok` holds of the value it returns,
or where `err` holds when it returns an error. -/
def Go.Hoare (pre : List HostedService → Prop) (x : Go α) (ok : List HostedService → α → Prop)
    (err : List HostedService → Prop) : Prop :=
  ErrState.Triple (pre ·.services) x (fun w a => ok w.services a) (fun w _ => err w.services)
    fun _ => False

namespace Go.Hoare

variable {P E : List HostedService → Prop} {Q : List HostedService → α → Prop}

theorem pure (a : α) (h : ∀ ss, P ss → Q ss a) : Go.Hoare P (Pure.pure a) Q E :=
  ErrState.Triple.pure a fun _ hp => h _ hp

theorem throw (e : AzErr) (h : ∀ ss, P ss → E ss) : Go.Hoare P (Go.throw e) Q E :=
  ErrState.Triple.throw e fun _ hp => h _ hp

theorem ofExcept (r : Except AzErr α) (hok : ∀ ss a, P ss → r = .ok a → Q ss a)
    (herr : ∀ ss e, P ss → r = .error e → E ss) : Go.Hoare P (Go.ofExcept r) Q E :=
  ErrState.Triple.ofExcept r (fun _ a hp hr => hok _ a hp hr) fun _ e hp hr => herr _ e hp hr

theorem bind {x : Go α} {f : α → Go β} {R : List HostedService → β → Prop}
    (hx : Go.Hoare P x Q E) (hf : ∀ a, Go.Hoare (fun ss => Q ss a) (f a) R E) :
    Go.Hoare P (x >>= f) R E :=
  ErrState.Triple.bind hx hf

theorem attempt {x : Go α} {E' : List HostedService → Prop} (hx : Go.Hoare P x Q E) :
    Go.Hoare P (Go.attempt x) (fun ss r => match r with
      | .ok a => Q ss a
      | .error _ => E ss) E' :=
  (ErrState.Triple.attempt hx).weaken (fun _ h => h) (fun _ r h => by cases r <;> exact h)
    (fun _ _ h => h) fun _ h => h

theorem deferOnError {body : Go α} {cleanup : Go Unit} {E' : List HostedService → Prop}
    (hb : Go.Hoare P body Q E) (hc : Go.Hoare E cleanup (fun ss _ => E' ss) E') :
    Go.Hoare P (Go.deferOnError cleanup body) Q E' :=
  ErrState.Triple.deferOnError hb fun _ => hc

theorem weaken {x : Go α} {P' E' : List HostedService → Prop} {Q' : List HostedService → α → Prop}
    (hx : Go.Hoare P x Q E) (hp : ∀ ss, P' ss → P ss) (hq : ∀ ss a, Q ss a → Q' ss a)
    (he : ∀ ss, E ss → E' ss) : Go.Hoare P' x Q' E' :=
  ErrState.Triple.weaken hx (fun _ h => hp _ h) (fun _ a h => hq _ a h) (fun _ _ h => he _ h)
    fun _ h => h

theorem request {name : String} {act : List HostedService → Res α × List HostedService}
    (hf : ∀ ss, P ss → E ss)
    (ha : ∀ ss, P ss → match act ss with
      | (.ok a, ss') => Q ss' a
      | (.err _, ss') => E ss'
      | (.panic _, _) => False) :
    Go.Hoare P (Juju.Azure.request name act) Q E :=
  request_triple (fun _ hp _ => hf _ hp) fun w hp _ => ha w.services hp

theorem request_at {name : String} {act : List HostedService → Res α × List HostedService}
    (ss : List HostedService) (hf : E ss)
    (ha : match act ss with
      | (.ok a, ss') => Q ss' a
      | (.err _, ss') => E ss'
      | (.panic _, _) => False) :
    Go.Hoare (· = ss) (Juju.Azure.request name act) Q E :=
  Go.Hoare.request (fun _ h => h ▸ hf) fun _ h => h ▸ ha

theorem of_eq {x : Go α} (h : ∀ ss, P ss → Go.Hoare (· = ss) x Q E) : Go.Hoare P x Q E :=
  fun w hp => h w.services hp w rfl

theorem of_const {x : Go α} {R : Prop} (h : R → Go.Hoare P x Q E) :
    Go.Hoare (fun ss => P ss ∧ R) x Q E :=
  fun w hp => h hp.2 w hp.1

end Go.Hoare

section Frames

variable {keep : HostedService → Prop}

end Frames

/-! ## Requests in a session where none fails -/

section NoFault

variable (ss : List HostedService)

@[simp] theorem getManagementAPI_nofault : getManagementAPI ⟨ss, []⟩ = (.ok (), ⟨ss, []⟩) := rfl

theorem getHostedServiceProperties_found {n : Str} {s : HostedService}
    (h : findService ss n = some s) : getHostedServiceProperties n ⟨ss, []⟩ = (.ok s, ⟨ss, []⟩) := by
  simp [getHostedServiceProperties, request, h]

@[simp] theorem listPrefixedHostedServices_nofault (pre : Str) :
    listPrefixedHostedServices pre ⟨ss, []⟩ =
      (.ok ((ss.filter fun s => pre.isPrefixOf s.serviceName).map (·.serviceName)), ⟨ss, []⟩) := rfl

@[simp] theorem listSpecificHostedServices_nofault (names : List Str) :
    listSpecificHostedServices names ⟨ss, []⟩ =
      (.ok ((ss.filter fun s => s.serviceName ∈ names).map (·.serviceName)), ⟨ss, []⟩) := rfl

end NoFault

end Juju.Azure
