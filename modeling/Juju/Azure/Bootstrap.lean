import Juju.Azure.CreateOutcome

/-!
# `Bootstrap` and `Destroy`: the affinity group, the virtual network, the storage

Beside its cloud services an environment has an affinity group
(`getAffinityGroupName`, part_001:156-158), a virtual network site in that
group (`getVirtualNetworkName`, part_001:187-189) and its private storage.
`Bootstrap` (part_001:272-297) creates the group and the network before it
hands over to the generic bootstrap, and its deferred functions delete them
again when a later step fails; `Destroy` (part_001:1084-1115) deletes the
services, then the network and the group, taking their errors as warnings,
and the storage last.

**Azure's answers (an oracle).** What Azure answers these calls is not the
provider's to decide. `Site.replies` lists the answers to the next requests
(`none`: the request succeeds; `[]`: every request succeeds), and every
result here holds for every list. An error is given as the provider
inspects it (`GwaclErr`). A request that succeeds does what it asks, and
`Site.sent` records the requests in order. The cloud services stay the
`Go` model's `World`, with its own faults. A call is `Az`, the error-state
monad of `Juju.Core.ErrState` over the site, and `Az.Hoare` is its triple
with no panic.

**Attempts.** `deleteVirtualNetwork` retries under an `AttemptStrategy` of
30 s with 1 s delays (part_001:219-222). How many attempts that allows
depends on the clock, so it is a parameter (`attempts`, at least one:
`a.Next()` holds the first time).

Results:
* `deleteVirtualNetwork_retries`: the network's deletion is retried exactly
  while Azure answers that the network is in use, at most `attempts` times;
  the call returns the last answer, and the network goes only when that
  answer is a success.
* `destroy_results`: `Destroy` never panics; it fails either with
  "cannot destroy instances" before any other request, or with "cannot
  clean up storage" once every service of the environment is gone; it
  succeeds with no service of the environment left and the storage
  removed. Errors deleting the network or the group never make it fail.
* `bootstrap_cleans_up`: when at most one request fails, `Bootstrap`
  succeeds, or returns that request's error and leaves no affinity group or
  network that was not there before.
* `destroy_after_bootstrap`: with no failing request, `Destroy` after `Bootstrap`
  leaves the site's groups and networks without the environment's, the
  storage removed, no service of the environment and every other service.
-/
namespace Juju.Azure

/-! ## Errors as the provider inspects them -/

/-- An error as the provider inspects it: its text, its HTTP status when it
is a `gwacl.HTTPError`, and Azure's message when it is a `*gwacl.AzureError`
(which is an `HTTPError`). -/
structure GwaclErr where
  /-- `err.Error()` -/
  text : Str
  /-- `StatusCode()`, for a `gwacl.HTTPError` -/
  status : Option Nat
  /-- `Message`, for a `*gwacl.AzureError` -/
  message : Option Str
  message_status : message.isSome → status.isSome

/-- A provider error as these calls pass it on: its text. -/
def GwaclErr.ofAzErr (e : AzErr) : GwaclErr := ⟨e.message.toList, none, none, nofun⟩

/-- `fmt.Errorf(context + ": %v", err)`: a plain error. -/
def GwaclErr.wrap (context : String) (e : GwaclErr) : GwaclErr :=
  ⟨(context ++ ": ").toList ++ e.text, none, none, nofun⟩

/-- mirrors part_001:255-260 (`isHTTPConflict`) -/
def isHTTPConflict (e : GwaclErr) : Bool := e.status = some 409

/-- mirrors part_001:262-269 (`isVirtualNetworkExist`) -/
def isVirtualNetworkExist (e : GwaclErr) : Bool :=
  "could not add virtual network".toList.isPrefixOf e.text &&
    "already exists".toList.isSuffixOf e.text

/-- `p` occurs in `s`. -/
def occursIn (p s : Str) : Bool := s.tails.any p.isPrefixOf

/-- `networkInUse.MatchString` (part_001:245): the unanchored regular
expression `.*The virtual network .* is currently in use.*`, whose `.` does
not match a newline. -/
def networkInUse (msg : Str) : Bool :=
  (msg.splitOn '\n').any fun line => line.tails.any fun t =>
    "The virtual network ".toList.isPrefixOf t &&
      occursIn " is currently in use".toList (t.drop "The virtual network ".length)

/-- The answer on which `deleteVirtualNetwork` tries again (part_001:237-242):
a `*gwacl.AzureError` with status 400 whose message matches `networkInUse`. -/
def isNetworkInUse (e : GwaclErr) : Bool :=
  match e.message with
  | some m => e.status = some 400 && networkInUse m
  | none => false

/-! ## The site and the calls on it -/

/-- A request of these calls, as `Site.sent` records it. -/
inductive ApiCall where
  /-- `getManagementAPI`: the certificate file and the session -/
  | getManagementAPI
  | createAffinityGroup (name label description location : Str)
  | deleteAffinityGroup (name : Str)
  | addVirtualNetworkSite (name affinityGroup : Str) (addressSpacePrefixes : List Str)
  | removeVirtualNetworkSite (name : Str)
  /-- `common.Bootstrap`, the generic bootstrap -/
  | bootstrap
  /-- `Storage().RemoveAll()` -/
  | removeAll
  deriving DecidableEq, Repr

/-- What `Bootstrap` and `Destroy` change in the subscription. -/
structure Subscription where
  /-- the cloud services, as the `Go` functions see them -/
  world : World
  affinityGroups : List Str
  networks : List Str
  /-- the environment's storage holds files -/
  storage : Bool

/-- The subscription, Azure's answers to the next requests, and the requests
sent, oldest first. -/
structure Site where
  sub : Subscription
  replies : List (Option GwaclErr)
  sent : List ApiCall

/-- Azure's answer to the `i`-th next request (`none`: it succeeds). -/
def Site.reply (st : Site) (i : Nat) : Option GwaclErr := st.replies.getD i none

/-- The errors among Azure's answers to come, in order. -/
def Site.failures (st : Site) : List GwaclErr := st.replies.filterMap id

/-- The site once the request `c` is sent: its answer used up, the
request logged. -/
def Site.send (st : Site) (c : ApiCall) : Site :=
  { st with replies := st.replies.tail, sent := st.sent ++ [c] }

/-- A call of `Bootstrap` or `Destroy`. -/
abbrev Az := ErrState Site GwaclErr

namespace Az

export ErrState (throw attempt deferOnError pure_apply bind_apply bind_ok)

/-- Go's `if err != nil && !allowed(err) { return ..., err }` after a call
whose error was tried. -/
def check (allowed : GwaclErr → Bool) : Except GwaclErr Unit → Az Unit
  | .ok () => pure ()
  | .error e => if allowed e then pure () else throw e

/-- A `Go` function of the provider, on the cloud services. -/
def lift (x : Go α) : Az α := fun st =>
  match x st.sub.world with
  | (.ok a, w) => (.ok a, { st with sub := { st.sub with world := w } })
  | (.err e, w) => (.err (.ofAzErr e), { st with sub := { st.sub with world := w } })
  | (.panic m, w) => (.panic m, { st with sub := { st.sub with world := w } })

/-- One request: Azure's next answer decides whether it fails, and one that
succeeds does `act`. -/
def request (c : ApiCall) (act : Subscription → Subscription) : Az Unit := fun st =>
  match st.reply 0 with
  | some e => (.err e, st.send c)
  | none => (.ok (), { st.send c with sub := act st.sub })

/-- `getManagementAPI` (part_001:1167-1190): making the certificate file or
the session may fail. -/
def getManagementAPI : Az Unit := request .getManagementAPI id

end Az

/-- The provider's pattern for one management request (part_001:160-213):
`getManagementAPI`, the request, and `releaseManagementAPI`, which cannot
fail. -/
def managementRequest (c : ApiCall) (act : Subscription → Subscription) : Az Unit := do
  Az.getManagementAPI
  Az.request c act

/-- mirrors part_001:156-158 (`azureEnviron.getAffinityGroupName`) -/
def getAffinityGroupName (envName : Str) : Str := getEnvPrefix envName ++ "ag".toList

/-- mirrors part_001:187-189 (`azureEnviron.getVirtualNetworkName`) -/
def getVirtualNetworkName (envName : Str) : Str := getEnvPrefix envName ++ "vnet".toList

/-- `networkDefinition` (part_001:49) -/
def networkDefinition : Str := "10.0.0.0/8".toList

/-- mirrors part_001:160-172 (`azureEnviron.createAffinityGroup`) -/
def createAffinityGroup (envName location : Str) : Az Unit :=
  let name := getAffinityGroupName envName
  managementRequest (.createAffinityGroup name name name location) fun s =>
    { s with affinityGroups := s.affinityGroups.insert name }

/-- mirrors part_001:174-183 (`azureEnviron.deleteAffinityGroup`) -/
def deleteAffinityGroup (envName : Str) : Az Unit :=
  let name := getAffinityGroupName envName
  managementRequest (.deleteAffinityGroup name) fun s =>
    { s with affinityGroups := s.affinityGroups.erase name }

/-- mirrors part_001:191-213 (`azureEnviron.createVirtualNetwork`) -/
def createVirtualNetwork (envName : Str) : Az Unit :=
  let name := getVirtualNetworkName envName
  managementRequest (.addVirtualNetworkSite name (getAffinityGroupName envName) [networkDefinition])
    fun s => { s with networks := s.networks.insert name }

/-- `RemoveVirtualNetworkSite(vnetName)`. -/
def removeVirtualNetworkSite (vnetName : Str) : Az Unit :=
  Az.request (.removeVirtualNetworkSite vnetName) fun s =>
    { s with networks := s.networks.erase vnetName }

/-- The retry loop of `deleteVirtualNetwork` (part_001:231-247), with at most
`attempts` more attempts and `err` the error so far. -/
def removeNetworkLoop (vnetName : Str) : Nat → Option GwaclErr → Az Unit
  | 0, err => match err with
    | none => pure ()
    | some e => Az.throw e
  | n + 1, _ => do
    match ← Az.attempt (removeVirtualNetworkSite vnetName) with
    | .ok () => pure ()
    | .error e => if isNetworkInUse e then removeNetworkLoop vnetName n (some e) else Az.throw e

/-- mirrors part_001:225-249 (`azureEnviron.deleteVirtualNetwork`) -/
def deleteVirtualNetwork (envName : Str) (attempts : Nat) : Az Unit := do
  Az.getManagementAPI
  removeNetworkLoop (getVirtualNetworkName envName) attempts none

/-- `common.Bootstrap(ctx, env, args)`: its work is not modelled, only
whether it fails. -/
def commonBootstrap : Az Unit := Az.request .bootstrap id

/-- `env.Storage().RemoveAll()`. -/
def storageRemoveAll : Az Unit := Az.request .removeAll fun s => { s with storage := false }

/-- The part of `Bootstrap` after the affinity group (part_001:283-296): the
virtual network, then the generic bootstrap, with the network's deletion
deferred for when that fails. -/
def bootstrapNetwork (envName : Str) (attempts : Nat) : Az Unit := do
  Az.check isVirtualNetworkExist (← Az.attempt (createVirtualNetwork envName))
  Az.deferOnError (deleteVirtualNetwork envName attempts) commonBootstrap

/-- mirrors part_001:272-297 (`azureEnviron.Bootstrap`) -/
def bootstrap (envName location : Str) (attempts : Nat) : Az Unit := do
  Az.check isHTTPConflict (← Az.attempt (createAffinityGroup envName location))
  Az.deferOnError (deleteAffinityGroup envName) (bootstrapNetwork envName attempts)

/-- mirrors part_001:1084-1115 (`azureEnviron.Destroy`) -/
def destroy (envName : Str) (attempts : Nat) : Az Unit := do
  match ← Az.attempt (Az.lift (destroyAllServices envName)) with
  | .error e => Az.throw (e.wrap "cannot destroy instances")
  | .ok () =>
    let _ ← Az.attempt (deleteVirtualNetwork envName attempts)
    let _ ← Az.attempt (deleteAffinityGroup envName)
    match ← Az.attempt storageRemoveAll with
    | .error e => Az.throw (e.wrap "cannot clean up storage")
    | .ok () => pure ()

/-! ## The site and the monad -/

namespace Site

variable (st : Site) (c : ApiCall)

@[simp] theorem send_sub : (st.send c).sub = st.sub := rfl

@[simp] theorem reply_send (i : Nat) : (st.send c).reply i = st.reply (i + 1) := by
  unfold reply send
  cases st.replies <;> simp

theorem failures_send : st.failures = (st.reply 0).toList ++ (st.send c).failures := by
  unfold failures reply send
  rcases st.replies with _ | ⟨_ | e, rs⟩ <;> rfl

theorem reply_eq_none {st : Site} (h : st.failures = []) (i : Nat) : st.reply i = none := by
  simp only [failures, List.filterMap_eq_nil_iff, id] at h
  rw [reply, List.getD_eq_getElem?_getD]
  cases hi : st.replies[i]? with
  | none => rfl
  | some r => simpa using h r (List.getElem?_mem hi)

theorem failures_eq_nil_of_subset {st st' : Site} (h : st.failures = [])
    (hs : ∀ r ∈ st'.replies, r ∈ st.replies) : st'.failures = [] := by
  simp only [failures, List.filterMap_eq_nil_iff] at h ⊢
  exact fun r hr => h r (hs r hr)

end Site

namespace Az

theorem request_ok {c : ApiCall} {act : Subscription → Subscription} {st : Site}
    (h : st.reply 0 = none) : request c act st = (.ok (), { st.send c with sub := act st.sub }) := by
  simp only [request, h]

theorem request_err {c : ApiCall} {act : Subscription → Subscription} {st : Site} {e : GwaclErr}
    (h : st.reply 0 = some e) : request c act st = (.err e, st.send c) := by
  simp only [request, h]

end Az

/-! ## Triples over the site -/

/-- Every run of `x` from a site where `pre` holds ends without a panic:
where `ok` holds of the value it returns, or where `err` holds of its
error. -/
def Az.Hoare (pre : Site → Prop) (x : Az α) (ok : Site → α → Prop)
    (err : Site → GwaclErr → Prop) : Prop :=
  ErrState.Triple pre x ok err fun _ => False

namespace Az.Hoare

variable {P : Site → Prop} {Q : Site → α → Prop} {E : Site → GwaclErr → Prop}

theorem pure (a : α) (h : ∀ st, P st → Q st a) : Az.Hoare P (Pure.pure a) Q E :=
  ErrState.Triple.pure a h

theorem throw (e : GwaclErr) (h : ∀ st, P st → E st e) : Az.Hoare P (Az.throw e) Q E :=
  ErrState.Triple.throw e h

theorem bind {x : Az α} {f : α → Az β} {R : Site → β → Prop}
    (hx : Az.Hoare P x Q E) (hf : ∀ a, Az.Hoare (Q · a) (f a) R E) :
    Az.Hoare P (x >>= f) R E :=
  ErrState.Triple.bind hx hf

theorem attempt {x : Az α} {E' : Site → GwaclErr → Prop} (hx : Az.Hoare P x Q E) :
    Az.Hoare P (Az.attempt x) (fun st r => match r with
      | .ok a => Q st a
      | .error e => E st e) E' :=
  (ErrState.Triple.attempt hx).weaken (fun _ h => h) (fun _ r h => by cases r <;> exact h)
    (fun _ _ h => h) fun _ h => h

theorem deferOnError {body : Az α} {cleanup : Az Unit} {E' : Site → GwaclErr → Prop}
    (hb : Az.Hoare P body Q E)
    (hc : ∀ e, Az.Hoare (E · e) cleanup (fun st _ => E' st e) (fun st _ => E' st e)) :
    Az.Hoare P (Az.deferOnError cleanup body) Q E' :=
  ErrState.Triple.deferOnError hb hc

theorem weaken {x : Az α} {P' : Site → Prop} {Q' : Site → α → Prop} {E' : Site → GwaclErr → Prop}
    (hx : Az.Hoare P x Q E) (hp : ∀ st, P' st → P st) (hq : ∀ st a, Q st a → Q' st a)
    (he : ∀ st e, E st e → E' st e) : Az.Hoare P' x Q' E' :=
  ErrState.Triple.weaken hx hp hq he fun _ h => h

theorem of_eq {x : Az α} (h : ∀ st, P st → Az.Hoare (· = st) x Q E) : Az.Hoare P x Q E :=
  ErrState.Triple.of_eq h

theorem attempt_keeps {x : Az α} {I : Site → Prop} {E' : Site → GwaclErr → Prop}
    (hx : ∀ st, I st → Az.Hoare (· = st) x (fun st' _ => I st') fun st' _ => I st') :
    Az.Hoare I (Az.attempt x) (fun st' _ => I st') E' :=
  Az.Hoare.of_eq fun st hs => (hx st hs).attempt.weaken (fun _ h => h)
    (fun _ r h => by cases r <;> exact h) fun _ _ h => h

/-- Go's `err = x(); if err != nil && !allowed(err) { return err }; k`:
`k` runs after a success and after an allowed error. -/
theorem attempt_check {x : Az Unit} {k : Az β} {allowed : GwaclErr → Bool} {U : Site → Unit → Prop}
    {E0 : Site → GwaclErr → Prop} {R : Site → β → Prop} (hx : Az.Hoare P x U E0)
    (hok : Az.Hoare (U · ()) k R E) (hallowed : ∀ e, allowed e → Az.Hoare (E0 · e) k R E)
    (hthrow : ∀ st e, E0 st e → allowed e = false → E st e) :
    Az.Hoare P (Az.attempt x >>= fun r => Az.check allowed r >>= fun _ => k) R E := by
  refine hx.attempt.bind fun r => ?_
  rcases r with e | ⟨⟨⟩⟩
  · cases hc : allowed e
    · have h : Az.Hoare (E0 · e) (Az.throw e >>= fun _ => k) R E :=
        (Az.Hoare.throw e fun st h => hthrow st e h hc :
          Az.Hoare _ _ (fun _ (_ : Unit) => False) _).bind fun _ _ h => h.elim
      simpa [Az.check, hc] using h
    · have h : Az.Hoare (E0 · e) (Pure.pure () >>= fun _ => k) R E :=
        (Az.Hoare.pure () fun _ h => h).bind fun _ => hallowed e hc
      simpa [Az.check, hc] using h
  · exact (Az.Hoare.pure () fun _ h => h).bind fun _ => hok

theorem request {c : ApiCall} {act : Subscription → Subscription} {U : Site → Unit → Prop}
    (hf : ∀ st e, P st → st.reply 0 = some e → E (st.send c) e)
    (ha : ∀ st, P st → st.reply 0 = none → U { st.send c with sub := act st.sub } ()) :
    Az.Hoare P (Az.request c act) U E := by
  intro st hp
  rcases h : st.reply 0 with _ | e
  · rw [Az.request_ok h]; exact ha st hp h
  · rw [Az.request_err h]; exact hf st e hp h

/-- A `Go` function, from the cloud services it starts from: it changes
nothing else, and its error comes out as its text. -/
theorem lift {x : Go α} {st : Site} {q : List HostedService → α → Prop}
    {ee : List HostedService → Prop} (hx : Go.Hoare (· = st.sub.world.services) x q ee) :
    Az.Hoare (· = st) (Az.lift x)
      (fun st' a => st' = { st with sub := { st.sub with world := st'.sub.world } } ∧
        q st'.sub.world.services a)
      (fun st' e => st' = { st with sub := { st.sub with world := st'.sub.world } } ∧
        (∃ e0, e = .ofAzErr e0) ∧ ee st'.sub.world.services) := by
  rintro s rfl
  have h := hx s.sub.world rfl
  unfold Az.lift
  rcases hxs : x s.sub.world with ⟨a | e | m, w⟩ <;> rw [hxs] at h
  exacts [⟨rfl, h⟩, ⟨rfl, ⟨e, rfl⟩, h⟩, h]

end Az.Hoare

/-! ## The requests from a known site

Each request either does what it asks and uses up no error, or changes
nothing in the subscription and returns Azure's next error. -/

section Requests

variable (st : Site)

theorem request_outcome (c : ApiCall) (act : Subscription → Subscription) :
    Az.Hoare (· = st) (Az.request c act)
      (fun st' _ => st'.sub = act st.sub ∧ st'.failures = st.failures)
      (fun st' e => st'.sub = st.sub ∧ st.failures = e :: st'.failures) :=
  Az.Hoare.request
    (fun s _ h he => by subst h; exact ⟨rfl, by rw [Site.failures_send s c, he]; rfl⟩)
    (fun s h he => by subst h; exact ⟨rfl, by rw [Site.failures_send s c, he]; rfl⟩)

theorem managementRequest_outcome (c : ApiCall) (act : Subscription → Subscription) :
    Az.Hoare (· = st) (managementRequest c act)
      (fun st' _ => st'.sub = act st.sub ∧ st'.failures = st.failures)
      (fun st' e => st'.sub = st.sub ∧ st.failures = e :: st'.failures) :=
  (request_outcome st _ id).bind fun _ => Az.Hoare.of_eq fun st1 ⟨h1, h2⟩ =>
    (request_outcome st1 c act).weaken (fun _ h => h)
      (fun _ _ ⟨h3, h4⟩ => ⟨h3.trans (congrArg act h1), h4.trans h2⟩)
      (fun _ _ ⟨h3, h4⟩ => ⟨h3.trans h1, h2 ▸ h4⟩)

end Requests

/-! ## The retry loop of `deleteVirtualNetwork` -/

section Retry

variable (v : Str)

/-- One attempt of the loop: a success or an error other than "in use" ends
it, an "in use" error tries again with one attempt less. -/
theorem removeNetworkLoop_succ (n : Nat) (err : Option GwaclErr) (st : Site) :
    removeNetworkLoop v (n + 1) err st = match st.reply 0 with
      | none => (.ok (), { st.send (.removeVirtualNetworkSite v) with
          sub := { st.sub with networks := st.sub.networks.erase v } })
      | some e => if isNetworkInUse e then removeNetworkLoop v n (some e) (st.send (.removeVirtualNetworkSite v))
          else (.err e, st.send (.removeVirtualNetworkSite v)) := by
  rcases h : st.reply 0 with _ | e
  · simp only [removeNetworkLoop, Az.bind_apply, Az.attempt, removeVirtualNetworkSite,
      Az.request_ok h, Az.pure_apply]
  · simp only [removeNetworkLoop, Az.bind_apply, Az.attempt, removeVirtualNetworkSite,
      Az.request_err h]
    split <;> rfl

/-- The loop with `n + 1` attempts left sends `j + 1` removals, `j ≤ n`: the
first `j` are answered "in use", and the last answer ends it, an "in use"
one only when no attempt is left. It returns that answer, and the network
goes when the answer is a success. -/
theorem removeNetworkLoop_eq : ∀ (n : Nat) (err : Option GwaclErr) (st : Site), ∃ j ≤ n,
    (∀ i < j, ∃ e, st.reply i = some e ∧ isNetworkInUse e) ∧
    (∀ e, st.reply j = some e → isNetworkInUse e → j = n) ∧
    removeNetworkLoop v (n + 1) err st = ((st.reply j).elim (.ok ()) .err,
      { st with
        sub := if (st.reply j).isNone then { st.sub with networks := st.sub.networks.erase v }
          else st.sub,
        replies := st.replies.drop (j + 1),
        sent := st.sent ++ List.replicate (j + 1) (.removeVirtualNetworkSite v) })
  | n, err, st => by
    rw [removeNetworkLoop_succ]
    rcases h0 : st.reply 0 with _ | e
    · exact ⟨0, n.zero_le, nofun, by simp [h0], by simp [h0, Site.send, List.drop_one]⟩
    dsimp only
    by_cases hu : isNetworkInUse e
    · rw [if_pos hu]
      cases n with
      | zero => exact ⟨0, le_rfl, nofun, fun _ _ _ => rfl, by simp [removeNetworkLoop, Az.throw, h0, Site.send, List.drop_one]⟩
      | succ m =>
        obtain ⟨j, hj, hin, hlast, heq⟩ := removeNetworkLoop_eq m (some e) (st.send _)
        refine ⟨j + 1, by omega, fun i hi => ?_, fun e' he' hu' => by
          rw [hlast e' (by simpa using he') hu'], ?_⟩
        · cases i with
          | zero => exact ⟨e, h0, hu⟩
          | succ i => simpa using hin i (by omega)
        · rw [heq]
          simp only [Site.reply_send, Site.send_sub]
          simp [Site.send, List.replicate_succ, List.drop_tail]
    · rw [if_neg hu]
      exact ⟨0, n.zero_le, nofun, fun _ he' hu' => absurd (Option.some.inj (h0.symm.trans he') ▸ hu') hu,
        by simp [h0, Site.send, List.drop_one]⟩

/-- A run of `deleteVirtualNetwork` takes the network away or changes
nothing, and fails only on an error Azure answered. -/
theorem deleteVirtualNetwork_outcome (envName : Str) (attempts : Nat) (st : Site) :
    Az.Hoare (· = st) (deleteVirtualNetwork envName attempts)
      (fun st' _ => (st'.sub = { st.sub with networks := st.sub.networks.erase (getVirtualNetworkName envName) } ∨
          attempts = 0 ∧ st'.sub = st.sub) ∧ (st.failures = [] → st'.failures = []))
      (fun st' _ => st'.sub = st.sub ∧ st.failures ≠ []) := by
  rintro s rfl
  rcases h0 : s.reply 0 with _ | e
  · have hm : Az.getManagementAPI s = (.ok (), s.send .getManagementAPI) := Az.request_ok h0
    rw [deleteVirtualNetwork, Az.bind_ok _ hm]
    cases attempts with
    | zero => exact ⟨.inr ⟨rfl, rfl⟩, fun h => by rwa [Site.failures_send s .getManagementAPI, h0] at h⟩
    | succ n =>
      obtain ⟨j, -, -, -, heq⟩ := removeNetworkLoop_eq _ n none (s.send .getManagementAPI)
      rw [heq]
      rcases hj : (s.send .getManagementAPI).reply j with _ | e
      · exact ⟨.inl rfl, fun h => Site.failures_eq_nil_of_subset h fun _ hr =>
          List.mem_of_mem_tail (List.mem_of_mem_drop hr)⟩
      · exact ⟨rfl, fun h => by simp [Site.reply_eq_none h] at hj⟩
  · rw [deleteVirtualNetwork, Az.bind_apply, Az.getManagementAPI, Az.request_err h0]
    exact ⟨rfl, fun h => by simp [Site.reply_eq_none h] at h0⟩

/-- **Retries.** `deleteVirtualNetwork` with `attempts > 0` fails on an error
making the session; otherwise it sends `j + 1 ≤ attempts` removals, the first
`j` answered "in use" and the last ending the loop, with an "in use" answer
only when no attempt is left. It returns that last answer, and the network
is gone exactly when that answer is a success. -/
theorem deleteVirtualNetwork_retries (envName : Str) {attempts : Nat} (ha : 0 < attempts)
    (st : Site) :
    (∃ e, st.reply 0 = some e ∧
      deleteVirtualNetwork envName attempts st = (.err e, st.send .getManagementAPI)) ∨
    (st.reply 0 = none ∧ ∃ j < attempts,
      (∀ i < j, ∃ e, st.reply (i + 1) = some e ∧ isNetworkInUse e) ∧
      (∀ e, st.reply (j + 1) = some e → isNetworkInUse e → j + 1 = attempts) ∧
      deleteVirtualNetwork envName attempts st = ((st.reply (j + 1)).elim (.ok ()) .err,
        { st with
          sub := if (st.reply (j + 1)).isNone then
              { st.sub with networks := st.sub.networks.erase (getVirtualNetworkName envName) }
            else st.sub,
          replies := st.replies.drop (j + 2),
          sent := st.sent ++ .getManagementAPI ::
            List.replicate (j + 1) (.removeVirtualNetworkSite (getVirtualNetworkName envName)) })) := by
  obtain ⟨n, rfl⟩ : ∃ n, attempts = n + 1 := ⟨attempts - 1, by omega⟩
  rcases h0 : st.reply 0 with _ | e
  · have hm : Az.getManagementAPI st = (.ok (), st.send .getManagementAPI) := Az.request_ok h0
    obtain ⟨j, hj, hin, hlast, heq⟩ := removeNetworkLoop_eq (getVirtualNetworkName envName) n none
      (st.send .getManagementAPI)
    refine .inr ⟨rfl, j, by omega, fun i hi => by simpa using hin i hi,
      fun e he hu => by rw [hlast e (by simpa using he) hu], ?_⟩
    rw [deleteVirtualNetwork, Az.bind_ok _ hm, heq]
    simp only [Site.reply_send, Site.send_sub]
    simp [Site.send, List.drop_tail]
  · exact .inl ⟨e, rfl, by rw [deleteVirtualNetwork, Az.bind_apply, Az.getManagementAPI, Az.request_err h0]⟩

/-- Azure answers the first removal "in use" and the second with a success:
two removals are sent, and the network goes. -/
theorem deleteVirtualNetwork_retries_inUse :
    let inUse : GwaclErr := ⟨"BadRequest".toList, some 400,
      some "The virtual network juju-e-vnet is currently in use.".toList, fun _ => rfl⟩
    let st : Site := ⟨⟨⟨[], []⟩, [], ["juju-e-vnet".toList], false⟩, [none, some inUse, none], []⟩
    0 < 3 ∧ ((∃ e, st.reply 0 = some e ∧
      deleteVirtualNetwork "e".toList 3 st = (.err e, st.send .getManagementAPI)) ∨
    (st.reply 0 = none ∧ ∃ j < 3,
      (∀ i < j, ∃ e, st.reply (i + 1) = some e ∧ isNetworkInUse e) ∧
      (∀ e, st.reply (j + 1) = some e → isNetworkInUse e → j + 1 = 3) ∧
      deleteVirtualNetwork "e".toList 3 st = ((st.reply (j + 1)).elim (.ok ()) .err,
        { st with
          sub := if (st.reply (j + 1)).isNone then
              { st.sub with networks := st.sub.networks.erase (getVirtualNetworkName "e".toList) }
            else st.sub,
          replies := st.replies.drop (j + 2),
          sent := st.sent ++ .getManagementAPI ::
            List.replicate (j + 1) (.removeVirtualNetworkSite (getVirtualNetworkName "e".toList)) }))) ∧
    (deleteVirtualNetwork "e".toList 3 st).2.sent.length = 3 ∧
    (deleteVirtualNetwork "e".toList 3 st).2.sub.networks = [] :=
  ⟨by decide, deleteVirtualNetwork_retries _ (by decide) _, by decide, by decide⟩

end Retry

/-! ## Runs with no error to come -/

/-- From a site whose subscription is `S` and with no error to come, `x`
returns `a` and leaves the subscription `S'`, still with no error to come. -/
def Az.Succeeds (x : Az α) (S : Subscription) (a : α) (S' : Subscription) : Prop :=
  Az.Hoare (fun st => st.sub = S ∧ st.failures = []) x
    (fun st b => b = a ∧ st.sub = S' ∧ st.failures = []) fun _ _ => False

namespace Az.Succeeds

variable {S S' : Subscription}

theorem pure (a : α) (S : Subscription) : Az.Succeeds (Pure.pure a) S a S :=
  fun _ ⟨hs, hc⟩ => ⟨rfl, hs, hc⟩

theorem bind {x : Az α} {k : α → Az β} {a : α} {b : β} {S1 : Subscription}
    (hx : Az.Succeeds x S a S1) (hk : Az.Succeeds (k a) S1 b S') :
    Az.Succeeds (x >>= k) S b S' :=
  Az.Hoare.bind hx fun _ st ⟨h, hs, hc⟩ => by subst h; exact hk st ⟨hs, hc⟩

theorem attempt {x : Az α} {a : α} (hx : Az.Succeeds x S a S') :
    Az.Succeeds (Az.attempt x) S (.ok a) S' :=
  (Az.Hoare.attempt hx).weaken (fun _ h => h) (fun _ r h => by
    rcases r with e | b
    · exact h.elim
    · exact ⟨by rw [h.1], h.2⟩) fun _ _ h => h

theorem deferOnError {body : Az α} {cleanup : Az Unit} {a : α} (hb : Az.Succeeds body S a S') :
    Az.Succeeds (Az.deferOnError cleanup body) S a S' :=
  Az.Hoare.deferOnError hb fun _ _ h => h.elim

theorem of_outcome {x : Az Unit} {f : Subscription → Subscription}
    (hx : ∀ st, Az.Hoare (· = st) x (fun st' _ => st'.sub = f st.sub ∧ st'.failures = st.failures)
      fun st' e => st'.sub = st.sub ∧ st.failures = e :: st'.failures) (S : Subscription) :
    Az.Succeeds x S () (f S) :=
  Az.Hoare.of_eq fun st ⟨hs, hc⟩ => (hx st).weaken (fun _ h => h)
    (fun _ _ ⟨h1, h2⟩ => ⟨rfl, hs ▸ h1, h2.trans hc⟩) fun _ _ ⟨_, h⟩ => by rw [hc] at h; cases h

theorem lift {x : Go α} {a : α} {w : World} (h : x S.world = (.ok a, w)) :
    Az.Succeeds (Az.lift x) S a { S with world := w } := by
  rintro st ⟨rfl, hc⟩
  unfold Az.lift
  rw [h]
  exact ⟨rfl, rfl, hc⟩

end Az.Succeeds

theorem request_succeeds (c : ApiCall) (act : Subscription → Subscription) (S : Subscription) :
    Az.Succeeds (Az.request c act) S () (act S) :=
  Az.Succeeds.of_outcome (fun st => request_outcome st c act) S

theorem managementRequest_succeeds (c : ApiCall) (act : Subscription → Subscription)
    (S : Subscription) : Az.Succeeds (managementRequest c act) S () (act S) :=
  Az.Succeeds.of_outcome (fun st => managementRequest_outcome st c act) S

theorem deleteVirtualNetwork_succeeds (envName : Str) {attempts : Nat} (ha : 0 < attempts)
    (S : Subscription) : Az.Succeeds (deleteVirtualNetwork envName attempts) S ()
      { S with networks := S.networks.erase (getVirtualNetworkName envName) } :=
  Az.Hoare.of_eq fun st ⟨hs, hc⟩ => (deleteVirtualNetwork_outcome envName attempts st).weaken
    (fun _ h => h) (fun _ _ ⟨h, hc'⟩ => ⟨rfl, by
      rcases h with h | ⟨h0, -⟩
      · rw [h, hs]
      · omega, hc' hc⟩) fun _ _ ⟨_, hne⟩ => hne hc

/-! ## `Destroy` -/

section Destroy

variable (envName : Str)

/-- The cloud services `Destroy` is after gone, and every other one kept. -/
def withoutEnvServices (ss : List HostedService) : List HostedService :=
  ss.filter fun s => !(getEnvPrefix envName).isPrefixOf s.serviceName

theorem listPrefixedHostedServices_outcome (pre : Str) (ss : List HostedService) :
    Go.Hoare (· = ss) (listPrefixedHostedServices pre)
      (fun ss' ns => ss' = ss ∧ ns = (ss.filter fun s => pre.isPrefixOf s.serviceName).map (·.serviceName))
      (· = ss) :=
  Go.Hoare.request_at ss rfl ⟨rfl, rfl⟩

theorem deleteServices_outcome : ∀ (ns : List Str) (ss : List HostedService),
    Go.Hoare (· = ss) (deleteServices ns) (fun ss' _ => ss' = ss.filter fun s => s.serviceName ∉ ns)
      fun _ => True
  | [], ss => Go.Hoare.pure () fun _ h => by simp [h]
  | n :: ns, ss => Go.Hoare.bind ((deleteHostedService_outcome ss n).weaken (fun _ h => h)
      (fun _ _ h => h) fun _ _ => trivial) fun _ => (deleteServices_outcome ns _).weaken
        (fun _ h => h) (fun _ _ h => by simp [h, List.filter_filter, Bool.and_comm]) fun _ h => h

/-- A `destroyAllServices` that returns leaves exactly the services of other
environments. -/
theorem destroyAllServices_outcome (ss : List HostedService) :
    Go.Hoare (· = ss) (destroyAllServices envName)
      (fun ss' _ => ss' = withoutEnvServices envName ss) fun _ => True :=
  ((getManagementAPI_outcome ss).weaken (fun _ h => h) (fun _ _ h => h) fun _ _ => trivial).bind fun _ =>
    (listPrefixedHostedServices_outcome _ ss).weaken (fun _ h => h) (fun _ _ h => h)
      (fun _ _ => trivial) |>.bind fun ns => Go.Hoare.of_const fun hns =>
      (deleteServices_outcome ns ss).weaken (fun _ h => h) (fun _ _ h => h.trans <|
        List.filter_congr fun s hs => by
          subst hns
          cases hp : (getEnvPrefix envName).isPrefixOf s.serviceName
          · simp only [Bool.not_false, decide_eq_true_eq, List.mem_map, List.mem_filter]
            rintro ⟨t, ⟨-, ht⟩, hts⟩
            rw [hts, hp] at ht
            cases ht
          · simp only [Bool.not_true, decide_eq_false_iff_not, not_not, List.mem_map, List.mem_filter]
            exact ⟨s, ⟨hs, hp⟩, rfl⟩) fun _ h => h

theorem request_no_fault {act : List HostedService → Res α × List HostedService} {name : String}
    {w : World} (hf : ∀ b ∈ w.faults, b = false) :
    request name act w = ((act w.services).1, ⟨(act w.services).2, w.faults.tail⟩) :=
  if_neg fun h => absurd (hf true (List.mem_of_mem_head? h)) Bool.noConfusion

/-- With no fault to come, `deleteServices` of distinct names of services
succeeds. -/
theorem deleteServices_no_fault : ∀ (ns : List Str) (w : World), (∀ b ∈ w.faults, b = false) →
    ns.Nodup → (∀ n ∈ ns, ∃ s ∈ w.services, s.serviceName = n) →
    ∃ w', deleteServices ns w = (.ok (), w') ∧ ∀ b ∈ w'.faults, b = false
  | [], w, hf, _, _ => ⟨w, rfl, hf⟩
  | n :: ns, w, hf, hnd, hin => by
    obtain ⟨s, hs, hsn⟩ := hin n (List.mem_cons_self _ _)
    have hdel : deleteHostedService n w =
        (.ok (), ⟨w.services.filter fun s => s.serviceName ≠ n, w.faults.tail⟩) := by
      rw [deleteHostedService, request_no_fault hf, if_pos (List.any_eq_true.mpr ⟨s, hs, by simp [hsn]⟩)]
    obtain ⟨w', hrun, hf'⟩ := deleteServices_no_fault ns
      ⟨w.services.filter fun s => s.serviceName ≠ n, w.faults.tail⟩ (fun b hb => hf b (List.mem_of_mem_tail hb))
      (List.nodup_cons.mp hnd).2 fun m hm => by
        obtain ⟨t, ht, rfl⟩ := hin m (List.mem_cons_of_mem _ hm)
        refine ⟨t, List.mem_filter.mpr ⟨ht, ?_⟩, rfl⟩
        simp only [ne_eq, decide_eq_true_eq]
        exact fun h => (List.nodup_cons.mp hnd).1 (h ▸ hm)
    exact ⟨w', by rw [deleteServices, Go.bind_ok _ hdel, hrun], hf'⟩

/-- With no fault to come and distinct service names, `destroyAllServices`
succeeds. -/
theorem destroyAllServices_no_fault (w : World) (hf : ∀ b ∈ w.faults, b = false)
    (hnd : (w.services.map (·.serviceName)).Nodup) :
    ∃ w', destroyAllServices envName w = (.ok (), w') ∧
      w'.services = withoutEnvServices envName w.services := by
  have hget : getManagementAPI w = (.ok (), ⟨w.services, w.faults.tail⟩) := request_no_fault hf
  have hf1 : ∀ b ∈ w.faults.tail, b = false := fun b hb => hf b (List.mem_of_mem_tail hb)
  obtain ⟨w', hrun, -⟩ := deleteServices_no_fault
    ((w.services.filter fun s => (getEnvPrefix envName).isPrefixOf s.serviceName).map (·.serviceName))
    ⟨w.services, w.faults.tail.tail⟩ (fun b hb => hf1 b (List.mem_of_mem_tail hb))
    (hnd.sublist ((List.filter_sublist _).map _)) fun n hn => by
      obtain ⟨s, hs, rfl⟩ := List.mem_map.mp hn
      exact ⟨s, (List.mem_filter.mp hs).1, rfl⟩
  have hlist : listPrefixedHostedServices (getEnvPrefix envName) ⟨w.services, w.faults.tail⟩ =
      (.ok ((w.services.filter fun s => (getEnvPrefix envName).isPrefixOf s.serviceName).map
        (·.serviceName)), ⟨w.services, w.faults.tail.tail⟩) := request_no_fault hf1
  have hdas : destroyAllServices envName w = (.ok (), w') := by
    rw [destroyAllServices, Go.bind_ok _ hget, Go.bind_ok _ hlist, hrun]
  have h := destroyAllServices_outcome envName w.services w rfl
  rw [hdas] at h
  exact ⟨w', hdas, h⟩

/-- **`Destroy`.** From any site and whatever Azure answers, `Destroy` does not
panic. It succeeds with the environment's services gone, every other service
kept and the storage emptied. It fails only with "cannot destroy
instances", having changed nothing but the cloud services, or with "cannot
clean up storage", with the environment's services gone and the storage
left. Errors deleting the network or the affinity group never make it
fail. -/
theorem destroy_results (attempts : Nat) (st : Site) :
    Az.Hoare (· = st) (destroy envName attempts)
      (fun st' _ => st'.sub.world.services = withoutEnvServices envName st.sub.world.services ∧
        st'.sub.storage = false)
      (fun st' e =>
        (∃ e0 : GwaclErr, e = e0.wrap "cannot destroy instances" ∧
          st' = { st with sub := { st.sub with world := st'.sub.world } }) ∨
        (∃ e0 : GwaclErr, e = e0.wrap "cannot clean up storage" ∧
          st'.sub.world.services = withoutEnvServices envName st.sub.world.services ∧
          st'.sub.storage = st.sub.storage)) := by
  refine (Az.Hoare.lift (destroyAllServices_outcome envName st.sub.world.services)).attempt.bind
    fun r => ?_
  rcases r with e | ⟨⟨⟩⟩
  · exact Az.Hoare.throw _ fun _ ⟨h, _⟩ => .inl ⟨e, rfl, h⟩
  -- the environment's services gone, the storage as it was: the two
  -- deletions whose errors are only warnings keep both
  let I : Site → Prop := fun s =>
    s.sub.world.services = withoutEnvServices envName st.sub.world.services ∧
      s.sub.storage = st.sub.storage
  have hI : ∀ s s' : Site, I s → s'.sub.world = s.sub.world ∧ s'.sub.storage = s.sub.storage →
      I s' := fun _ _ ⟨h1, h2⟩ ⟨hw, hs⟩ => ⟨hw ▸ h1, hs ▸ h2⟩
  have hvnet : Az.Hoare I (Az.attempt (deleteVirtualNetwork envName attempts)) (fun s _ => I s)
      fun _ _ => False :=
    Az.Hoare.attempt_keeps fun s hs => (deleteVirtualNetwork_outcome envName attempts s).weaken
      (fun _ h => h)
      (fun s' _ ⟨h, _⟩ => hI s s' hs <| h.elim (fun h => h ▸ ⟨rfl, rfl⟩) fun ⟨_, h⟩ => h ▸ ⟨rfl, rfl⟩)
      fun s' _ ⟨h, _⟩ => hI s s' hs (h ▸ ⟨rfl, rfl⟩)
  have hgroup : Az.Hoare I (Az.attempt (deleteAffinityGroup envName)) (fun s _ => I s)
      fun _ _ => False :=
    Az.Hoare.attempt_keeps fun s hs => (managementRequest_outcome s _ _).weaken (fun _ h => h)
      (fun s' _ ⟨h, _⟩ => hI s s' hs (h ▸ ⟨rfl, rfl⟩)) fun s' _ ⟨h, _⟩ => hI s s' hs (h ▸ ⟨rfl, rfl⟩)
  have hstore : Az.Hoare I (Az.attempt storageRemoveAll) (fun s' r =>
      s'.sub.world.services = withoutEnvServices envName st.sub.world.services ∧ match r with
        | .ok _ => s'.sub.storage = false
        | .error _ => s'.sub.storage = st.sub.storage) fun _ _ => False :=
    Az.Hoare.of_eq fun s ⟨h1, h2⟩ => (request_outcome s _ _).attempt.weaken (fun _ h => h)
      (fun _ r h => by cases r <;> exact ⟨h.1 ▸ h1, h.1 ▸ by first | rfl | exact h2⟩) fun _ _ h => h
  dsimp only
  refine Az.Hoare.bind (hvnet.weaken (fun s ⟨h1, h2⟩ => ⟨h2, congrArg (fun s => s.sub.storage) h1⟩)
    (fun _ _ h => h) nofun) fun _ => Az.Hoare.bind (hgroup.weaken (fun _ h => h) (fun _ _ h => h) nofun)
    fun _ => Az.Hoare.bind (hstore.weaken (fun _ h => h) (fun _ _ h => h) nofun) fun r => ?_
  rcases r with e | ⟨⟨⟩⟩
  · exact Az.Hoare.throw _ fun _ ⟨h1, h2⟩ => .inr ⟨e, rfl, h1, h2⟩
  · exact Az.Hoare.pure () fun _ h => h

/-- With no error to come, and `destroyAllServices` succeeding, `Destroy`
deletes the network and the affinity group and empties the storage. -/
theorem destroy_succeeds {attempts : Nat} (ha : 0 < attempts) (S : Subscription) {w : World}
    (h : destroyAllServices envName S.world = (.ok (), w)) :
    Az.Succeeds (destroy envName attempts) S ()
      { S with
        world := w
        affinityGroups := S.affinityGroups.erase (getAffinityGroupName envName)
        networks := S.networks.erase (getVirtualNetworkName envName)
        storage := false } :=
  (Az.Succeeds.lift h).attempt.bind <| (deleteVirtualNetwork_succeeds envName ha _).attempt.bind <|
    (managementRequest_succeeds _ _ _).attempt.bind <| (request_succeeds _ _ _).attempt.bind <|
      Az.Succeeds.pure () _

end Destroy

/-! ## `Bootstrap` -/

section Bootstrap

variable (envName location : Str)

theorem erase_sublist_of_insert_or_eq {l l' : List Str} {a : Str} (h : l' = l.insert a ∨ l' = l) :
    List.Sublist (l'.erase a) l := by
  rcases h with rfl | rfl
  · by_cases ha : a ∈ l
    · rw [List.insert_of_mem ha]
      exact List.erase_sublist _ _
    · rw [List.insert_of_not_mem ha, List.erase_cons_head]
  · exact List.erase_sublist _ _

/-- With at most one error among Azure's answers, the first error a run meets
is that one, and none comes after it. -/
theorem oneFault_err {F : List GwaclErr} (hF : F.length ≤ 1) {st st' : Site} {e : GwaclErr}
    (hs : st.failures = [] ∨ st.failures = F) (he : st.failures = e :: st'.failures) :
    F = [e] ∧ st'.failures = [] := by
  rcases hs with h | h <;> rw [h] at he
  · cases he
  · have h' : st'.failures = [] := List.eq_nil_of_length_eq_zero (by rw [he, List.length_cons] at hF; omega)
    exact ⟨by rw [he, h'], h'⟩

/-- The network half of `Bootstrap`, from a site whose affinity groups are `g`
and where at most the one error is still to come: it adds at most the
network; or it returns that error, having used it up, with no network that
was not there before. -/
theorem bootstrapNetwork_outcome {attempts : Nat} (ha : 0 < attempts) (st : Site)
    (hF : st.failures.length ≤ 1) (g : List Str) :
    Az.Hoare (fun s => s.sub = { st.sub with affinityGroups := g } ∧
        (s.failures = [] ∨ s.failures = st.failures))
      (bootstrapNetwork envName attempts)
      (fun s' _ => s'.sub = { st.sub with affinityGroups := g, networks := s'.sub.networks } ∧
        (s'.sub.networks = st.sub.networks.insert (getVirtualNetworkName envName) ∨
          s'.sub.networks = st.sub.networks))
      (fun s' e => st.failures = [e] ∧ s'.failures = [] ∧
        s'.sub = { st.sub with affinityGroups := g, networks := s'.sub.networks } ∧
        List.Sublist s'.sub.networks st.sub.networks) := by
  -- the generic bootstrap from a site whose networks are `n`, and the
  -- network's deletion after it failed
  have hcommon : ∀ n, (n = st.sub.networks.insert (getVirtualNetworkName envName) ∨
      n = st.sub.networks) → Az.Hoare (fun s =>
        s.sub = { st.sub with affinityGroups := g, networks := n } ∧
        (s.failures = [] ∨ s.failures = st.failures))
      (Az.deferOnError (deleteVirtualNetwork envName attempts) commonBootstrap)
      (fun s' _ => s'.sub = { st.sub with affinityGroups := g, networks := s'.sub.networks } ∧
        (s'.sub.networks = st.sub.networks.insert (getVirtualNetworkName envName) ∨
          s'.sub.networks = st.sub.networks))
      (fun s' e => st.failures = [e] ∧ s'.failures = [] ∧
        s'.sub = { st.sub with affinityGroups := g, networks := s'.sub.networks } ∧
        List.Sublist s'.sub.networks st.sub.networks) := fun n hn =>
    Az.Hoare.of_eq fun s ⟨hs, hf⟩ => Az.Hoare.deferOnError
      ((request_outcome s _ _).weaken (fun _ h => h)
        (fun _ _ ⟨h1, _⟩ => ⟨by rw [h1, hs]; rfl, by rw [h1, hs]; exact hn⟩)
        fun _ _ ⟨h1, h2⟩ => ⟨oneFault_err hF hf h2, h1.trans hs⟩ :
        Az.Hoare _ commonBootstrap _ fun s' e => (st.failures = [e] ∧ s'.failures = []) ∧
          s'.sub = { st.sub with affinityGroups := g, networks := n })
      fun _ => Az.Hoare.of_eq fun s1 ⟨⟨hF1, hc1⟩, hs1⟩ =>
        (deleteVirtualNetwork_outcome envName attempts s1).weaken (fun _ h => h)
          (fun _ _ ⟨h, hc⟩ => by
            rcases h with h | ⟨h0, -⟩
            · exact ⟨hF1, hc hc1, by rw [h, hs1],
                by rw [h, hs1]; exact erase_sublist_of_insert_or_eq hn⟩
            · omega)
          fun _ _ ⟨_, hne⟩ => absurd hc1 hne
  refine Az.Hoare.of_eq fun s ⟨hs, hf⟩ => Az.Hoare.attempt_check (managementRequest_outcome s _ _)
    ((hcommon _ (.inl rfl)).weaken (fun _ ⟨h1, h2⟩ => ⟨by rw [h1, hs], h2 ▸ hf⟩)
      (fun _ _ h => h) fun _ _ h => h)
    (fun _ _ => (hcommon _ (.inr rfl)).weaken
      (fun _ ⟨h1, h2⟩ => ⟨by rw [h1, hs], .inl (oneFault_err hF hf h2).2⟩)
      (fun _ _ h => h) fun _ _ h => h)
    fun _ _ ⟨h1, h2⟩ _ => ⟨(oneFault_err hF hf h2).1, (oneFault_err hF hf h2).2,
      by rw [h1, hs], by rw [h1, hs]⟩

/-- **Cleanup on failure.** When at most one of Azure's answers is an error,
`Bootstrap` (with at least one attempt to delete the network) does not panic
and changes only the affinity groups and the networks. It succeeds having
added at most the environment's group and network; or it returns that one
error, and its deferred deletions leave no group or network that was not
there before. -/
theorem bootstrap_cleans_up {attempts : Nat} (ha : 0 < attempts) (st : Site)
    (hF : st.failures.length ≤ 1) :
    Az.Hoare (· = st) (bootstrap envName location attempts)
      (fun st' _ => st'.sub =
          { st.sub with affinityGroups := st'.sub.affinityGroups, networks := st'.sub.networks } ∧
        (st'.sub.affinityGroups = st.sub.affinityGroups.insert (getAffinityGroupName envName) ∨
          st'.sub.affinityGroups = st.sub.affinityGroups) ∧
        (st'.sub.networks = st.sub.networks.insert (getVirtualNetworkName envName) ∨
          st'.sub.networks = st.sub.networks))
      (fun st' e => st.failures = [e] ∧
        st'.sub = { st.sub with affinityGroups := st'.sub.affinityGroups, networks := st'.sub.networks } ∧
        List.Sublist st'.sub.affinityGroups st.sub.affinityGroups ∧
        List.Sublist st'.sub.networks st.sub.networks) := by
  -- the network half, and the group's deletion after it failed, from a site
  -- whose groups are `g`
  have hgroup : ∀ g, (g = st.sub.affinityGroups.insert (getAffinityGroupName envName) ∨
      g = st.sub.affinityGroups) → Az.Hoare (fun s =>
        s.sub = { st.sub with affinityGroups := g } ∧ (s.failures = [] ∨ s.failures = st.failures))
      (Az.deferOnError (deleteAffinityGroup envName) (bootstrapNetwork envName attempts))
      (fun st' _ => st'.sub =
          { st.sub with affinityGroups := st'.sub.affinityGroups, networks := st'.sub.networks } ∧
        (st'.sub.affinityGroups = st.sub.affinityGroups.insert (getAffinityGroupName envName) ∨
          st'.sub.affinityGroups = st.sub.affinityGroups) ∧
        (st'.sub.networks = st.sub.networks.insert (getVirtualNetworkName envName) ∨
          st'.sub.networks = st.sub.networks))
      (fun st' e => st.failures = [e] ∧
        st'.sub = { st.sub with affinityGroups := st'.sub.affinityGroups, networks := st'.sub.networks } ∧
        List.Sublist st'.sub.affinityGroups st.sub.affinityGroups ∧
        List.Sublist st'.sub.networks st.sub.networks) := fun g hg =>
    Az.Hoare.deferOnError ((bootstrapNetwork_outcome envName ha st hF g).weaken (fun _ h => h)
        (fun _ _ ⟨h1, h2⟩ => ⟨by rw [h1], by rw [h1]; exact hg, h2⟩) fun _ _ h => h)
      fun _ => Az.Hoare.of_eq fun s1 ⟨hF1, hc1, hs1, hn1⟩ =>
        (managementRequest_outcome s1 _ _).weaken (fun _ h => h)
          (fun _ _ ⟨h, _⟩ => ⟨hF1, by rw [h, hs1],
            by rw [h, hs1]; exact erase_sublist_of_insert_or_eq hg, by rw [h]; exact hn1⟩)
          fun _ _ ⟨_, h⟩ => by rw [hc1] at h; cases h
  exact Az.Hoare.attempt_check (managementRequest_outcome st _ _)
    ((hgroup _ (.inl rfl)).weaken (fun _ ⟨h1, h2⟩ => ⟨h1, .inr h2⟩) (fun _ _ h => h) fun _ _ h => h)
    (fun _ _ => (hgroup _ (.inr rfl)).weaken
      (fun _ ⟨h1, h2⟩ => ⟨h1, .inl (oneFault_err hF (.inr rfl) h2).2⟩) (fun _ _ h => h)
      fun _ _ h => h)
    fun _ _ ⟨h1, h2⟩ _ => ⟨(oneFault_err hF (.inr rfl) h2).1, by rw [h1],
      by rw [h1], by rw [h1]⟩

/-- The generic bootstrap fails after the group and the network were made:
the deferred deletions take both away again. -/
theorem bootstrap_cleans_up_failedBootstrap :
    let boom : GwaclErr := ⟨"boom".toList, none, none, nofun⟩
    let st : Site := ⟨⟨⟨[], []⟩, [], [], false⟩, [none, none, none, none, some boom], []⟩
    0 < 1 ∧ st.failures.length ≤ 1 ∧
      (bootstrap "e".toList "West US".toList 1 st).2.sent.length = 9 ∧
      (bootstrap "e".toList "West US".toList 1 st).2.sub.affinityGroups = [] ∧
      (bootstrap "e".toList "West US".toList 1 st).2.sub.networks = [] := by
  intro boom st
  have h := bootstrap_cleans_up "e".toList "West US".toList (by decide : 0 < 1) st (by decide) st rfl
  have hrun : bootstrap "e".toList "West US".toList 1 st =
      (.err boom, (bootstrap "e".toList "West US".toList 1 st).2) := rfl
  rw [hrun] at h
  exact ⟨by decide, by decide, by decide, List.sublist_nil.mp h.2.2.1, List.sublist_nil.mp h.2.2.2⟩

/-- With no error to come, `Bootstrap` adds the environment's affinity group
and network. -/
theorem bootstrap_succeeds {attempts : Nat} (S : Subscription) :
    Az.Succeeds (bootstrap envName location attempts) S ()
      { S with
        affinityGroups := S.affinityGroups.insert (getAffinityGroupName envName)
        networks := S.networks.insert (getVirtualNetworkName envName) } :=
  (managementRequest_succeeds _ _ S).attempt.bind <| (Az.Succeeds.pure () _).bind <|
    Az.Succeeds.deferOnError <| (managementRequest_succeeds _ _ _).attempt.bind <|
      (Az.Succeeds.pure () _).bind <| Az.Succeeds.deferOnError (request_succeeds _ _ _)

theorem erase_insert_self (l : List Str) (a : Str) : (l.insert a).erase a = l.erase a := by
  by_cases ha : a ∈ l
  · rw [List.insert_of_mem ha]
  · rw [List.insert_of_not_mem ha, List.erase_cons_head, List.erase_of_not_mem ha]

/-- **Round trip.** With no error among Azure's answers, no fault for the
cloud service requests and distinct service names, `Destroy` after
`Bootstrap` cannot fail. It leaves the site's affinity groups and networks
without the environment's, the storage empty, no service of the environment,
every other service, and the rest of the subscription as it was. -/
theorem destroy_after_bootstrap {attempts : Nat} (ha : 0 < attempts) (st : Site)
    (hcalm : st.failures = []) (hf : ∀ b ∈ st.sub.world.faults, b = false)
    (hnd : (st.sub.world.services.map (·.serviceName)).Nodup) :
    Az.Hoare (· = st) (bootstrap envName location attempts >>= fun _ => destroy envName attempts)
      (fun st' _ => st'.sub =
          { st.sub with
            world := st'.sub.world
            affinityGroups := st.sub.affinityGroups.erase (getAffinityGroupName envName)
            networks := st.sub.networks.erase (getVirtualNetworkName envName)
            storage := false } ∧
        st'.sub.world.services = withoutEnvServices envName st.sub.world.services)
      fun _ _ => False := by
  obtain ⟨w, hdas, hsvc⟩ := destroyAllServices_no_fault envName st.sub.world hf hnd
  refine ((bootstrap_succeeds envName location st.sub).bind
    (destroy_succeeds envName ha { st.sub with
      affinityGroups := st.sub.affinityGroups.insert (getAffinityGroupName envName)
      networks := st.sub.networks.insert (getVirtualNetworkName envName) } hdas)).weaken (fun _ h => ⟨h ▸ rfl, h ▸ hcalm⟩)
    (fun _ _ ⟨_, hs, _⟩ => ⟨?_, by rw [hs]; exact hsvc⟩) fun _ _ h => h
  rw [hs]
  dsimp only
  rw [erase_insert_self, erase_insert_self]

/-- A subscription with a service of the environment and another one: the
round trip leaves only the other service, and the storage empty. -/
theorem destroy_after_bootstrap_twoServices :
    let st : Site := ⟨⟨⟨[⟨"juju-e-abc".toList, [], []⟩, ⟨"other".toList, [], []⟩], []⟩,
      [], [], true⟩, [], []⟩
    let run := (bootstrap "e".toList "West US".toList 1 >>= fun _ => destroy "e".toList 1) st
    0 < 1 ∧ st.failures = [] ∧ (∀ b ∈ st.sub.world.faults, b = false) ∧
      (st.sub.world.services.map (·.serviceName)).Nodup ∧
      run.2.sub.world.services = [⟨"other".toList, [], []⟩] ∧ run.2.sub.storage = false := by
  intro st run
  have h := destroy_after_bootstrap "e".toList "West US".toList (by decide : 0 < 1) st rfl
    (by decide) (by decide) st rfl
  have hrun : (bootstrap "e".toList "West US".toList 1 >>= fun _ => destroy "e".toList 1) st =
      (.ok (), run.2) := rfl
  rw [hrun] at h
  exact ⟨by decide, rfl, by decide, by decide, h.2.trans (by decide),
    congrArg Subscription.storage h.1⟩

end Bootstrap

end Juju.Azure
