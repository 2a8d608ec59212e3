import Juju.Azure.Bootstrap

/-!
# Tearing down: the deferred deletions of `Bootstrap`, and `Destroy` again

`Bootstrap` (part_001:272-297) defers two deletions: the affinity group's,
registered once the group exists, and the virtual network's, registered
once the network exists. Go runs deferred functions last in, first out, so
when a later step fails the network goes before the group. `Destroy`
(part_001:1084-1115) first deletes the environment's cloud services
(`destroyAllServices`, part_001:915-933, which returns at the first request
that fails) and removes the storage last, so that a `Destroy` that failed
part-way leaves an environment that can be destroyed again.

**What a call keeps.** Both are facts about every run, whatever Azure
answers. A relation between the site before and after a call that is
reflexive and transitive (`SiteOrder`) is kept by a call whose requests keep
it (`Az.Moves`, an instance of `ErrState.Rel`, whose rules it inherits); it
is used for the requests sent (`logsOnly`) and for the cloud services
(`sameWorld`).

Results:
* `bootstrap_deletes_group_last`: whatever Azure answers, `Bootstrap` deletes
  an affinity group at most once, and only as its last request, after the
  virtual network's removal that was deferred after it.
* `destroy_retry`: after a `Destroy` that ended in any way, a second one
  with no error to come and no fault on the cloud service requests
  succeeds, and leaves the services a `Destroy` that succeeded at once would
  have left.
-/
namespace Juju.Azure

/-! ## What every run of a call keeps -/

/-- A relation between a site and the site a call leaves, of the kind a
sequence of calls keeps: reflexive, for a call that sends nothing, and
transitive, for calls one after the other. -/
structure SiteOrder where
  rel : Site → Site → Prop
  refl : ∀ st, rel st st
  trans : ∀ {a b c}, rel a b → rel b c → rel a c

/-- Every run of `x`, from any site and whatever Azure answers, leaves a
site related to the one it started from. -/
def Az.Moves (R : SiteOrder) (x : Az α) : Prop := ErrState.Rel R.rel x fun _ _ => True

namespace Az.Moves

variable {R : SiteOrder}

theorem run {x : Az α} (h : Az.Moves R x) (st : Site) : R.rel st (x st).2 :=
  (ErrState.Rel.run h st).1

theorem pure (a : α) : Az.Moves R (Pure.pure a) := ErrState.Rel.pure R.refl a fun _ => trivial

theorem throw (e : GwaclErr) : Az.Moves R (Az.throw e : Az α) := ErrState.Rel.throw R.refl e

theorem bind_after {x : Az α} {f : α → Az β} (hf : ∀ a, Az.Moves R (f a)) (st : Site) :
    R.rel (x st).2 ((x >>= f) st).2 := by
  rw [Az.bind_apply]
  rcases x st with ⟨a | e | m, st'⟩
  exacts [(hf a).run st', R.refl _, R.refl _]

theorem bind {x : Az α} {f : α → Az β} (hx : Az.Moves R x) (hf : ∀ a, Az.Moves R (f a)) :
    Az.Moves R (x >>= f) :=
  ErrState.Rel.bind (R := R.rel) R.trans hx (fun _ a _ => hf a) fun _ _ _ _ _ _ h => h

theorem attempt {x : Az α} (hx : Az.Moves R x) : Az.Moves R (Az.attempt x) :=
  (ErrState.Rel.attempt hx).weaken fun _ _ _ => trivial

theorem check (allowed : GwaclErr → Bool) (r : Except GwaclErr Unit) :
    Az.Moves R (Az.check allowed r) := by
  rcases r with e | ⟨⟨⟩⟩
  · show Az.Moves R (if allowed e then Pure.pure () else Az.throw e)
    split
    · exact pure ()
    · exact throw e
  · exact pure ()

theorem deferOnError {body : Az α} {cleanup : Az Unit} (hb : Az.Moves R body)
    (hc : Az.Moves R cleanup) : Az.Moves R (Az.deferOnError cleanup body) :=
  ErrState.Rel.deferOnError (R := R.rel) R.trans hb hc

theorem request {c : ApiCall} {act : Subscription → Subscription}
    (hf : ∀ st, R.rel st (st.send c)) (ha : ∀ st, R.rel st { st.send c with sub := act st.sub }) :
    Az.Moves R (Az.request c act) := by
  rintro st0 st rfl
  rcases h : st.reply 0 with _ | e
  · rw [Az.request_ok h]
    exact ⟨ha st, trivial⟩
  · rw [Az.request_err h]
    exact hf st

end Az.Moves

/-- The retry loop of `deleteVirtualNetwork` keeps what one removal keeps. -/
theorem removeNetworkLoop_moves {R : SiteOrder} {v : Str}
    (hr : Az.Moves R (removeVirtualNetworkSite v)) : ∀ n err, Az.Moves R (removeNetworkLoop v n err)
  | 0, none => Az.Moves.pure ()
  | 0, some e => Az.Moves.throw e
  | n + 1, _ => hr.attempt.bind fun r => by
    rcases r with e | ⟨⟨⟩⟩
    · dsimp only
      split
      · exact removeNetworkLoop_moves hr n _
      · exact Az.Moves.throw e
    · exact Az.Moves.pure ()

/-! ## The order of the deferred deletions -/

/-- The site grew by requests, each of which satisfies `p`. -/
def logsOnly (p : ApiCall → Prop) : SiteOrder where
  rel st st' := ∃ new, st'.sent = st.sent ++ new ∧ ∀ c ∈ new, p c
  refl _ := ⟨[], by simp, by simp⟩
  trans := fun ⟨n1, h1, p1⟩ ⟨n2, h2, p2⟩ =>
    ⟨n1 ++ n2, by rw [h2, h1, List.append_assoc], by simpa [or_imp, forall_and] using ⟨p1, p2⟩⟩

/-- Every request `x` sends, from any site and whatever Azure answers,
satisfies `p`. -/
def Az.Logs (p : ApiCall → Prop) (x : Az α) : Prop := Az.Moves (logsOnly p) x

theorem Az.Logs.request {p : ApiCall → Prop} {c : ApiCall} (act : Subscription → Subscription)
    (hc : p c) : Az.Logs p (Az.request c act) :=
  Az.Moves.request (fun _ => ⟨[c], rfl, by simpa using hc⟩) fun _ => ⟨[c], rfl, by simpa using hc⟩

/-- The requests that do not delete an affinity group. -/
def KeepsGroups (c : ApiCall) : Prop := ∀ a, c ≠ .deleteAffinityGroup a

theorem managementRequest_logs {c : ApiCall} (act : Subscription → Subscription)
    (hc : KeepsGroups c) : Az.Logs KeepsGroups (managementRequest c act) :=
  Az.Moves.bind (Az.Logs.request _ fun _ h => by cases h) fun _ => Az.Logs.request act hc

theorem bootstrapNetwork_logs (envName : Str) (attempts : Nat) :
    Az.Logs KeepsGroups (bootstrapNetwork envName attempts) :=
  Az.Moves.bind (Az.Moves.attempt (managementRequest_logs _ fun _ h => by cases h)) fun r =>
    (Az.Moves.check _ r).bind fun _ => Az.Moves.deferOnError
      (Az.Logs.request _ fun _ h => by cases h)
      (Az.Moves.bind (Az.Logs.request _ fun _ h => by cases h) fun _ =>
        removeNetworkLoop_moves (Az.Logs.request _ fun _ h => by cases h) _ _)

theorem request_sent (c : ApiCall) (act : Subscription → Subscription) (st : Site) :
    (Az.request c act st).2.sent = st.sent ++ [c] := by
  unfold Az.request
  split <;> rfl

/-- `deleteAffinityGroup` sends `getManagementAPI`, then the deletion unless
that failed. -/
theorem deleteAffinityGroup_sent (envName : Str) (st : Site) :
    ∃ new, (deleteAffinityGroup envName st).2.sent = st.sent ++ new ∧
      (new = [.getManagementAPI] ∨
        new = [.getManagementAPI, .deleteAffinityGroup (getAffinityGroupName envName)]) := by
  simp only [deleteAffinityGroup, managementRequest, Az.getManagementAPI, Az.bind_apply]
  cases h0 : st.reply 0 with
  | some e => exact ⟨_, by rw [Az.request_err h0]; rfl, .inl rfl⟩
  | none =>
    rw [Az.request_ok h0]
    exact ⟨_, by rw [request_sent]; simp [Site.send], .inr rfl⟩

/-- A request log in which a deletion of an affinity group, if any, comes
last. -/
def GroupLast (new : List ApiCall) : Prop :=
  ∀ p q a, new = p ++ .deleteAffinityGroup a :: q → q = []

theorem groupLast_nil : GroupLast [] := fun p _ _ h => by simp at h

theorem groupLast_deleteAffinityGroup (g : Str) : GroupLast [.deleteAffinityGroup g] :=
  fun p q a h => by
    rcases p with _ | ⟨x, p⟩
    · exact (List.cons_eq_cons.mp h).2.symm
    · simp at h

theorem GroupLast.append {l n : List ApiCall} (hl : ∀ x ∈ l, KeepsGroups x) (hn : GroupLast n) :
    GroupLast (l ++ n) := fun p q a h => by
  obtain ⟨a', -, h1⟩ | ⟨c', hc', h2⟩ := List.append_eq_append_iff.mp h
  · exact hn a' q a h1
  · rcases c' with _ | ⟨x, c''⟩
    · exact hn [] q a (by simpa using h2.symm)
    · obtain ⟨rfl, -⟩ := List.cons_eq_cons.mp h2
      exact absurd rfl (hl _ (hc' ▸ List.mem_append_right _ (List.mem_cons_self _ _)) a)

theorem groupLast_of_keeps {l : List ApiCall} (hl : ∀ x ∈ l, KeepsGroups x) : GroupLast l := by
  simpa using GroupLast.append hl groupLast_nil

theorem keeps_getManagementAPI : ∀ x ∈ [ApiCall.getManagementAPI], KeepsGroups x := by
  simp [KeepsGroups]

/-- Every run of `x`, from any site and whatever Azure answers, logs
requests in which a deletion of an affinity group comes last. -/
def Az.EndsWithGroup (x : Az α) : Prop :=
  ∀ st, ∃ new, (x st).2.sent = st.sent ++ new ∧ GroupLast new

theorem Az.EndsWithGroup.bind {x : Az α} {f : α → Az β} (hx : Az.Logs KeepsGroups x)
    (hf : ∀ a, Az.EndsWithGroup (f a)) : Az.EndsWithGroup (x >>= f) := fun st => by
  obtain ⟨n1, h1, p1⟩ := hx.run st
  rw [Az.bind_apply]
  rcases hxs : x st with ⟨a | e | m, st'⟩ <;> rw [hxs] at h1
  · obtain ⟨n2, h2, p2⟩ := hf a st'
    exact ⟨n1 ++ n2, by rw [h2, h1, List.append_assoc], p2.append p1⟩
  all_goals exact ⟨n1, h1, groupLast_of_keeps p1⟩

/-- The deferred deletion of the affinity group runs after everything the
body sent. -/
theorem Az.EndsWithGroup.deferOnError {body : Az α} (envName : Str)
    (hb : Az.Logs KeepsGroups body) :
    Az.EndsWithGroup (Az.deferOnError (deleteAffinityGroup envName) body) := fun st => by
  obtain ⟨n1, h1, p1⟩ := hb.run st
  unfold ErrState.deferOnError
  rcases hbs : body st with ⟨a | e | m, st'⟩ <;> rw [hbs] at h1
  · exact ⟨n1, h1, groupLast_of_keeps p1⟩
  · obtain ⟨n2, h2, hn2⟩ := deleteAffinityGroup_sent envName st'
    have hlast : GroupLast n2 := by
      rcases hn2 with rfl | rfl
      · exact groupLast_of_keeps keeps_getManagementAPI
      · exact GroupLast.append keeps_getManagementAPI (groupLast_deleteAffinityGroup _)
    dsimp only
    rcases hcs : deleteAffinityGroup envName st' with ⟨u | e' | m', st''⟩ <;> rw [hcs] at h2 <;>
      exact ⟨n1 ++ n2, by rw [h2, h1, List.append_assoc], hlast.append p1⟩
  · exact ⟨n1, h1, groupLast_of_keeps p1⟩

/-- **The deferred deletions run in reverse order.** Whatever Azure answers,
a deletion of an affinity group, when `Bootstrap` sends one, is its last
request: the virtual network's removal, deferred after it, is sent before,
as Go runs deferred functions last in, first out. -/
theorem bootstrap_deletes_group_last (envName location : Str) (attempts : Nat) (st : Site) :
    ∃ new, (bootstrap envName location attempts st).2.sent = st.sent ++ new ∧ GroupLast new :=
  Az.EndsWithGroup.bind (Az.Moves.attempt (managementRequest_logs _ fun _ h => by cases h))
    (fun r => Az.EndsWithGroup.bind (Az.Moves.check _ r) fun _ =>
      Az.EndsWithGroup.deferOnError envName (bootstrapNetwork_logs envName attempts)) st

/-! ## Retrying `Destroy` -/

/-- The cloud services stay as they are. -/
def sameWorld : SiteOrder where
  rel st st' := st'.sub.world = st.sub.world
  refl _ := rfl
  trans h1 h2 := h2.trans h1

theorem request_sameWorld {c : ApiCall} {act : Subscription → Subscription}
    (h : ∀ S, (act S).world = S.world) : Az.Moves sameWorld (Az.request c act) :=
  Az.Moves.request (fun _ => rfl) fun st => h st.sub

section Retry

variable (envName : Str)

theorem attempt_lift_world (x : Go α) (st : Site) :
    (Az.attempt (Az.lift x) st).2.sub.world = (x st.sub.world).2 := by
  rcases h : x st.sub.world with ⟨a | e | m, w⟩ <;> simp [Az.attempt, Az.lift, h]

/-- `Destroy` changes the cloud services only through `destroyAllServices`:
the network, the affinity group and the storage are not among them. -/
theorem destroy_world (attempts : Nat) (st : Site) :
    (destroy envName attempts st).2.sub.world = (destroyAllServices envName st.sub.world).2 := by
  rw [← attempt_lift_world]
  refine Az.Moves.bind_after (R := sameWorld) (fun r => ?_) st
  rcases r with e | ⟨⟨⟩⟩
  · exact Az.Moves.throw _
  · refine Az.Moves.bind (Az.Moves.attempt (Az.Moves.bind (request_sameWorld fun _ => rfl) fun _ =>
      removeNetworkLoop_moves (request_sameWorld fun _ => rfl) _ _)) fun _ => Az.Moves.bind (Az.Moves.attempt
        (Az.Moves.bind (request_sameWorld fun _ => rfl) fun _ => request_sameWorld fun _ => rfl)) fun _ =>
          Az.Moves.bind (Az.Moves.attempt (request_sameWorld fun _ => rfl)) fun r => ?_
    rcases r with e | ⟨⟨⟩⟩
    · exact Az.Moves.throw _
    · exact Az.Moves.pure ()

/-- What a run of `destroyAllServices` from `ss` leaves, however it ends:
`ss` without some services of the environment. -/
def Trimmed (ss ss' : List HostedService) : Prop :=
  ∃ gone : List Str, (∀ n ∈ gone, (getEnvPrefix envName).isPrefixOf n) ∧
    ss' = ss.filter fun s => s.serviceName ∉ gone

section Trim

variable {envName}

theorem Trimmed.refl (ss : List HostedService) : Trimmed envName ss ss := ⟨[], by simp, by simp⟩

theorem Trimmed.withoutEnv {ss ss' : List HostedService} (h : Trimmed envName ss ss') :
    withoutEnvServices envName ss' = withoutEnvServices envName ss := by
  obtain ⟨gone, hg, rfl⟩ := h
  unfold withoutEnvServices
  rw [List.filter_filter]
  refine List.filter_congr fun s _ => ?_
  cases hp : (getEnvPrefix envName).isPrefixOf s.serviceName
  · simpa using fun hm => by simpa [hp] using hg _ hm
  · simp

theorem Trimmed.nodup {ss ss' : List HostedService} (h : Trimmed envName ss ss')
    (hnd : (ss.map (·.serviceName)).Nodup) : (ss'.map (·.serviceName)).Nodup := by
  obtain ⟨gone, -, rfl⟩ := h
  exact hnd.sublist ((List.filter_sublist _).map _)

end Trim

theorem deleteServices_trims : ∀ (ns : List Str) (ss : List HostedService),
    Go.Hoare (· = ss) (deleteServices ns)
      (fun ss' _ => ∃ gone, gone ⊆ ns ∧ ss' = ss.filter fun s => s.serviceName ∉ gone)
      fun ss' => ∃ gone, gone ⊆ ns ∧ ss' = ss.filter fun s => s.serviceName ∉ gone
  | [], ss => Go.Hoare.pure () fun _ h => ⟨[], List.nil_subset _, by simp [h]⟩
  | n :: ns, ss => by
    have step : ∀ ss' gone, gone ⊆ ns →
        ss' = (ss.filter fun s => s.serviceName ≠ n).filter (fun s => s.serviceName ∉ gone) →
        ∃ gone, gone ⊆ n :: ns ∧ ss' = ss.filter fun s => s.serviceName ∉ gone :=
      fun ss' gone hsub h => ⟨n :: gone, List.cons_subset_cons n hsub, by
        rw [h, List.filter_filter]
        exact List.filter_congr fun s _ => by simp [Bool.and_comm]⟩
    exact Go.Hoare.bind ((deleteHostedService_outcome ss n).weaken (fun _ h => h) (fun _ _ h => h)
      fun _ h => ⟨[], List.nil_subset _, by simp [h]⟩) fun _ =>
        (deleteServices_trims ns (ss.filter fun s => s.serviceName ≠ n)).weaken (fun _ h => h)
          (fun ss' _ ⟨gone, hsub, h⟩ => step ss' gone hsub h) fun ss' ⟨gone, hsub, h⟩ =>
            step ss' gone hsub h

/-- However it ends, `destroyAllServices` trims the services. -/
theorem destroyAllServices_trims (ss : List HostedService) :
    Go.Hoare (· = ss) (destroyAllServices envName) (fun ss' _ => Trimmed envName ss ss')
      (Trimmed envName ss) :=
  ((getManagementAPI_outcome ss).weaken (fun _ h => h) (fun _ _ h => h)
    fun _ h => by subst h; exact Trimmed.refl _).bind fun _ =>
  ((listPrefixedHostedServices_outcome _ ss).weaken (fun _ h => h) (fun _ _ h => h)
    fun _ h => by subst h; exact Trimmed.refl _).bind fun ns => Go.Hoare.of_const fun hns =>
  have trims : ∀ ss', (∃ gone, gone ⊆ ns ∧ ss' = ss.filter fun s => s.serviceName ∉ gone) →
      Trimmed envName ss ss' := fun _ ⟨gone, hsub, h⟩ => ⟨gone, fun n hn => by
    obtain ⟨s, hs, rfl⟩ := List.mem_map.mp (hns ▸ hsub hn)
    exact (List.mem_filter.mp hs).2, h⟩
  (deleteServices_trims ns ss).weaken (fun _ h => h) (fun ss' _ h => trims ss' h) trims

/-- **A failed `Destroy` can be retried.** Whatever Azure answered a first
`Destroy` and however it ended, a second `Destroy` with no error to come and
no fault on the cloud service requests succeeds, and leaves the services a
`Destroy` that succeeded at once would have left: none of the environment,
every other one, and the storage removed. -/
theorem destroy_retry {attempts : Nat} (ha : 0 < attempts) (st : Site)
    (hnd : (st.sub.world.services.map (·.serviceName)).Nodup) (st2 : Site)
    (hsvc : st2.sub.world.services = (destroy envName attempts st).2.sub.world.services)
    (hcalm : st2.failures = []) (hf : ∀ b ∈ st2.sub.world.faults, b = false) :
    ∃ st3, destroy envName attempts st2 = (.ok (), st3) ∧
      st3.sub.world.services = withoutEnvServices envName st.sub.world.services ∧
      st3.sub.storage = false := by
  -- the first run left what `destroyAllServices` left, however it ended
  have htrim : Trimmed envName st.sub.world.services st2.sub.world.services := by
    have h := destroyAllServices_trims envName st.sub.world.services st.sub.world rfl
    rw [hsvc, destroy_world]
    rcases hdas : destroyAllServices envName st.sub.world with ⟨a | e | m, w⟩ <;> rw [hdas] at h
    exacts [h, h, h.elim]
  obtain ⟨w, hdas, hw⟩ := destroyAllServices_no_fault envName st2.sub.world hf (htrim.nodup hnd)
  have h := destroy_succeeds envName ha st2.sub hdas st2 ⟨rfl, hcalm⟩
  rcases hd : destroy envName attempts st2 with ⟨⟨⟩ | e | m, st3⟩ <;> rw [hd] at h
  · exact ⟨st3, rfl, by rw [h.2.1]; exact hw.trans htrim.withoutEnv, by rw [h.2.1]⟩
  all_goals exact h.elim

/-- A first `Destroy` fails deleting `juju-e-b`, after `juju-e-a` went; the
retry leaves the other environment's service alone. -/
theorem destroy_retry_partial :
    let st : Site := ⟨⟨⟨[⟨"juju-e-a".toList, [], []⟩, ⟨"juju-e-b".toList, [], []⟩,
      ⟨"other".toList, [], []⟩], [false, false, false, true]⟩, [], [], true⟩, [], []⟩
    let st2 : Site := { (destroy "e".toList 1 st).2 with replies := [] }
    (destroy "e".toList 1 st).2.sub.world.services =
        [⟨"juju-e-b".toList, [], []⟩, ⟨"other".toList, [], []⟩] ∧
      0 < 1 ∧ (st.sub.world.services.map (·.serviceName)).Nodup ∧
      st2.sub.world.services = (destroy "e".toList 1 st).2.sub.world.services ∧
      st2.failures = [] ∧ (∀ b ∈ st2.sub.world.faults, b = false) ∧
      ∃ st3, destroy "e".toList 1 st2 = (.ok (), st3) ∧
        st3.sub.world.services = withoutEnvServices "e".toList st.sub.world.services ∧
        st3.sub.storage = false := by
  intro st st2
  exact ⟨by decide, by decide, by decide, rfl, rfl, by decide,
    destroy_retry "e".toList (by decide) st (by decide) st2 rfl rfl (by decide)⟩

end Retry

end Juju.Azure
