import Mathlib.Data.List.GetD
import Mathlib.Data.List.Infix
import Juju.Singular.Monitor

/-!
# The agents of the mastership test, interleaved

`TestMongoMastership` (part_000:35-93) reads the notifications of all its
agents from one channel, so the monitor sees an interleaving of what each
agent sends. An agent sends in the order of its code (part_000:146-199,
388-414): `mongoWorker` sends `connect` once it has a singular runner, and
only then asks it to start the worker; `agent.worker` sends `start`, an
`operation` after each insert and, deferred, `stop`; when `run` returns the
agent sends `quit` with the error `Wait` returned. Two facts come from the
worker runners, whose code is not part of this repository: a runner
restarts `mongoWorker` (a new `connect`), and returns from `Wait` (a
`quit`), only once the worker it runs has stopped. `AgentPc.next` is that
order, and `agentsRun` runs the agents interleaved, in any order.

The monitor's flags follow the agents (`Tracks`), and its `activeId` is the
agent of the last operation since the last `stop`. Along a trace this is
`SeparatedFrom`, a checker whose meaning `separatedFrom_iff` gives over the
trace as a whole.

Results:
* `monitor_accepts_iff`: over every interleaving of any number of agents,
  the monitor accepts the trace exactly when operations of two different
  agents are separated by a `stop` of some agent and every `quit` is clean
  (no error, from an agent that connected).
* `monitor_accepts_exclusive`: when at most one agent's worker runs at any
  time, which is what the singular runner is for, and quits are clean, the
  monitor accepts, and the trace hands over: between operations of two
  agents the first one stops.
-/
namespace Juju.Singular

/-! ## The agents -/

/-- Where an agent is, as its notifications show. -/
inductive AgentPc where
  /-- `run` started and no `mongoWorker` has connected yet -/
  | dialing
  /-- a `mongoWorker` connected; the singular worker does not run -/
  | connected
  /-- `agent.worker` runs -/
  | working
  /-- `run` returned -/
  | quit
  deriving DecidableEq, Repr

/-- The notification an agent at `pc` may send next, and where it is then. -/
def AgentPc.next : AgentPc → Kind → Option AgentPc
  | .dialing, .connect => some .connected
  | .dialing, .quit => some .quit
  | .connected, .connect => some .connected
  | .connected, .start => some .working
  | .connected, .quit => some .quit
  | .working, .operation => some .working
  | .working, .stop => some .connected
  | _, _ => none

/-- The monitor's `connected` flag of an agent at `pc`. -/
def AgentPc.hasConnected : AgentPc → Bool
  | .dialing => false
  | _ => true

/-- The monitor's `started` flag of an agent at `pc`. -/
def AgentPc.isWorking (pc : AgentPc) : Bool := pc = .working

/-- The monitor's `quit` flag of an agent at `pc`. -/
def AgentPc.hasQuit (pc : AgentPc) : Bool := pc = .quit

/-- The agents, agent `i + 1` (its notifier's id) at index `i`, after one
notification: it comes from one of them, and only a `quit` carries an error. -/
def agentsStep (as : List AgentPc) (e : Event) : Option (List AgentPc) :=
  if 0 < e.id ∧ (e.id - 1).toNat < as.length ∧ (e.kind ≠ .quit → e.info = none) then
    ((as.getD (e.id - 1).toNat .dialing).next e.kind).map (as.set (e.id - 1).toNat)
  else none

/-- The agents over a trace: every interleaving of their notifications. -/
def agentsRun : List AgentPc → List Event → Option (List AgentPc)
  | as, [] => some as
  | as, e :: es => (agentsStep as e).bind fun as' => agentsRun as' es

theorem agentsStep_eq_some {as as' : List AgentPc} {e : Event} (h : agentsStep as e = some as') :
    ∃ i : Nat, e.id = i + 1 ∧ i < as.length ∧ ∃ p,
      (as.getD i .dialing).next e.kind = some p ∧ as' = as.set i p := by
  unfold agentsStep at h
  split at h
  · obtain ⟨p, hp, rfl⟩ := Option.map_eq_some'.mp h
    exact ⟨(e.id - 1).toNat, by omega, ‹_ ∧ _ ∧ _›.2.1, p, hp, rfl⟩
  · cases h

/-- Every quit is clean: it carries no error, and its agent connected before. -/
def QuitsClean (es : List Event) : Prop :=
  ∀ pre e post, es = pre ++ e :: post → e.kind = .quit →
    e.info = none ∧ ∃ c ∈ pre, c.kind = .connect ∧ c.id = e.id

/-! ## Separated operations, over the trace and along it -/

/-- Between operations of two agents comes a notification that `r` says
releases the first one (`r` is given the first one's id). -/
def SeparatedBy (r : Int → Event → Bool) (es : List Event) : Prop :=
  ∀ pre e1 mid e2 post, es = pre ++ e1 :: mid ++ e2 :: post →
    e1.kind = .operation → e2.kind = .operation → e1.id ≠ e2.id → ∃ e ∈ mid, r e1.id e

/-- What an operation of agent `a` asks of the rest of the trace: an
operation of another agent comes after a release of `a`. -/
def GuardBy (r : Int → Event → Bool) (a : Int) (es : List Event) : Prop :=
  ∀ mid e2 post, es = mid ++ e2 :: post → e2.kind = .operation → a ≠ e2.id →
    ∃ e ∈ mid, r a e

/-- `SeparatedBy`, checked event by event with the agent of the last
operation not yet released (`none` when there is none). -/
def SeparatedFrom (r : Int → Event → Bool) : Option Int → List Event → Prop
  | _, [] => True
  | o, e :: es => (e.kind = .operation → ∀ a ∈ o, a = e.id) ∧
      SeparatedFrom r (if e.kind = .operation then some e.id
        else if o.any (r · e) then none else o) es

section Trace

variable {α : Type}

theorem forall_eq_append_cons {P : List α → α → List α → Prop} {a : α} {l : List α} :
    (∀ pre e post, a :: l = pre ++ e :: post → P pre e post) ↔
      P [] a l ∧ ∀ pre e post, l = pre ++ e :: post → P (a :: pre) e post := by
  constructor
  · intro h
    exact ⟨h [] a l rfl, fun pre e post hl => h (a :: pre) e post (by rw [hl]; rfl)⟩
  · rintro ⟨h0, h1⟩ pre e post h
    cases pre with
    | nil =>
      obtain ⟨rfl, rfl⟩ := List.cons_eq_cons.mp h
      exact h0
    | cons b pre =>
      obtain ⟨rfl, hl⟩ := List.cons_eq_cons.mp h
      exact h1 pre e post hl

theorem forall_nil_eq_append_cons {P : List α → α → List α → Prop} :
    ∀ pre e post, ([] : List α) = pre ++ e :: post → P pre e post := by
  intro pre e post h
  simp at h

end Trace

section Separated

variable {r : Int → Event → Bool}

theorem separatedBy_iff_guardBy {es : List Event} :
    SeparatedBy r es ↔ ∀ pre e1 rest, es = pre ++ e1 :: rest → e1.kind = .operation →
      GuardBy r e1.id rest := by
  constructor
  · intro h pre e1 rest hes hk1 mid e2 post hrest
    exact h pre e1 mid e2 post (by simp [hes, hrest]) hk1
  · intro h pre e1 mid e2 post hes hk1
    exact h pre e1 (mid ++ e2 :: post) (by simp [hes]) hk1 mid e2 post rfl

theorem guardBy_cons {a : Int} {e : Event} {es : List Event} :
    GuardBy r a (e :: es) ↔ (e.kind = .operation → a = e.id) ∧ (r a e = true ∨ GuardBy r a es) := by
  unfold GuardBy
  rw [forall_eq_append_cons]
  simp only [List.not_mem_nil, false_and, exists_false, imp_false, not_not, List.exists_mem_cons]
  by_cases hr : r a e = true <;> simp [hr]

theorem separatedBy_cons {e : Event} {es : List Event} :
    SeparatedBy r (e :: es) ↔ (e.kind = .operation → GuardBy r e.id es) ∧ SeparatedBy r es := by
  simp only [separatedBy_iff_guardBy]
  exact forall_eq_append_cons

/-- The checker means `SeparatedBy`, with the pending agent's obligation. -/
theorem separatedFrom_iff : ∀ {o : Option Int} {es : List Event},
    SeparatedFrom r o es ↔ (∀ a ∈ o, GuardBy r a es) ∧ SeparatedBy r es
  | o, [] => by
    simp only [SeparatedFrom, true_iff]
    exact ⟨fun _ _ => forall_nil_eq_append_cons, fun _ _ _ _ _ h => by simp at h⟩
  | o, e :: es => by
    rw [SeparatedFrom, separatedFrom_iff, separatedBy_cons]
    by_cases hk : e.kind = .operation
    · simp only [hk, if_true, forall_const, Option.mem_def, Option.some.injEq, forall_eq',
        guardBy_cons, true_implies]
      constructor
      · rintro ⟨ho, hg, hs⟩
        exact ⟨fun a ha => ⟨ho a ha, .inr (ho a ha ▸ hg)⟩, hg, hs⟩
      · rintro ⟨ho, hg, hs⟩
        exact ⟨fun a ha => (ho a ha).1, hg, hs⟩
    · simp only [hk, if_false, false_implies, true_and, guardBy_cons]
      rcases o with _ | a
      · simp
      · by_cases hr : r a e = true <;> simp [hr]

end Separated

theorem opsSeparated_iff (es : List Event) :
    OpsSeparated es ↔ SeparatedBy (fun _ e => e.kind = .stop) es := by
  simp [OpsSeparated, SeparatedBy]

theorem opsHandOver_iff (es : List Event) :
    OpsHandOver es ↔ SeparatedBy (fun a e => e.kind = .stop ∧ e.id = a) es := by
  simp [OpsHandOver, SeparatedBy]

/-! ## Clean quits, along the trace -/

/-- `QuitsClean`, checked event by event with the ids of the agents known to
have connected. -/
def CleanFrom : (Int → Prop) → List Event → Prop
  | _, [] => True
  | C, e :: es => (e.kind = .quit → e.info = none ∧ C e.id) ∧
      CleanFrom (fun j => C j ∨ e.kind = .connect ∧ e.id = j) es

theorem cleanFrom_iff : ∀ {C : Int → Prop} {es : List Event},
    CleanFrom C es ↔ ∀ pre e post, es = pre ++ e :: post → e.kind = .quit →
      e.info = none ∧ (C e.id ∨ ∃ c ∈ pre, c.kind = .connect ∧ c.id = e.id)
  | C, [] => by simp only [CleanFrom, true_iff]; exact forall_nil_eq_append_cons
  | C, e :: es => by
    rw [CleanFrom, cleanFrom_iff, forall_eq_append_cons]
    simp only [List.not_mem_nil, false_and, exists_false, or_false, List.mem_cons, or_and_right,
      exists_or, exists_eq_left, or_assoc]

/-! ## The monitor follows the agents -/

/-- The monitor's flags are the agents' (`AgentPc.hasConnected` and the
others), and `C` holds of the id of each agent that connected. -/
structure Tracks (g : GlobalAgentState) (as : List AgentPc) (C : Int → Prop) : Prop where
  numAgents : g.numAgents = as.length
  connected : g.connected = as.map AgentPc.hasConnected
  started : g.started = as.map AgentPc.isWorking
  quit : g.quit = as.map AgentPc.hasQuit
  connects : ∀ i : Nat, C (i + 1) ↔ as.getD i .dialing ≠ .dialing

theorem tracks_start (n : Nat) :
    Tracks (newGlobalAgentState n) (List.replicate n .dialing) fun _ => False :=
  ⟨by simp [newGlobalAgentState], by simp [newGlobalAgentState, AgentPc.hasConnected],
    by simp [newGlobalAgentState, AgentPc.isWorking], by simp [newGlobalAgentState, AgentPc.hasQuit],
    fun i => by by_cases hi : i < n <;> simp [List.getElem?_replicate, hi]⟩

/-- The agent the monitor's `activeId` names, if any. -/
def activeOf (a : Int) : Option Int := if a = -1 then none else some a

theorem getD_map_flag (f : AgentPc → Bool) (hf : f .dialing = false) (as : List AgentPc) (i : Nat) :
    (as.map f).getD i false = f (as.getD i .dialing) := by
  simp only [List.getD_eq_getElem?_getD, List.getElem?_map]
  cases as[i]? <;> simp [hf]

theorem expectOk_possibleEvents {g : GlobalAgentState} {e : Event} {i : Nat}
    (hi : i < g.numAgents) (hid : e.id = i + 1) :
    expectOk (possibleEvents g) e ↔ ∃ p ∈ agentPossible g i, p.kind = e.kind := by
  simp only [expectOk, possibleEvents, List.any_eq_true, List.mem_flatMap, List.mem_range,
    decide_eq_true_eq]
  constructor
  · rintro ⟨p, ⟨j, -, hp⟩, hk, hpid⟩
    obtain rfl : j = i := by have := (agentPossible_spec hp).1; omega
    exact ⟨p, hp, hk⟩
  · rintro ⟨p, hp, hk⟩
    exact ⟨p, ⟨i, hi, hp⟩, hk, by rw [(agentPossible_spec hp).1, hid]⟩

section Tracks

variable {g g' : GlobalAgentState} {as as' : List AgentPc} {C : Int → Prop} {e : Event}

/-- What the monitor lets through from an agent: all it may send, but an
operation only when no other agent is active, and a `quit` only once the
agent connected. -/
theorem Tracks.expectOk_iff (ht : Tracks g as C) (hs : agentsStep as e = some as') :
    expectOk (possibleEvents g) e ↔ (e.kind = .operation → g.activeId = -1 ∨ e.id = g.activeId) ∧
      (e.kind = .quit → C e.id) := by
  obtain ⟨i, hid, hi, p, hp, -⟩ := agentsStep_eq_some hs
  rw [expectOk_possibleEvents (ht.numAgents ▸ hi) hid, hid, ht.connects]
  simp only [agentPossible, ht.connected, ht.started, ht.quit,
    getD_map_flag AgentPc.hasConnected rfl, getD_map_flag AgentPc.isWorking rfl,
    getD_map_flag AgentPc.hasQuit rfl]
  generalize as.getD i .dialing = pc at hp ⊢
  cases pc <;> cases hk : e.kind <;> simp [AgentPc.next, hk] at hp <;>
    simp [AgentPc.hasConnected, AgentPc.isWorking, AgentPc.hasQuit, or_and_right, exists_or,
      and_assoc, exists_and_left]

theorem Tracks.waitEvent_isSome_iff (ht : Tracks g as C) (hs : agentsStep as e = some as') :
    (waitEvent g e).isSome ↔ (e.kind = .operation → g.activeId = -1 ∨ e.id = g.activeId) ∧
      (e.kind = .quit → e.info = none ∧ C e.id) := by
  unfold waitEvent
  by_cases hok : expectOk (possibleEvents g) e
  · have h := (ht.expectOk_iff hs).mp hok
    simp only [hok, if_true]
    cases hk : e.kind with
    | operation => rcases h.1 hk with h | h <;> simp [h, hk]
    | quit => cases e.info <;> simp [h.2 hk]
    | _ => simp
  · simp only [hok, Bool.false_eq_true, if_false, Option.isSome_none, false_iff]
    rw [ht.expectOk_iff hs] at hok
    tauto

theorem set_getD_self (l : List Bool) (i : Nat) : l.set i (l.getD i false) = l := by
  refine List.ext_getElem (by simp) fun j h1 _ => ?_
  simp only [List.getElem_set]
  split
  · subst ‹i = j›
    exact List.getD_eq_getElem _ _ (by simpa using h1)
  · rfl

theorem Tracks.set (ht : Tracks g as C) {i : Nat} {p : AgentPc} {C' : Int → Prop}
    (hn : g'.numAgents = g.numAgents) (hc : g'.connected = g.connected.set i p.hasConnected)
    (hs : g'.started = g.started.set i p.isWorking) (hq : g'.quit = g.quit.set i p.hasQuit)
    (hC : ∀ j : Nat, C' (j + 1) ↔ (as.set i p).getD j .dialing ≠ .dialing) :
    Tracks g' (as.set i p) C' :=
  ⟨by rw [hn, ht.numAgents, List.length_set], by rw [hc, ht.connected, List.map_set],
    by rw [hs, ht.started, List.map_set], by rw [hq, ht.quit, List.map_set], hC⟩

/-- One accepted event keeps the monitor on the agents, and moves `activeId`
as operations and stops say. -/
theorem Tracks.step (ht : Tracks g as C) (hs : agentsStep as e = some as')
    (hw : waitEvent g e = some g') :
    Tracks g' as' (fun j => C j ∨ e.kind = .connect ∧ e.id = j) ∧
      g'.activeId = if e.kind = .operation then e.id else if e.kind = .stop then -1 else g.activeId := by
  have hq := ((ht.waitEvent_isSome_iff hs).mp (Option.isSome_iff_exists.mpr ⟨g', hw⟩)).2
  obtain ⟨i, hid, hi, p, hp, rfl⟩ := agentsStep_eq_some hs
  unfold Juju.Singular.waitEvent at hw
  split at hw
  swap
  · cases hw
  have hidx : (e.id - 1).toNat = i := by omega
  rw [hidx] at hw
  have hconn : ∀ j : Nat, (C (j + 1) ∨ e.kind = .connect ∧ e.id = j + 1) ↔
      (as.set i p).getD j .dialing ≠ .dialing := by
    intro j
    rw [ht.connects]
    by_cases hj : i = j
    · subst hj
      rw [hid] at hq
      rw [ht.connects] at hq
      simp only [List.getD_eq_getElem?_getD, List.getElem?_set_self hi, Option.getD_some] at hq hp ⊢
      generalize as[i]?.getD .dialing = pc at hp hq
      cases pc <;> cases hk : e.kind <;> simp [AgentPc.next, hk] at hp hq ⊢ <;> subst hp <;> simp [hid]
    · simp only [List.getD_eq_getElem?_getD, List.getElem?_set_ne hj]
      have : e.id ≠ j + 1 := by omega
      simp [this]
  have hflag : ∀ l : List Bool, ∀ f : AgentPc → Bool, f .dialing = false →
      l = as.map f → f p = f (as.getD i .dialing) → l = l.set i (f p) := by
    rintro l f hf rfl hfp
    rw [hfp, ← getD_map_flag f hf, set_getD_self]
  generalize hpc : as.getD i .dialing = pc at hp
  obtain ⟨k, hk⟩ : ∃ k, e.kind = k := ⟨_, rfl⟩
  rw [hk] at hw hp
  cases k <;> simp only [Option.ite_none_left_eq_some, Option.some.injEq] at hw <;>
    cases pc <;> simp only [AgentPc.next, reduceCtorEq, Option.some.injEq] at hp
  all_goals first
    | exact absurd hpc ((ht.connects i).mp (hid ▸ (hq hk).2))
    | subst hp
      obtain rfl : _ = g' := by first | exact hw | exact hw.2
      exact ⟨ht.set rfl
        (by first | rfl | exact hflag _ _ rfl ht.connected (by rw [hpc]; try decide))
        (by first | rfl | exact hflag _ _ rfl ht.started (by rw [hpc]; try decide))
        (by first | rfl | exact hflag _ _ rfl ht.quit (by rw [hpc]; try decide)) hconn, by simp [hk]⟩

theorem forall_mem_activeOf {a x : Int} : (∀ b ∈ activeOf a, b = x) ↔ a = -1 ∨ x = a := by
  unfold activeOf
  split <;> simp_all [eq_comm]

theorem activeOf_next {a : Int} (hid : 0 < e.id) :
    activeOf (if e.kind = .operation then e.id else if e.kind = .stop then -1 else a) =
      if e.kind = .operation then some e.id
      else if (activeOf a).any (fun _ => decide (e.kind = .stop)) then none else activeOf a := by
  unfold activeOf
  by_cases hk : e.kind = .operation
  · simp only [hk, if_true]
    rw [if_neg (by omega)]
  · by_cases ha : a = -1 <;> by_cases hs : e.kind = .stop <;> simp [hk, hs, ha]

/-- **The monitor over a run of the agents.** From a monitor that tracks the
agents, it accepts exactly what the two checkers accept. -/
theorem Tracks.run : ∀ {g : GlobalAgentState} {as : List AgentPc} {C : Int → Prop}
    {es : List Event}, Tracks g as C → (agentsRun as es).isSome →
    ((runEvents g es).isSome ↔
      SeparatedFrom (fun _ e => e.kind = .stop) (activeOf g.activeId) es ∧ CleanFrom C es)
  | _, _, _, [], _, _ => by simp [runEvents, SeparatedFrom, CleanFrom]
  | g, as, C, e :: es, ht, hr => by
    cases hs : agentsStep as e with
    | none => simp [agentsRun, hs] at hr
    | some as1 =>
      have hr1 : (agentsRun as1 es).isSome := by simpa [agentsRun, hs] using hr
      have hacc := ht.waitEvent_isSome_iff hs
      have hid : 0 < e.id := by obtain ⟨i, hid, -⟩ := agentsStep_eq_some hs; omega
      simp only [runEvents, SeparatedFrom, CleanFrom, forall_mem_activeOf]
      cases hw : Juju.Singular.waitEvent g e with
      | none =>
        simp only [hw, Option.none_bind, Option.isSome_none, Bool.false_eq_true, false_iff] at hacc ⊢
        tauto
      | some g1 =>
        obtain ⟨ht1, ha⟩ := ht.step hs hw
        simp only [hw, Option.isSome_some, true_iff] at hacc
        rw [Option.some_bind, Tracks.run ht1 hr1, ha, activeOf_next hid]
        tauto

end Tracks

/-- **The test's monitor, over every interleaving of the agents.** Whatever
the number of agents and however their notifications interleave, the
monitor accepts the trace exactly when operations of two different agents
are separated by a `stop` of some agent and every `quit` is clean. -/
theorem monitor_accepts_iff (n : Nat) (es : List Event)
    (h : (agentsRun (List.replicate n .dialing) es).isSome) :
    (runEvents (newGlobalAgentState n) es).isSome ↔ OpsSeparated es ∧ QuitsClean es := by
  rw [(tracks_start n).run h, separatedFrom_iff, cleanFrom_iff, opsSeparated_iff]
  simp [activeOf, newGlobalAgentState, QuitsClean]

/-- Two agents whose workers overlap: the monitor rejects the trace, and the
characterization says why (two agents' operations meet with no stop). -/
theorem monitor_accepts_iff_overlap :
    let es : List Event := [⟨.connect, 1, none⟩, ⟨.connect, 2, none⟩, ⟨.start, 1, none⟩,
      ⟨.start, 2, none⟩, ⟨.operation, 1, none⟩, ⟨.operation, 2, none⟩]
    (agentsRun (List.replicate 2 .dialing) es).isSome ∧
      ((runEvents (newGlobalAgentState 2) es).isSome ↔ OpsSeparated es ∧ QuitsClean es) :=
  ⟨by decide, monitor_accepts_iff 2 _ (by decide)⟩

/-! ## Exclusive workers -/

theorem AgentPc.next_operation {pc p : AgentPc} (h : pc.next .operation = some p) :
    pc = .working ∧ p = .working := by
  cases pc <;> simp [AgentPc.next] at h ⊢
  exact h.symm

theorem AgentPc.next_working {k : Kind} {p : AgentPc} (h : AgentPc.working.next k = some p) :
    k = .operation ∨ k = .stop := by
  cases k <;> simp [AgentPc.next] at h ⊢

theorem two_le_count_working {as : List AgentPc} {i j : Nat} (hij : i ≠ j)
    (hi : as.getD i .dialing = .working) (hj : as.getD j .dialing = .working) :
    2 ≤ as.count .working := by
  have hil : i < as.length := by
    by_contra h
    rw [List.getD_eq_default _ _ (by omega)] at hi
    cases hi
  have hset := List.count_set AgentPc.dialing AgentPc.working as i hil
  rw [List.getD_eq_getElem _ _ hil] at hi
  have hmem : AgentPc.working ∈ as.set i .dialing := by
    have hjl : j < as.length := by
      by_contra h
      rw [List.getD_eq_default _ _ (by omega)] at hj
      cases hj
    rw [List.getD_eq_getElem _ _ hjl] at hj
    exact List.mem_iff_getElem.mpr ⟨j, by simpa using hjl, by simp [List.getElem_set, hij, hj]⟩
  have hpos := List.count_pos_iff.mpr hmem
  simp [hi] at hset
  omega

theorem SeparatedBy.mono {r r' : Int → Event → Bool} {es : List Event}
    (h : SeparatedBy r es) (hr : ∀ a e, r a e = true → r' a e = true) : SeparatedBy r' es :=
  fun pre e1 mid e2 post hes h1 h2 hne =>
    let ⟨e, he, hre⟩ := h pre e1 mid e2 post hes h1 h2 hne
    ⟨e, he, hr _ _ hre⟩

/-- **Exclusive workers hand over.** Along a run of the agents in which at
most one worker runs at a time, an operation's agent is released only by its
own `stop`: the agent it names still works. -/
theorem separatedFrom_handOver : ∀ {as : List AgentPc} {o : Option Int} {es : List Event},
    (agentsRun as es).isSome →
    (∀ pre post as', es = pre ++ post → agentsRun as pre = some as' → as'.count .working ≤ 1) →
    (∀ a ∈ o, 0 < a ∧ as.getD (a - 1).toNat .dialing = .working) →
    SeparatedFrom (fun a e => e.kind = .stop ∧ e.id = a) o es
  | _, _, [], _, _, _ => trivial
  | as, o, e :: es, hr, hex, ho => by
    cases hs : agentsStep as e with
    | none => simp [agentsRun, hs] at hr
    | some as1 =>
      have hr1 : (agentsRun as1 es).isSome := by simpa [agentsRun, hs] using hr
      have hex1 : ∀ pre post as', es = pre ++ post → agentsRun as1 pre = some as' →
          as'.count .working ≤ 1 := fun pre post as' he ha =>
        hex (e :: pre) post as' (by rw [he]; rfl) (by simp [agentsRun, hs, ha])
      have hcount : as.count .working ≤ 1 := hex [] (e :: es) as rfl rfl
      obtain ⟨i, hid, hi, p, hp, rfl⟩ := agentsStep_eq_some hs
      refine ⟨fun hk a ha => ?_, separatedFrom_handOver hr1 hex1 fun a ha => ?_⟩
      · obtain ⟨hpos, hwa⟩ := ho a ha
        rw [hk] at hp
        by_contra hne
        have := two_le_count_working (by omega) (AgentPc.next_operation hp).1 hwa
        omega
      · by_cases hk : e.kind = .operation
        · simp only [hk, if_true, Option.mem_def, Option.some.injEq] at ha
          subst ha
          rw [hk] at hp
          refine ⟨by omega, ?_⟩
          rw [show (e.id - 1).toNat = i by omega, (AgentPc.next_operation hp).2]
          simp [hi]
        · simp only [hk, if_false] at ha
          split at ha
          · cases ha
          rename_i hrel
          obtain ⟨hpos, hwa⟩ := ho a ha
          refine ⟨hpos, ?_⟩
          have hne : i ≠ (a - 1).toNat := by
            rintro rfl
            rw [hwa] at hp
            rcases AgentPc.next_working hp with h | h
            · exact hk h
            · exact hrel (by rw [ha]; simp only [Option.any_some, h, true_and, decide_eq_true_eq]; omega)
          rw [List.getD_eq_getElem?_getD, List.getElem?_set_ne hne, ← List.getD_eq_getElem?_getD]
          exact hwa

section Exclusive

variable (n : Nat) (es : List Event)
  (h : (agentsRun (List.replicate n .dialing) es).isSome)
  (hex : ∀ pre post as, es = pre ++ post →
    agentsRun (List.replicate n .dialing) pre = some as → as.count .working ≤ 1)

include h hex

theorem separatedBy_stop_of_exclusive :
    SeparatedBy (fun a e => e.kind = .stop ∧ e.id = a) es :=
  (separatedFrom_iff.mp (@separatedFrom_handOver _ none es h hex (by simp))).2

/-- Exclusive workers and clean quits: the monitor accepts the trace. -/
theorem runEvents_isSome_of_exclusive (hq : QuitsClean es) :
    (runEvents (newGlobalAgentState n) es).isSome := by
  refine ((tracks_start n).run h).mpr ⟨separatedFrom_iff.mpr ⟨by simp [activeOf,
    newGlobalAgentState], (separatedBy_stop_of_exclusive n es h hex).mono fun _ _ hr => by simp_all⟩,
    cleanFrom_iff.mpr ?_⟩
  intro pre e post hes hk
  obtain ⟨hi, c, hc⟩ := hq pre e post hes hk
  exact ⟨hi, .inr ⟨c, hc⟩⟩

/-- **The test cannot fail a singular runner that works.** If at most one
agent's worker runs at any time, which is what the singular runner is for,
and every `quit` is clean, the monitor accepts the trace, and the trace
hands over: between operations of two agents the first one stops. -/
theorem monitor_accepts_exclusive (hq : QuitsClean es) :
    (runEvents (newGlobalAgentState n) es).isSome ∧ OpsHandOver es :=
  ⟨runEvents_isSome_of_exclusive n es h hex hq, (opsHandOver_iff es).mpr (separatedBy_stop_of_exclusive n es h hex)⟩

end Exclusive

/-- Agent 1 operates and stops, then agent 2 starts and operates: one worker
at a time, and the monitor accepts. -/
theorem monitor_accepts_exclusive_handover :
    let es : List Event := [⟨.connect, 1, none⟩, ⟨.connect, 2, none⟩, ⟨.start, 1, none⟩,
      ⟨.operation, 1, none⟩, ⟨.stop, 1, none⟩, ⟨.start, 2, none⟩, ⟨.operation, 2, none⟩]
    (runEvents (newGlobalAgentState 2) es).isSome ∧ OpsHandOver es := by
  intro es
  have hex : ∀ pre ∈ es.inits, ∀ as ∈ agentsRun (List.replicate 2 .dialing) pre,
      as.count .working ≤ 1 := by decide
  have hnq : ∀ e ∈ es, e.kind ≠ .quit := by decide
  exact monitor_accepts_exclusive 2 es (by decide)
    (fun pre post as he ha => hex pre (List.mem_inits _ _ |>.mpr ⟨post, he.symm⟩) as ha)
    fun pre e post he hk => absurd hk (hnq e (by rw [he]; simp))

end Juju.Singular
