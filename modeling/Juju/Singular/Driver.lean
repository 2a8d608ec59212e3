import Mathlib.Data.Rat.Defs
import Mathlib.Data.List.Nodup
import Juju.Singular.Agents

/-!
# The mastership test's driver: its waiting loops and its verdict

`TestMongoMastership` (part_000:35-93) reads the agents' notifications only
through `waitEvent`, in four waiting loops:

* `assertAgentsConnect` (part_000:118-130): until every agent has connected;
* until some agent is active (part_000:53-55);
* the handover loop (part_000:69-81): until the agent active then (`oldId`)
  has stopped and some agent is active again;
* `assertAgentsQuit` (part_000:132-144), once the agents are killed: until
  every agent has quit.

Between them the test sleeps, changes the replica set's votes and kills the
agents. These act on mongo and on the agents, not on the monitor: what they
cause is among the notifications the model is given. A notification that
fails the test ends it (`fatal`); a loop that gets no notification ends it
by `expectNotification`'s time-out (`timedOut`).

**The verdict refines the monitor.** `Phase.Refines` says what the end of a
loop tells about the notifications it read: it stops at an accepted prefix
where its condition holds, fails only on notifications the monitor rejects,
and times out only after the monitor accepted all of them. Each loop refines
the monitor (`waitUntil_refines`, `waitHandover_refines`, by induction over
the notifications), and so does their sequence (`Phase.Refines.andThen`).

Results:
* `testMongoMastership_verdict`: the test passes only after an accepted
  prefix in which every agent quit and which hands over: an operation of
  some agent, a stop of that agent, then an operation of *any* agent. The
  handover loop does not ask the new operation to come from another agent,
  although the comment at part_000:67-71 says it waits for one.
* `testMongoMastership_never_fatal`: when the agents keep their workers
  exclusive and quit cleanly (the premises of `monitor_accepts_exclusive`),
  no notification fails the test: it passes or times out.
* `changeVotes_prefers_other`: once an agent is active, the test gives
  mongo's default priority to the member `nextId` and 0.1 to every other,
  and with two agents or more that member is not the active agent, as the
  comment at part_000:60-61 asks. The active agent is one of the agents on
  every accepted run (`ActiveInRange.run`).
-/
namespace Juju.Singular

/-- How a waiting loop of the test, and the test itself, ends. -/
inductive Phase where
  /-- the loop's condition holds, in this state, with these notifications left -/
  | reached (g : GlobalAgentState) (rest : List Event)
  /-- a notification failed the test (`c.Fatalf`, `c.Assert`) -/
  | fatal
  /-- no notification came (`expectNotification`'s time-out) -/
  | timedOut
  deriving DecidableEq, Repr

/-- The next loop, from where the last one reached its condition. -/
def Phase.andThen : Phase → (GlobalAgentState → List Event → Phase) → Phase
  | .reached g rest, k => k g rest
  | .fatal, _ => .fatal
  | .timedOut, _ => .timedOut

/-- `for !done() { globalState.waitEvent(c) }` -/
def waitUntil (done : GlobalAgentState → Bool) : GlobalAgentState → List Event → Phase
  | g, [] => if done g then .reached g [] else .timedOut
  | g, e :: es =>
    if done g then .reached g (e :: es) else
      match waitEvent g e with
      | some g' => waitUntil done g' es
      | none => .fatal

/-- `allConnected` of `assertAgentsConnect` -/
def allConnected (g : GlobalAgentState) : Bool := g.connected.all id

/-- `allQuit` of `assertAgentsQuit` -/
def allQuit (g : GlobalAgentState) : Bool := g.quit.all id

/-- mirrors part_000:118-130 (`assertAgentsConnect`) -/
def assertAgentsConnect : GlobalAgentState → List Event → Phase := waitUntil allConnected

/-- mirrors part_000:132-144 (`assertAgentsQuit`) -/
def assertAgentsQuit : GlobalAgentState → List Event → Phase := waitUntil allQuit

/-- The handover loop (part_000:69-81), with `oldHasStopped` so far. -/
def waitHandover (oldId : Int) : GlobalAgentState → Bool → List Event → Phase
  | g, oldHasStopped, [] => if oldHasStopped && g.activeId != -1 then .reached g [] else .timedOut
  | g, oldHasStopped, e :: es =>
    if oldHasStopped && g.activeId != -1 then .reached g (e :: es) else
      match waitEvent g e with
      | some g' => waitHandover oldId g' (oldHasStopped || (e.kind == .stop && e.id == oldId)) es
      | none => .fatal

/-- mirrors part_000:35-93 (`TestMongoMastership`), on the notifications `es`
of `n` agents -/
def testMongoMastership (n : Nat) (es : List Event) : Phase :=
  (assertAgentsConnect (newGlobalAgentState n) es).andThen fun g es =>
    (waitUntil (fun g => g.activeId != -1) g es).andThen fun g es =>
      (waitHandover g.activeId g false es).andThen fun g es =>
        assertAgentsQuit g es

/-- The notifications hand over, in order: an operation of some agent, a
stop of that agent, then an operation. -/
def HandsOver (es : List Event) : Prop :=
  ∃ p1 e1 p2 e2 p3 e3 p4, es = p1 ++ e1 :: p2 ++ e2 :: p3 ++ e3 :: p4 ∧
    e1.kind = .operation ∧ e2.kind = .stop ∧ e2.id = e1.id ∧ e3.kind = .operation

/-! ## The active agent -/

theorem waitEvent_stop {g g' : GlobalAgentState} {e : Event} (h : waitEvent g e = some g')
    (hk : e.kind = .stop) : g'.activeId = -1 := by
  unfold waitEvent at h
  split at h <;> simp only [hk, Option.some.injEq, reduceCtorEq] at h
  rw [← h]

/-- An agent becomes the active one only by an operation. -/
theorem exists_operation_of_active : ∀ {g g' : GlobalAgentState} {es : List Event},
    runEvents g es = some g' → g'.activeId ≠ -1 → g'.activeId ≠ g.activeId →
    ∃ e ∈ es, e.kind = .operation ∧ e.id = g'.activeId
  | _, _, [], h, _, hne => by cases h; exact absurd rfl hne
  | g, g', e :: es, h, hact, hne => by
    obtain ⟨g1, hw, hr⟩ := Option.bind_eq_some.mp h
    by_cases h1 : g'.activeId = g1.activeId
    · obtain ⟨-, hop, hother⟩ := waitEvent_some hw
      refine ⟨e, List.mem_cons_self _ _, ?_⟩
      by_cases hk : e.kind = .operation
      · exact ⟨hk, h1 ▸ ((hop hk).1).symm⟩
      · by_cases hs : e.kind = .stop
        · exact absurd (h1.trans (waitEvent_stop hw hs)) hact
        · exact absurd (h1.trans (hother hk hs)) hne
    · obtain ⟨e', he', hk⟩ := exists_operation_of_active hr hact h1
      exact ⟨e', List.mem_cons_of_mem _ he', hk⟩

/-! ## The loops refine the monitor -/

/-- What the end of a loop started in `g` on the notifications `es` says:
it reached its condition `Q` after an accepted prefix, or the monitor
rejects the notifications, or it accepts all of them. -/
def Phase.Refines (g : GlobalAgentState) (es : List Event)
    (Q : GlobalAgentState → List Event → Prop) : Phase → Prop
  | .reached g' rest => ∃ pre, es = pre ++ rest ∧ runEvents g pre = some g' ∧ Q g' pre
  | .fatal => runEvents g es = none
  | .timedOut => (runEvents g es).isSome

namespace Phase.Refines

variable {g : GlobalAgentState} {es : List Event} {Q R : GlobalAgentState → List Event → Prop}

theorem mono {x : Phase} (h : x.Refines g es Q)
    (hQR : ∀ g' pre, runEvents g pre = some g' → Q g' pre → R g' pre) : x.Refines g es R := by
  cases x with
  | reached g' rest => obtain ⟨pre, hes, hr, hq⟩ := h; exact ⟨pre, hes, hr, hQR _ _ hr hq⟩
  | fatal | timedOut => exact h

theorem cons {x : Phase} {e : Event} {g' : GlobalAgentState} (hw : waitEvent g e = some g')
    (h : x.Refines g' es fun g'' pre => Q g'' (e :: pre)) : x.Refines g (e :: es) Q := by
  cases x with
  | reached g'' rest =>
    obtain ⟨pre, hes, hr, hq⟩ := h
    exact ⟨e :: pre, by rw [hes]; rfl, by simp only [runEvents, hw, Option.some_bind, hr], hq⟩
  | fatal | timedOut => simpa only [Refines, runEvents, hw, Option.some_bind] using h

/-- **Sequence.** The next loop starts where the last one reached its
condition; together they refine the monitor from where the first started. -/
theorem andThen {x : Phase} {k : GlobalAgentState → List Event → Phase} (hx : x.Refines g es Q)
    (hk : ∀ g' pre rest, es = pre ++ rest → runEvents g pre = some g' → Q g' pre →
      (k g' rest).Refines g' rest fun g'' pre' => R g'' (pre ++ pre')) :
    (x.andThen k).Refines g es R := by
  cases x with
  | reached g' rest =>
    obtain ⟨pre, hes, hr, hq⟩ := hx
    have h := hk g' pre rest hes hr hq
    subst hes
    show (k g' rest).Refines g (pre ++ rest) R
    cases hkx : k g' rest <;> rw [hkx] at h
    case reached g'' rest' =>
      obtain ⟨pre', hrest, hr', hq'⟩ := h
      exact ⟨pre ++ pre', by rw [hrest, List.append_assoc],
        by rw [runEvents_append, hr, Option.some_bind, hr'], hq'⟩
    all_goals simpa only [Refines, runEvents_append, hr, Option.some_bind] using h
  | fatal | timedOut => exact hx

end Phase.Refines

/-- `waitUntil` stops where `done` first holds, or where the monitor rejects
a notification, or times out. -/
theorem waitUntil_refines (done : GlobalAgentState → Bool) :
    ∀ g es, (waitUntil done g es).Refines g es fun g' _ => done g' = true
  | g, [] => by
    unfold waitUntil
    split
    · exact ⟨[], rfl, rfl, ‹_›⟩
    · rfl
  | g, e :: es => by
    unfold waitUntil
    split
    · exact ⟨[], rfl, rfl, ‹_›⟩
    · cases hw : waitEvent g e with
      | some g' => exact Phase.Refines.cons hw (waitUntil_refines done g' es)
      | none => simp only [Phase.Refines, runEvents, hw, Option.none_bind]

/-- The handover loop stops with an agent active, once the old agent has
stopped, and then some agent operated. -/
theorem waitHandover_refines (oldId : Int) : ∀ g b es,
    (waitHandover oldId g b es).Refines g es fun g' pre => g'.activeId ≠ -1 ∧
      (b = true ∨ ∃ p1 e p2, pre = p1 ++ e :: p2 ∧ e.kind = .stop ∧ e.id = oldId ∧
        ∃ e' ∈ p2, e'.kind = .operation)
  | g, b, [] => by
    unfold waitHandover
    split
    · rename_i h
      simp only [Bool.and_eq_true, bne_iff_ne, ne_eq] at h
      exact ⟨[], rfl, rfl, h.2, .inl h.1⟩
    · rfl
  | g, b, e :: es => by
    unfold waitHandover
    split
    · rename_i h
      simp only [Bool.and_eq_true, bne_iff_ne, ne_eq] at h
      exact ⟨[], rfl, rfl, h.2, .inl h.1⟩
    · cases hw : waitEvent g e with
      | none => simp only [Phase.Refines, runEvents, hw, Option.none_bind]
      | some g' =>
        refine Phase.Refines.cons hw ((waitHandover_refines oldId g' _ es).mono
          fun g'' pre hr ⟨hact, hb⟩ => ⟨hact, ?_⟩)
        rcases hb with hb | ⟨p1, e0, p2, rfl, hk, hid, hop⟩
        · rcases Bool.or_eq_true_iff.mp hb with hb | hs
          · exact .inl hb
          · simp only [Bool.and_eq_true, beq_iff_eq] at hs
            have hg' := waitEvent_stop hw hs.1
            obtain ⟨e', he', hk', -⟩ := exists_operation_of_active hr hact (hg' ▸ hact)
            exact .inr ⟨[], e, pre, rfl, hs.1, hs.2, e', he', hk'⟩
        · exact .inr ⟨e :: p1, e0, p2, rfl, hk, hid, hop⟩

/-! ## The test's verdict -/

/-- **The verdict refines the monitor.** The test passes only after an
accepted prefix of the notifications in which every agent quit and which
hands over; it fails only on notifications the monitor rejects, and times
out only on notifications it accepts. -/
theorem testMongoMastership_verdict (n : Nat) (es : List Event) :
    (testMongoMastership n es).Refines (newGlobalAgentState n) es
      fun g pre => allQuit g = true ∧ HandsOver pre := by
  refine (waitUntil_refines _ _ _).andThen fun g1 p1 _ _ hr1 _ => ?_
  refine (waitUntil_refines _ _ _).andThen fun g2 p2 _ _ hr2 hact2 => ?_
  refine (waitHandover_refines _ _ _ _).andThen fun _ p3 _ _ _ ⟨_, hstop⟩ => ?_
  refine (waitUntil_refines _ _ _).mono fun _ p4 _ hq => ⟨hq, ?_⟩
  obtain h | ⟨q1, e2, q2, rfl, hk2, hid2, e3, he3, hk3⟩ := hstop
  · cases h
  have hact : g2.activeId ≠ -1 := by simpa only [bne_iff_ne, ne_eq] using hact2
  have hr12 : runEvents (newGlobalAgentState n) (p1 ++ p2) = some g2 := by
    rw [runEvents_append, hr1, Option.some_bind, hr2]
  -- the agent active when the handover loop starts got there by an operation
  obtain ⟨e1, he1, hk1, hid1⟩ := exists_operation_of_active hr12 hact
    (by simpa only [newGlobalAgentState] using hact)
  obtain ⟨r1, r2, hp12⟩ := List.append_of_mem he1
  obtain ⟨s1, s2, rfl⟩ := List.append_of_mem he3
  refine ⟨r1, e1, r2 ++ q1, e2, s1, e3, s2 ++ p4, ?_, hk1, hk2, hid2.trans hid1.symm, hk3⟩
  rw [← List.append_assoc p1, hp12]
  simp only [List.append_assoc, List.cons_append]

/-- The handover loop is satisfied when the agent that stopped becomes
active again: here agent 1 operates, stops, starts again and operates, and
the test passes. -/
example : testMongoMastership 2
    [⟨.connect, 1, none⟩, ⟨.connect, 2, none⟩, ⟨.start, 1, none⟩, ⟨.operation, 1, none⟩, ⟨.stop, 1, none⟩,
     ⟨.start, 1, none⟩, ⟨.operation, 1, none⟩, ⟨.stop, 1, none⟩, ⟨.quit, 1, none⟩, ⟨.quit, 2, none⟩] =
    .reached ⟨2, [true, true], [false, false], [true, true], -1⟩ [] := by decide

/-- The test fails only on notifications the monitor rejects. -/
theorem runEvents_eq_none_of_fatal {n : Nat} {es : List Event}
    (h : testMongoMastership n es = .fatal) : runEvents (newGlobalAgentState n) es = none := by
  have hr : (testMongoMastership n es).Refines (newGlobalAgentState n) es fun _ _ => True :=
    (waitUntil_refines _ _ _).andThen fun _ _ _ _ _ _ => (waitUntil_refines _ _ _).andThen
      fun _ _ _ _ _ _ => (waitHandover_refines _ _ _ _).andThen fun _ _ _ _ _ _ =>
        (waitUntil_refines _ _ _).mono fun _ _ _ _ => trivial
  rwa [h] at hr

/-- **A working singular runner never fails the test.** If at most one
agent's worker runs at any time and every `quit` is clean, no
notification fails the test: it passes or it times out. -/
theorem testMongoMastership_never_fatal (n : Nat) (es : List Event)
    (h : (agentsRun (List.replicate n .dialing) es).isSome)
    (hex : ∀ pre post as, es = pre ++ post →
      agentsRun (List.replicate n .dialing) pre = some as → as.count .working ≤ 1)
    (hq : QuitsClean es) : testMongoMastership n es ≠ .fatal := fun hf => by
  have hs := runEvents_isSome_of_exclusive n es h hex hq
  rw [runEvents_eq_none_of_fatal hf] at hs
  cases hs

/-- Agent 1 works and stops, agent 2 takes over, then both quit: a run of
the singular runner that the test does not fail. -/
theorem testMongoMastership_never_fatal_handover :
    let es : List Event := [⟨.connect, 1, none⟩, ⟨.connect, 2, none⟩, ⟨.start, 1, none⟩,
      ⟨.operation, 1, none⟩, ⟨.stop, 1, none⟩, ⟨.start, 2, none⟩, ⟨.operation, 2, none⟩,
      ⟨.stop, 2, none⟩, ⟨.quit, 1, none⟩, ⟨.quit, 2, none⟩]
    testMongoMastership 2 es ≠ .fatal := by
  intro es
  have hex : ∀ pre ∈ es.inits, ∀ as ∈ agentsRun (List.replicate 2 .dialing) pre,
      as.count .working ≤ 1 := by decide
  have hq : CleanFrom (fun _ => False) es := by simp [es, CleanFrom]
  exact testMongoMastership_never_fatal 2 es (by decide)
    (fun pre post as he ha => hex pre (List.mem_inits _ _ |>.mpr ⟨post, he.symm⟩) as ha)
    fun pre e post he hk => (cleanFrom_iff.mp hq pre e post he hk).imp_right (·.resolve_left id)

/-! ## The vote -/

/-- No agent is active, or one of the agents is. -/
def ActiveInRange (g : GlobalAgentState) : Prop :=
  g.activeId = -1 ∨ 1 ≤ g.activeId ∧ g.activeId ≤ g.numAgents

theorem expectOk_id_le {g : GlobalAgentState} {e : Event} (h : expectOk (possibleEvents g) e) :
    e.id ≤ g.numAgents := by
  obtain ⟨p, hp, hpe⟩ := List.any_eq_true.mp h
  obtain ⟨i, hi, hip⟩ := List.mem_flatMap.mp hp
  obtain ⟨-, hid⟩ := of_decide_eq_true hpe
  have := (agentPossible_spec hip).1
  have := List.mem_range.mp hi
  omega

theorem waitEvent_numAgents {g g' : GlobalAgentState} {e : Event} (h : waitEvent g e = some g') :
    g'.numAgents = g.numAgents := by
  unfold waitEvent at h
  split at h
  · split at h <;> (try split at h) <;> simp only [Option.some.injEq, reduceCtorEq] at h <;>
      rw [← h]
  · cases h

theorem ActiveInRange.waitEvent {g g' : GlobalAgentState} {e : Event} (hg : ActiveInRange g)
    (h : waitEvent g e = some g') : ActiveInRange g' := by
  obtain ⟨hok, hop, hother⟩ := waitEvent_some h
  rw [ActiveInRange, waitEvent_numAgents h]
  by_cases hk : e.kind = .operation
  · have h0 := (expectOk_spec hok).1
    have hle := expectOk_id_le hok
    exact .inr (by rw [(hop hk).1]; omega)
  · by_cases hs : e.kind = .stop
    · exact .inl (waitEvent_stop h hs)
    · rw [hother hk hs]
      exact hg

theorem ActiveInRange.run : ∀ {g g' : GlobalAgentState} {es : List Event}, ActiveInRange g →
    runEvents g es = some g' → ActiveInRange g' ∧ g'.numAgents = g.numAgents
  | _, _, [], hg, h => by cases h; exact ⟨hg, rfl⟩
  | _, _, _ :: _, hg, h => by
    obtain ⟨g1, hw, hr⟩ := Option.bind_eq_some.mp h
    obtain ⟨hg', hn⟩ := ActiveInRange.run (hg.waitEvent hw) hr
    exact ⟨hg', hn.trans (waitEvent_numAgents hw)⟩

/-- `nextId` of `TestMongoMastership` (part_000:62); Go's `%`
truncates, as `Int.tmod` does. -/
def nextId (numInsts : Nat) (activeId : Int) : Int := ((activeId + 1) - 1).tmod numInsts + 1

theorem nextId_other {n : Nat} {a : Int} (hn : 2 ≤ n) (h1 : 1 ≤ a) (hle : a ≤ n) :
    1 ≤ nextId n a ∧ nextId n a ≤ n ∧ nextId n a ≠ a := by
  rw [nextId, Int.add_sub_cancel, Int.tmod_eq_emod (by omega) (by omega)]
  rcases lt_or_eq_of_le hle with hlt | rfl
  · rw [Int.emod_eq_of_lt (by omega) hlt]
    omega
  · rw [Int.emod_self]
    omega

/-- A replica set member (`replicaset.Member`) by its id and priority;
`none` is Go's nil, mongo's default priority. -/
structure Member where
  id : Int
  priority : Option ℚ
  deriving DecidableEq, Repr

/-- mirrors part_000:352-381 (`changeVotes`), on the members
`replicaset.CurrentMembers` returns; `none` when the test fails on
their number. Dialing and `replicaset.Set` are mongo's. -/
def changeVotes (numInsts : Nat) (members : List Member) (voteId : Int) : Option (List Member) :=
  if members.length ≠ numInsts then none
  else some (members.map fun member =>
    if member.id = voteId then { member with priority := none }
    else { member with priority := some 0.1 })

theorem map_filter_eq_singleton {α : Type} {f : α → Int} {l : List α} {v : Int}
    (hnd : (l.map f).Nodup) (hv : v ∈ l.map f) : (l.filter fun a => f a = v).map f = [v] := by
  rw [show (fun a => decide (f a = v)) = (fun x => decide (x = v)) ∘ f from rfl, ← List.filter_map,
    List.filter_eq, List.count_eq_one_of_mem hnd hv]
  rfl

theorem activeId_mem_agents {n : Nat} {pre : List Event} {g : GlobalAgentState}
    (hr : runEvents (newGlobalAgentState n) pre = some g) (hact : g.activeId ≠ -1) :
    1 ≤ g.activeId ∧ g.activeId ≤ n := by
  obtain ⟨hrange, hnum⟩ := ActiveInRange.run (.inl rfl) hr
  simpa only [ActiveInRange, hact, hnum, newGlobalAgentState, false_or] using hrange

/-- On members numbered 1 to `n`, `changeVotes` for one of them passes its
check on their number and leaves that member alone at mongo's default
priority, every other at 0.1. -/
theorem changeVotes_single {n : Nat} {members : List Member} {v : Int}
    (hids : (members.map (·.id)).Perm ((List.range n).map fun i : Nat => (i : Int) + 1))
    (h1 : 1 ≤ v) (hle : v ≤ n) :
    ∃ ms, changeVotes n members v = some ms ∧ (ms.filter (·.priority = none)).map (·.id) = [v] ∧
      ∀ m ∈ ms, m.id ≠ v → m.priority = some 0.1 := by
  have hlen : members.length = n := by simpa using hids.length_eq
  have hnd : (members.map (·.id)).Nodup :=
    hids.nodup_iff.mpr ((List.nodup_range n).map fun a b h => by omega)
  have hmem : v ∈ members.map (·.id) :=
    hids.mem_iff.mpr (List.mem_map.mpr ⟨(v - 1).toNat, List.mem_range.mpr (by omega), by omega⟩)
  refine ⟨_, if_neg (by omega), ?_, ?_⟩
  · rw [List.filter_map, List.map_map, ← map_filter_eq_singleton hnd hmem]
    refine congrArg₂ List.map (funext fun m => ?_) (List.filter_congr fun m _ => ?_) <;>
      by_cases h : m.id = v <;> simp [h]
  · intro m hm hid
    obtain ⟨m0, -, rfl⟩ := List.mem_map.mp hm
    by_cases h : m0.id = v <;> simp_all

/-- **The vote goes to another agent.** Once the test has waited for an
active agent, with two agents or more whose ids are the replica set
members' ids, `changeVotes` leaves exactly one member with mongo's
default priority, every other at 0.1, and that member is not the active
agent. -/
theorem changeVotes_prefers_other {n : Nat} (hn : 2 ≤ n) {pre : List Event} {g : GlobalAgentState}
    (hr : runEvents (newGlobalAgentState n) pre = some g) (hact : g.activeId ≠ -1)
    {members : List Member}
    (hids : (members.map (·.id)).Perm ((List.range n).map fun i : Nat => (i : Int) + 1)) :
    ∃ ms, changeVotes n members (nextId n g.activeId) = some ms ∧
      (ms.filter (·.priority = none)).map (·.id) = [nextId n g.activeId] ∧
      (∀ m ∈ ms, m.id ≠ nextId n g.activeId → m.priority = some 0.1) ∧
      nextId n g.activeId ≠ g.activeId := by
  obtain ⟨h1, hle⟩ := activeId_mem_agents hr hact
  obtain ⟨h1', hle', hne⟩ := nextId_other hn h1 hle
  obtain ⟨ms, hms, hnone, hother⟩ := changeVotes_single hids h1' hle'
  exact ⟨ms, hms, hnone, hother, hne⟩

/-- Three agents, agent 1 active: the vote goes to agent 2. -/
theorem changeVotes_prefers_other_three :
    let pre : List Event := [⟨.connect, 1, none⟩, ⟨.connect, 2, none⟩, ⟨.connect, 3, none⟩,
      ⟨.start, 1, none⟩, ⟨.operation, 1, none⟩]
    let g : GlobalAgentState := ⟨3, [true, true, true], [true, false, false], [false, false, false], 1⟩
    let members : List Member := [⟨1, none⟩, ⟨2, some 0.1⟩, ⟨3, some 0.1⟩]
    2 ≤ 3 ∧ runEvents (newGlobalAgentState 3) pre = some g ∧ g.activeId ≠ -1 ∧
      (members.map (·.id)).Perm ((List.range 3).map fun i : Nat => (i : Int) + 1) ∧
      ∃ ms, changeVotes 3 members (nextId 3 g.activeId) = some ms ∧
        (ms.filter (·.priority = none)).map (·.id) = [nextId 3 g.activeId] ∧
        (∀ m ∈ ms, m.id ≠ nextId 3 g.activeId → m.priority = some 0.1) ∧
        nextId 3 g.activeId ≠ g.activeId := by
  intro pre g members
  exact ⟨by decide, by decide, by decide, by decide,
    @changeVotes_prefers_other 3 (by decide) pre g (by decide) (by decide) members (by decide)⟩

end Juju.Singular
