import Mathlib.Data.List.Basic

/-!
# The mastership test's monitor (part_000)

`TestMongoMastership` starts one agent per replica of a mongo replica set;
each agent runs a singular worker that inserts into the database and sends
notifications (`connect`, `start`, `operation`, `stop`, `quit`). The test
reads them through `globalAgentState`: `possibleEvents` lists what may come
next, `expectNotification` fails the test on anything else, and `waitEvent`
applies the event. The test's comment says what it checks: there is never
more than one worker running at a time.

The monitor's state keeps the id of the agent whose operations it saw last
(`activeId`, `-1` for none). A `stop` of *any* agent resets it, so a second
agent may operate while the first is still running:

* `monitor_accepts_overlap`: with two agents, the monitor accepts `operation`
  of agent 1, then `stop`, `start` and `operation` of agent 2, with no `stop`
  of agent 1 in between.
* `monitor_separates_ops`: what it does guarantee, over every accepted trace
  and any number of agents: between operations of two different agents some
  agent stops.
* `waitEvent_isSome`: the "mixed operations" failure of `waitEvent` is never
  reached by an event `possibleEvents` offers.
-/
namespace Juju.Singular

/-- The kinds of notification (`notifier`, part_000:396-414). -/
inductive Kind where
  | connect
  | start
  | operation
  | stop
  | quit
  deriving DecidableEq, Repr

/-- A notification (`event`): its kind, the agent's id (from 1) and its
`info`, the error a `quit` carries. -/
structure Event where
  kind : Kind
  id : Int
  info : Option String
  deriving DecidableEq, Repr

/-- mirrors part_000:201-209 (`globalAgentState`, without its `expect` callback) -/
structure GlobalAgentState where
  numAgents : Nat
  connected : List Bool
  started : List Bool
  quit : List Bool
  activeId : Int
  deriving DecidableEq, Repr

/-- mirrors part_000:211-220 (`newGlobalAgentState`) -/
def newGlobalAgentState (n : Nat) : GlobalAgentState :=
  ⟨n, List.replicate n false, List.replicate n false, List.replicate n false, -1⟩

/-- The events agent `i` (counted from 0) may send next: the loop body of
`possibleEvents` (part_000:276-296). -/
def agentPossible (g : GlobalAgentState) (i : Nat) : List Event :=
  let id : Int := i + 1
  let mk (k : Kind) : Event := ⟨k, id, none⟩
  if g.connected.getD i false then
    if g.started.getD i false then
      (if g.activeId = -1 ∨ id = g.activeId then [mk .operation] else []) ++ [mk .stop]
    else [mk .start, mk .connect] ++ if g.quit.getD i false then [] else [mk .quit]
  else [mk .connect]

/-- mirrors part_000:273-299 (`globalAgentState.possibleEvents`) -/
def possibleEvents (g : GlobalAgentState) : List Event :=
  (List.range g.numAgents).flatMap (agentPossible g)

/-- `expectNotification` (part_000:335-350) lets an event through when a
possible event has its kind and id. -/
def expectOk (possible : List Event) (e : Event) : Bool :=
  possible.any fun p => p.kind = e.kind ∧ p.id = e.id

/-- mirrors part_000:243-271 (`globalAgentState.waitEvent`): `none` when the
test fails (`c.Fatalf`, `c.Assert`). -/
def waitEvent (g : GlobalAgentState) (got : Event) : Option GlobalAgentState :=
  if expectOk (possibleEvents g) got then
    let index := (got.id - 1).toNat
    match got.kind with
    | .connect => some { g with connected := g.connected.set index true }
    | .start => some { g with started := g.started.set index true }
    | .operation =>
      if g.activeId ≠ -1 ∧ g.activeId ≠ got.id then none else some { g with activeId := got.id }
    | .stop => some { g with activeId := -1, started := g.started.set index false }
    | .quit => if got.info.isSome then none else some { g with quit := g.quit.set index true }
  else none

/-- The monitor over a whole trace: `none` when some event fails the test. -/
def runEvents : GlobalAgentState → List Event → Option GlobalAgentState
  | g, [] => some g
  | g, e :: es => (waitEvent g e).bind fun g' => runEvents g' es

/-- The test's intent: an operation of another agent comes only after the
operating agent stopped. -/
def OpsHandOver (es : List Event) : Prop :=
  ∀ pre e1 mid e2 post, es = pre ++ e1 :: mid ++ e2 :: post →
    e1.kind = .operation → e2.kind = .operation → e1.id ≠ e2.id →
    ∃ e ∈ mid, e.kind = .stop ∧ e.id = e1.id

/-- What the monitor checks: between operations of two agents some agent stops. -/
def OpsSeparated (es : List Event) : Prop :=
  ∀ pre e1 mid e2 post, es = pre ++ e1 :: mid ++ e2 :: post →
    e1.kind = .operation → e2.kind = .operation → e1.id ≠ e2.id →
    ∃ e ∈ mid, e.kind = .stop

/-! ## The monitor accepts an overlap -/

/-- Two agents start; agent 1 operates; agent 2 stops, starts again and
operates. The monitor accepts the trace although agent 1 never stopped. -/
theorem monitor_accepts_overlap :
    let es : List Event := [⟨.connect, 1, none⟩, ⟨.connect, 2, none⟩, ⟨.start, 1, none⟩,
      ⟨.start, 2, none⟩, ⟨.operation, 1, none⟩, ⟨.stop, 2, none⟩, ⟨.start, 2, none⟩,
      ⟨.operation, 2, none⟩]
    (runEvents (newGlobalAgentState 2) es).isSome ∧ ¬OpsHandOver es := by
  refine ⟨by decide, fun h => ?_⟩
  obtain ⟨e, he, hk, hid⟩ := h [⟨.connect, 1, none⟩, ⟨.connect, 2, none⟩, ⟨.start, 1, none⟩,
      ⟨.start, 2, none⟩] ⟨.operation, 1, none⟩ [⟨.stop, 2, none⟩, ⟨.start, 2, none⟩]
      ⟨.operation, 2, none⟩ [] rfl rfl rfl (by decide)
  simp only [List.mem_cons, List.mem_singleton, List.not_mem_nil, or_false] at he
  rcases he with rfl | rfl <;> simp_all

/-! ## What the monitor checks -/

theorem runEvents_append (g : GlobalAgentState) (xs ys : List Event) :
    runEvents g (xs ++ ys) = (runEvents g xs).bind fun g' => runEvents g' ys := by
  induction xs generalizing g with
  | nil => rfl
  | cons e xs ih =>
    rw [List.cons_append]
    simp only [runEvents, Option.bind_assoc, ih]

/-- What agent `i` offers: events with its id, and an operation only when no
agent or itself is active. -/
theorem agentPossible_spec {g : GlobalAgentState} {i : Nat} {p : Event}
    (h : p ∈ agentPossible g i) :
    p.id = i + 1 ∧ (p.kind = .operation → g.activeId = -1 ∨ p.id = g.activeId) := by
  unfold agentPossible at h
  split_ifs at h <;> simp at h <;> aesop

theorem expectOk_spec {g : GlobalAgentState} {e : Event} (h : expectOk (possibleEvents g) e) :
    0 < e.id ∧ (e.kind = .operation → g.activeId = -1 ∨ e.id = g.activeId) := by
  obtain ⟨p, hp, hpe⟩ := List.any_eq_true.mp h
  obtain ⟨i, -, hi⟩ := List.mem_flatMap.mp hp
  obtain ⟨hid, hop⟩ := agentPossible_spec hi
  simp only [decide_eq_true_eq] at hpe
  obtain ⟨hk, he⟩ := hpe
  refine ⟨by omega, fun hke => ?_⟩
  rw [← he]
  exact hop (hk.trans hke)

/-- One accepted event: the expectation held, an operation makes its agent
the active one and needed no other agent active, and only `operation` and
`stop` touch `activeId`. -/
theorem waitEvent_some {g g' : GlobalAgentState} {e : Event} (h : waitEvent g e = some g') :
    expectOk (possibleEvents g) e ∧
    (e.kind = .operation → g'.activeId = e.id ∧ (g.activeId = -1 ∨ g.activeId = e.id)) ∧
    (e.kind ≠ .operation → e.kind ≠ .stop → g'.activeId = g.activeId) := by
  unfold waitEvent at h
  split at h
  · rename_i hok
    refine ⟨hok, ?_⟩
    cases hk : e.kind <;> simp only [hk] at h
    case operation =>
      split at h
      · cases h
      · cases h; simp; tauto
    case quit =>
      split at h
      · cases h
      · cases h; simp
    all_goals cases h; simp
  · cases h

/-- Without a `stop`, the active agent stays active over a whole run. -/
theorem runEvents_activeId {g g' : GlobalAgentState} {es : List Event}
    (h : runEvents g es = some g') (ha : g.activeId ≠ -1) (hs : ∀ e ∈ es, e.kind ≠ .stop) :
    g'.activeId = g.activeId := by
  induction es generalizing g with
  | nil => cases h; rfl
  | cons e es ih =>
    obtain ⟨g1, hw, hr⟩ := Option.bind_eq_some.mp h
    obtain ⟨-, hop, hother⟩ := waitEvent_some hw
    have h1 : g1.activeId = g.activeId := by
      by_cases hk : e.kind = .operation
      · obtain ⟨he, hg⟩ := hop hk
        rw [he, hg.resolve_left ha]
      · exact hother hk (hs e (List.mem_cons_self _ _))
    rw [ih hr (h1 ▸ ha) fun e' he' => hs e' (List.mem_cons_of_mem _ he'), h1]

/-- What the monitor guarantees, from any state and for any number of
agents: in an accepted trace, between operations of two different agents
some agent stops. -/
theorem monitor_separates_ops (g : GlobalAgentState) (es : List Event)
    (h : (runEvents g es).isSome) : OpsSeparated es := by
  intro pre e1 mid e2 post hes hk1 hk2 hne
  by_contra hstop
  push_neg at hstop
  subst hes
  obtain ⟨g4, h⟩ := Option.isSome_iff_exists.mp h
  obtain ⟨g2, h12, h2⟩ := Option.bind_eq_some.mp ((runEvents_append _ _ _).symm.trans h)
  obtain ⟨g0, -, h1⟩ := Option.bind_eq_some.mp ((runEvents_append _ _ _).symm.trans h12)
  obtain ⟨g1, hw1, hmid⟩ := Option.bind_eq_some.mp h1
  obtain ⟨g3, hw2, -⟩ := Option.bind_eq_some.mp h2
  obtain ⟨hok1, hop1, -⟩ := waitEvent_some hw1
  have ha1 : g1.activeId = e1.id := (hop1 hk1).1
  have hpos : 0 < e1.id := (expectOk_spec hok1).1
  have ha2 : g2.activeId = e1.id := by
    rw [runEvents_activeId hmid (by omega) hstop, ha1]
  rcases ((waitEvent_some hw2).2.1 hk2).2 with h | h <;> omega

/-- The guarantee on a hand-over between two agents: agent 1 operates and
stops, agent 2 operates. -/
theorem monitor_separates_ops_handover :
    let es : List Event := [⟨.connect, 1, none⟩, ⟨.connect, 2, none⟩, ⟨.start, 1, none⟩,
      ⟨.operation, 1, none⟩, ⟨.stop, 1, none⟩, ⟨.start, 2, none⟩, ⟨.operation, 2, none⟩]
    (runEvents (newGlobalAgentState 2) es).isSome ∧ OpsSeparated es :=
  ⟨by decide, monitor_separates_ops (newGlobalAgentState 2) _ (by decide)⟩

/-- The "mixed operations" check of `waitEvent` never fails: the monitor
accepts an event exactly when `expectNotification` lets it through and it
is not a `quit` carrying an error. -/
theorem waitEvent_isSome (g : GlobalAgentState) (e : Event) :
    (waitEvent g e).isSome ↔
      expectOk (possibleEvents g) e ∧ (e.kind = .quit → e.info = none) := by
  unfold waitEvent
  cases hok : expectOk (possibleEvents g) e
  case false => simp
  case true =>
    have hop := (expectOk_spec hok).2
    cases hk : e.kind <;> simp only [hk, if_true, true_and] at hop ⊢
    case operation => rcases hop trivial with h | h <;> simp [h]
    case quit => cases e.info <;> simp
    all_goals simp

end Juju.Singular
