import Juju.Core.ErrState
import Juju.Singular.Driver

/-!
# Starting the replica set: `startReplicaSet`

`startReplicaSet` (part_000:436-498) starts the test's mongo servers: the
root, which it initiates as a replica set, then one server per further
member, which it adds with `replicaset.Add`, retried under an
`AttemptStrategy`. Every step that reaches mongo may fail. A deferred
function (part_000:446-453) reads the named result `err` when the function
returns and, when it is not nil, destroys every server in `insts`, the
servers started so far.

**The lab.** `Lab` is what the test's machine holds: the mongo servers that
run, the replica set's members, and `insts`, the function's local list, kept
in the lab because the deferred closure reads the variable as it is when it
runs. What each step that reaches mongo answers is an oracle
(`Lab.answers`, an error's text or `none`); how many `Add` attempts fit in
60 s with 1 s delays is the parameter `attempts`.

`Setup` is the error-state monad `ErrState` over the lab, and the spec is
its triple with no panic (`Setup.Hoare`); every step keeps one
invariant, `Grown`: the servers that run are those that ran before followed
by `insts`, which holds the numbers handed out since.

Results:
* `startReplicaSet_no_leak`: whatever mongo answers, `startReplicaSet`
  either fails with one of its four errors and leaves exactly the servers
  that ran before, or returns `n` new servers (one for `n = 0`), all
  running, with the replica set's members the root then ids 2 to `n` at
  priority 0.1.
* `startReplicaSet_votes_other`: the replica set the test starts meets
  `changeVotes`: with two servers or more and the root numbered 1, the
  members are numbered as the agents, `changeVotes` passes its check on
  their number, and the vote goes to an agent other than the active one.
-/
namespace Juju.Singular

/-- The test's machine, as `startReplicaSet` sees it. -/
structure Lab where
  /-- the mongo servers that run, by number -/
  running : List Nat
  /-- the number the next server gets -/
  fresh : Nat
  /-- the replica set's members -/
  members : List Member
  /-- what the next steps that reach mongo answer: an error's text, or `none` -/
  answers : List (Option String)
  /-- `startReplicaSet`'s local `insts` -/
  insts : List Nat
  deriving DecidableEq, Repr

/-- A Go function of the test's setup: an error ends it, and the lab keeps
what it did before. -/
abbrev Setup := ErrState Lab String

namespace Setup

export ErrState (throw attempt deferOnError)

/-- A step that reaches mongo: the next answer says whether it fails, and
`wrap` makes the error the caller returns. -/
def reach (wrap : String → String) : Setup Unit := fun l =>
  match l.answers.headD none with
  | some t => (.err (wrap t), { l with answers := l.answers.tail })
  | none => (.ok (), { l with answers := l.answers.tail })

end Setup

/-- The mongo server the next `Start` runs. -/
def startServer : Setup Nat := fun l =>
  (.ok l.fresh, { l with running := l.running ++ [l.fresh], fresh := l.fresh + 1 })

/-- mirrors part_000:500-506 (`newMongoInstance`) -/
def newMongoInstance : Setup Nat := do
  Setup.reach ("cannot start mongo server: " ++ ·)
  startServer

/-- `insts = append(insts, inst)` -/
def appendInst (inst : Nat) : Setup Unit := fun l => (.ok (), { l with insts := l.insts ++ [inst] })

/-- `insts := make([]*testing.MgoInstance, 0, n)` -/
def clearInsts : Setup Unit := fun l => (.ok (), { l with insts := [] })

/-- `return insts, err`, with `err` nil -/
def returnInsts : Setup (List Nat) := fun l => (.ok l.insts, l)

/-- The deferred function of `startReplicaSet`, once `err` is not nil:
`inst.Destroy()` for every server in `insts`. -/
def destroyInsts : Setup Unit := fun l =>
  (.ok (), { l with running := l.running.filter (· ∉ l.insts) })

/-- `replicaset.Initiate(session, root.Addr(), replicaSetName)`: `root` is the
member it makes (outside this repository). -/
def initiate (root : Member) : Setup Unit := do
  Setup.reach ("cannot initiate replica set: " ++ ·)
  fun l => (.ok (), { l with members := [root] })

/-- `replicaset.Add(session, members...)` -/
def addMembers (members : List Member) : Setup Unit := do
  Setup.reach id
  fun l => (.ok (), { l with members := l.members ++ members })

/-- The member loop of `startReplicaSet` (part_000:470-481), over `i`. -/
def startMembers : List Nat → Setup (List Member)
  | [] => pure []
  | i :: is => do
    let inst ← newMongoInstance
    appendInst inst
    let members ← startMembers is
    pure (⟨i + 1, some 0.1⟩ :: members)

/-- The attempt loop of `startReplicaSet` (part_000:483-496), with
`attempts` attempts left; `HasNext` holds while one is left. -/
def addLoop (members : List Member) : Nat → Setup Unit
  | 0 => pure ()
  | k + 1 => do
    match ← Setup.attempt (addMembers members) with
    | .ok () => pure ()
    | .error _ => if k = 0 then Setup.throw "timed out trying to add members" else addLoop members k

/-- mirrors part_000:436-498 (`startReplicaSet`); `root` is the member
`replicaset.Initiate` makes. -/
def startReplicaSet (n attempts : Nat) (root : Member) : Setup (List Nat) := do
  clearInsts
  let inst ← newMongoInstance
  appendInst inst
  Setup.deferOnError destroyInsts do
    Setup.reach ("cannot dial root instance: " ++ ·)
    initiate root
    let members ← startMembers (List.range' 1 (n - 1))
    addLoop members attempts
    returnInsts

/-- The errors `startReplicaSet` returns. -/
def SetupError (e : String) : Prop :=
  (∃ t, e = "cannot start mongo server: " ++ t) ∨ (∃ t, e = "cannot dial root instance: " ++ t) ∨
    (∃ t, e = "cannot initiate replica set: " ++ t) ∨ e = "timed out trying to add members"

/-! ## Hoare judgements over the lab -/

/-- From a lab where `P` holds, `x` returns `a` where `Q` holds of the lab
and `a`, or fails with `e` where `E` holds of the lab and `e`; it never
panics. -/
def Setup.Hoare (P : Lab → Prop) (x : Setup α) (Q : Lab → α → Prop)
    (E : Lab → String → Prop) : Prop :=
  ErrState.Triple P x Q E fun _ => False

namespace Setup.Hoare

variable {P : Lab → Prop} {Q : Lab → α → Prop} {E : Lab → String → Prop}

theorem pure (a : α) (h : ∀ l, P l → Q l a) : Setup.Hoare P (Pure.pure a) Q E :=
  ErrState.Triple.pure a h

theorem throw (e : String) (h : ∀ l, P l → E l e) : Setup.Hoare P (Setup.throw e) Q E :=
  ErrState.Triple.throw e h

theorem bind {x : Setup α} {f : α → Setup β} {R : Lab → β → Prop}
    (hx : Setup.Hoare P x Q E) (hf : ∀ a, Setup.Hoare (Q · a) (f a) R E) :
    Setup.Hoare P (x >>= f) R E :=
  ErrState.Triple.bind hx hf

theorem attempt {x : Setup α} {E' : Lab → String → Prop} (hx : Setup.Hoare P x Q E) :
    Setup.Hoare P (Setup.attempt x) (fun l r => match r with
      | .ok a => Q l a
      | .error e => E l e) E' :=
  (ErrState.Triple.attempt hx).weaken (fun _ h => h) (fun _ r h => by cases r <;> exact h)
    (fun _ _ h => h) fun _ h => h

theorem deferOnError {body : Setup α} {cleanup : Setup Unit} {E' : Lab → String → Prop}
    (hb : Setup.Hoare P body Q E)
    (hc : ∀ e, Setup.Hoare (E · e) cleanup (fun l _ => E' l e) (fun l _ => E' l e)) :
    Setup.Hoare P (Setup.deferOnError cleanup body) Q E' :=
  ErrState.Triple.deferOnError hb hc

theorem weaken {x : Setup α} {P' : Lab → Prop} {Q' : Lab → α → Prop} {E' : Lab → String → Prop}
    (hx : Setup.Hoare P x Q E) (hp : ∀ l, P' l → P l) (hq : ∀ l a, Q l a → Q' l a)
    (he : ∀ l e, E l e → E' l e) : Setup.Hoare P' x Q' E' :=
  ErrState.Triple.weaken hx hp hq he fun _ h => h

/-- A step that reaches mongo changes only the answers left. -/
theorem reach {U : Lab → Unit → Prop} (wrap : String → String)
    (hq : ∀ l, P l → ∀ as, U { l with answers := as } ())
    (he : ∀ l, P l → ∀ as t, E { l with answers := as } (wrap t)) :
    Setup.Hoare P (Setup.reach wrap) U E := by
  intro l hp
  unfold Setup.reach
  cases l.answers.headD none with
  | none => exact hq l hp _
  | some t => exact he l hp _ t

theorem keeps_reach (I : Lab → Prop) (hI : ∀ l as, I l → I { l with answers := as })
    (wrap : String → String) :
    Setup.Hoare I (Setup.reach wrap) (fun l _ => I l) (fun l e => I l ∧ ∃ t, e = wrap t) :=
  reach wrap (fun l hp as => hI l as hp) fun l hp as t => ⟨hI l as hp, t, rfl⟩

theorem assume {x : Setup α} {φ : Prop} (hφ : ∀ l, P l → φ) (h : φ → Setup.Hoare P x Q E) :
    Setup.Hoare P x Q E :=
  fun l hp => h (hφ l hp) l hp

end Setup.Hoare

/-! ## No server is left behind -/

section Grown

variable (l0 : Lab)

/-- Since `l0`: the numbers handed out are `insts`, and the servers that run
are those of `l0` followed by `insts`. -/
def Grown (l : Lab) : Prop :=
  l0.fresh ≤ l.fresh ∧ l.insts = List.range' l0.fresh (l.fresh - l0.fresh) ∧
    l.running = l0.running ++ l.insts

variable {l0}

theorem Grown.start {l : Lab} (h : Grown l0 l) :
    Grown l0 { l with
      running := l.running ++ [l.fresh]
      fresh := l.fresh + 1
      insts := l.insts ++ [l.fresh] } := by
  obtain ⟨hle, hinsts, hrun⟩ := h
  unfold Grown
  refine ⟨Nat.le_succ_of_le hle, ?_, by simp only [hrun, List.append_assoc]⟩
  simp only [hinsts, Nat.sub_add_comm hle, List.range'_concat]
  congr 2
  omega

/-- The deferred function destroys exactly the servers started since `l0`. -/
theorem Grown.destroy {l : Lab} (h : Grown l0 l) (hfresh : ∀ x ∈ l0.running, x < l0.fresh) :
    (destroyInsts l).2.running = l0.running := by
  obtain ⟨-, hinsts, hrun⟩ := h
  have hnew : ∀ x ∈ l0.running, x ∉ l.insts := fun x hx hmem => by
    rw [hinsts, List.mem_range'_1] at hmem
    exact absurd (hfresh x hx) (by omega)
  simp only [destroyInsts, hrun, List.filter_append, List.filter_eq_self.mpr
    (fun x hx => decide_eq_true (hnew x hx))]
  simp

/-- `newMongoInstance` starts the server numbered `fresh`, which `insts` does
not hold yet. -/
theorem newMongoInstance_spec (c : Nat) (members : List Member) :
    Setup.Hoare (fun l => Grown l0 l ∧ l.fresh = l0.fresh + c ∧ l.members = members)
      newMongoInstance
      (fun l inst => inst = l0.fresh + c ∧ (l.fresh = l0.fresh + c + 1 ∧ l.members = members ∧
        Grown l0 { l with insts := l.insts ++ [inst] }))
      (fun l e => Grown l0 l ∧ l.fresh = l0.fresh + c ∧ SetupError e) :=
  ((Setup.Hoare.keeps_reach (fun l => Grown l0 l ∧ l.fresh = l0.fresh + c ∧ l.members = members)
    (fun _ _ h => h) _).weaken (fun _ h => h) (fun _ _ h => h)
      fun _ _ ⟨⟨hg, hf, _⟩, t, ht⟩ => ⟨hg, hf, .inl ⟨t, ht⟩⟩).bind
    fun _ _ ⟨hg, hf, hm⟩ => ⟨hf, by simp only [hf], hm, hg.start⟩

/-- `insts = append(insts, inst)` after the server `inst` started. -/
theorem appendInst_spec {E : Lab → String → Prop} (inst F : Nat) (members : List Member) :
    Setup.Hoare (fun l => l.fresh = F ∧ l.members = members ∧
        Grown l0 { l with insts := l.insts ++ [inst] })
      (appendInst inst) (fun l _ => Grown l0 l ∧ l.fresh = F ∧ l.members = members) E :=
  fun _ ⟨hf, hm, hg⟩ => ⟨hg, hf, hm⟩

/-- The member loop starts one server per member, each put in `insts`. -/
theorem startMembers_spec : ∀ (is : List Nat) (c : Nat) (members : List Member),
    Setup.Hoare (fun l => Grown l0 l ∧ l.fresh = l0.fresh + c ∧ l.members = members)
      (startMembers is)
      (fun l ms => Grown l0 l ∧ l.fresh = l0.fresh + c + is.length ∧ l.members = members ∧
        ms = is.map fun i : Nat => ⟨i + 1, some 0.1⟩)
      (fun l e => Grown l0 l ∧ SetupError e)
  | [], c, _ => Setup.Hoare.pure _ fun _ ⟨hg, hf, hm⟩ => ⟨hg, hf, hm, rfl⟩
  | i :: is, c, members =>
    ((newMongoInstance_spec c members).weaken (fun _ h => h) (fun _ _ h => h)
      fun _ _ h => ⟨h.1, h.2.2⟩).bind fun inst =>
    ((appendInst_spec inst _ members).weaken (fun _ h => h.2) (fun _ _ h => h) fun _ _ h => h).bind
      fun _ => (startMembers_spec is (c + 1) members).bind fun ms =>
    Setup.Hoare.pure _ fun _ ⟨hg, hf, hm, hms⟩ =>
      ⟨hg, by simp only [hf, List.length_cons]; omega, hm, by rw [hms, List.map_cons]⟩

/-- `replicaset.Add`, tried: on failure it changes nothing but the answers. -/
theorem addMembers_spec (F : Nat) (members ms : List Member) :
    Setup.Hoare (fun l => Grown l0 l ∧ l.fresh = F ∧ l.members = members) (addMembers ms)
      (fun l _ => Grown l0 l ∧ l.fresh = F ∧ l.members = members ++ ms)
      (fun l _ => Grown l0 l ∧ l.fresh = F ∧ l.members = members) :=
  ((Setup.Hoare.keeps_reach (fun l => Grown l0 l ∧ l.fresh = F ∧ l.members = members)
    (fun _ _ h => h) _).weaken (fun _ h => h) (fun _ _ h => h) fun _ _ h => h.1).bind
    fun _ _ ⟨hg, hf, hm⟩ => ⟨hg, hf, congrArg (· ++ ms) hm⟩

/-- `replicaset.Initiate` makes the root the one member. -/
theorem initiate_spec (F : Nat) (root : Member) :
    Setup.Hoare (fun l => Grown l0 l ∧ l.fresh = F) (initiate root)
      (fun l _ => Grown l0 l ∧ l.fresh = F ∧ l.members = [root])
      (fun l e => Grown l0 l ∧ SetupError e) :=
  ((Setup.Hoare.keeps_reach (fun l => Grown l0 l ∧ l.fresh = F) (fun _ _ h => h) _).weaken
    (fun _ h => h) (fun _ _ h => h) fun _ _ ⟨h, t, ht⟩ => ⟨h.1, .inr (.inr (.inl ⟨t, ht⟩))⟩).bind
    fun _ _ ⟨hg, hf⟩ => ⟨hg, hf, rfl⟩

/-- The attempt loop adds the members, or times out. -/
theorem addLoop_spec (F : Nat) (members ms : List Member) : ∀ k, 0 < k →
    Setup.Hoare (fun l => Grown l0 l ∧ l.fresh = F ∧ l.members = members) (addLoop ms k)
      (fun l _ => Grown l0 l ∧ l.fresh = F ∧ l.members = members ++ ms)
      (fun l e => Grown l0 l ∧ SetupError e)
  | k + 1, _ => (addMembers_spec F members ms).attempt.bind fun r => by
    cases r with
    | ok u => exact Setup.Hoare.pure _ fun _ h => h
    | error e =>
      dsimp only
      split
      · exact Setup.Hoare.throw _ fun _ h => ⟨h.1, .inr (.inr (.inr rfl))⟩
      · exact addLoop_spec F members ms k (Nat.pos_of_ne_zero ‹_›)

/-- `startReplicaSet` keeps `Grown`: it returns `insts` once `max n 1`
numbers were handed out, and a failure leaves the servers of `l0`. -/
theorem startReplicaSet_grown (n : Nat) {attempts : Nat} (ha : 0 < attempts) (root : Member)
    (l0 : Lab) (hfresh : ∀ x ∈ l0.running, x < l0.fresh) :
    Setup.Hoare (· = l0) (startReplicaSet n attempts root)
      (fun l insts => Grown l0 l ∧ l.fresh = l0.fresh + max n 1 ∧ insts = l.insts ∧
        l.members = root :: (List.range' 1 (n - 1)).map fun i : Nat => ⟨i + 1, some 0.1⟩)
      (fun l e => l.running = l0.running ∧ SetupError e) := by
  have hstart : Setup.Hoare (· = l0) clearInsts
      (fun l _ => Grown l0 l ∧ l.fresh = l0.fresh + 0 ∧ l.members = l0.members)
      (fun l e => l.running = l0.running ∧ SetupError e) :=
    fun _ h => by subst h; exact ⟨⟨le_refl _, by simp [clearInsts], by simp [clearInsts]⟩, rfl, rfl⟩
  -- the root, before the deferred function: it fails with nothing started
  refine hstart.bind fun _ => ((newMongoInstance_spec 0 l0.members).weaken (fun _ h => h)
    (fun _ _ h => h) fun l e ⟨⟨_, hinsts, hrun⟩, hf, he⟩ => ⟨by
      rw [hrun, hinsts, hf, Nat.add_zero, Nat.sub_self, List.range'_zero, List.append_nil], he⟩).bind
    fun inst => ((appendInst_spec inst _ l0.members).weaken (fun _ h => h.2) (fun _ _ h => h)
      fun _ _ h => h).bind fun _ => ?_
  -- from here on, a failure destroys what was started
  refine Setup.Hoare.deferOnError (?_ : Setup.Hoare _ _ _ fun l e => Grown l0 l ∧ SetupError e)
    fun e l ⟨hg, he⟩ => ⟨hg.destroy hfresh, he⟩
  refine ((Setup.Hoare.keeps_reach (fun l => Grown l0 l ∧ l.fresh = l0.fresh + 0 + 1 ∧
    l.members = l0.members) (fun _ _ h => h) _).weaken (fun _ h => h) (fun _ _ h => h)
      fun _ _ ⟨h, t, ht⟩ => ⟨h.1, .inr (.inl ⟨t, ht⟩)⟩).bind fun _ => ?_
  refine ((initiate_spec _ root).weaken (fun _ h => ⟨h.1, h.2.1⟩) (fun _ _ h => h)
    fun _ _ h => h).bind fun _ => ?_
  refine (startMembers_spec (List.range' 1 (n - 1)) 1 [root]).bind fun ms => ?_
  refine Setup.Hoare.assume (fun _ h => h.2.2.2) fun hms => ?_
  refine ((addLoop_spec _ [root] ms attempts ha).weaken (fun _ h => ⟨h.1, h.2.1, h.2.2.1⟩)
    (fun _ _ h => h) fun _ _ h => h).bind fun _ => ?_
  intro l ⟨hg, hf, hm⟩
  refine ⟨hg, ?_, rfl, by rw [hm, hms]; rfl⟩
  rw [hf, List.length_range']
  omega

/-- **No server is left behind.** Whatever mongo answers, `startReplicaSet`
fails with one of its errors and leaves exactly the servers that ran
before, or returns `n` new servers (one for `n = 0`), all running, and the
replica set's members are the root then ids 2 to `n` at priority 0.1. -/
theorem startReplicaSet_no_leak (n : Nat) {attempts : Nat} (ha : 0 < attempts) (root : Member)
    (l0 : Lab) (hfresh : ∀ x ∈ l0.running, x < l0.fresh) :
    Setup.Hoare (· = l0) (startReplicaSet n attempts root)
      (fun l insts => insts = List.range' l0.fresh (max n 1) ∧ l.running = l0.running ++ insts ∧
        l.members = root :: (List.range' 1 (n - 1)).map fun i : Nat => ⟨i + 1, some 0.1⟩)
      (fun l e => l.running = l0.running ∧ SetupError e) :=
  (startReplicaSet_grown n ha root l0 hfresh).weaken (fun _ h => h)
    (fun l insts ⟨⟨_, hinsts, hrun⟩, hf, hi, hm⟩ => by
      subst hi
      exact ⟨by rw [hinsts, hf, Nat.add_sub_cancel_left], hrun, hm⟩)
    fun _ _ h => h

/-- Three servers, with one failed `Add` retried. -/
theorem startReplicaSet_no_leak_retried :
    let l0 : Lab := ⟨[7], 8, [], [none, none, none, none, none, some "busy", none], []⟩
    0 < 2 ∧ (∀ x ∈ l0.running, x < l0.fresh) ∧
      Setup.Hoare (· = l0) (startReplicaSet 3 2 ⟨1, none⟩)
        (fun l insts => insts = List.range' l0.fresh (max 3 1) ∧ l.running = l0.running ++ insts ∧
          l.members = ⟨1, none⟩ :: (List.range' 1 (3 - 1)).map fun i : Nat => ⟨i + 1, some 0.1⟩)
        (fun l e => l.running = l0.running ∧ SetupError e) := by
  intro l0
  exact ⟨by decide, by decide, startReplicaSet_no_leak 3 (by decide) _ l0 (by decide)⟩

/-- When `Add` keeps failing, the root started is destroyed. -/
example :
    let l0 : Lab := ⟨[7], 8, [], [none, none, none, some "busy"], []⟩
    (startReplicaSet 1 1 ⟨1, none⟩ l0).1 = .err "timed out trying to add members" ∧
      (startReplicaSet 1 1 ⟨1, none⟩ l0).2.running = [7] := ⟨rfl, rfl⟩

end Grown

/-! ## The replica set meets the vote -/

/-- The members `startReplicaSet` leaves, by id, when the root is member 1:
the ids 1 to `n`, those of the agents. -/
theorem setup_member_ids {root : Member} (hroot : root.id = 1) {n : Nat} (hn : 1 ≤ n) :
    (root :: (List.range' 1 (n - 1)).map fun i : Nat => (⟨i + 1, some 0.1⟩ : Member)).map (·.id) =
      (List.range n).map fun i : Nat => (i : Int) + 1 := by
  obtain ⟨k, rfl⟩ : ∃ k, n = k + 1 := ⟨n - 1, by omega⟩
  simp [List.range_succ_eq_map, List.range'_eq_map_range, hroot, Function.comp_def]
  omega

/-- **The replica set the test starts meets the vote.** Whatever mongo
answers, once `startReplicaSet` returns two servers or more, with the member
`replicaset.Initiate` makes numbered 1: on any accepted run of the agents,
one per server, with an agent active, `changeVotes` passes its check on the
number of members, leaves one member at mongo's default priority and every
other at 0.1, and that member is not the active agent. -/
theorem startReplicaSet_votes_other {n : Nat} (hn : 2 ≤ n) {attempts : Nat} (ha : 0 < attempts)
    {root : Member} (hroot : root.id = 1) (l0 : Lab) (hfresh : ∀ x ∈ l0.running, x < l0.fresh) :
    Setup.Hoare (· = l0) (startReplicaSet n attempts root)
      (fun l insts => ∀ pre g, runEvents (newGlobalAgentState insts.length) pre = some g →
        g.activeId ≠ -1 →
        ∃ ms, changeVotes insts.length l.members (nextId insts.length g.activeId) = some ms ∧
          (ms.filter (·.priority = none)).map (·.id) = [nextId insts.length g.activeId] ∧
          (∀ m ∈ ms, m.id ≠ nextId insts.length g.activeId → m.priority = some 0.1) ∧
          nextId insts.length g.activeId ≠ g.activeId)
      (fun _ _ => True) :=
  (startReplicaSet_grown n ha root l0 hfresh).weaken (fun _ h => h)
    (fun l insts ⟨⟨_, hinsts, _⟩, hf, hi, hm⟩ pre g hr hact => by
      have hlen : insts.length = n := by rw [hi, hinsts, List.length_range', hf]; omega
      rw [hlen] at hr ⊢
      obtain ⟨h1, hle⟩ := activeId_mem_agents hr hact
      obtain ⟨h1', hle', hne⟩ := nextId_other hn h1 hle
      have hids : l.members.map (·.id) = _ := hm ▸ setup_member_ids hroot (by omega : 1 ≤ n)
      obtain ⟨ms, hms, hnone, hother⟩ := changeVotes_single (.of_eq hids) h1' hle'
      exact ⟨ms, hms, hnone, hother, hne⟩)
    fun _ _ _ => trivial

/-- Three servers from a lab that runs server 7, with the root numbered 1. -/
theorem startReplicaSet_votes_other_three :
    let l0 : Lab := ⟨[7], 8, [], [none, some "busy"], []⟩
    2 ≤ 3 ∧ 0 < 2 ∧ (⟨1, none⟩ : Member).id = 1 ∧ (∀ x ∈ l0.running, x < l0.fresh) ∧
      Setup.Hoare (· = l0) (startReplicaSet 3 2 ⟨1, none⟩)
        (fun l insts => ∀ pre g, runEvents (newGlobalAgentState insts.length) pre = some g →
          g.activeId ≠ -1 →
          ∃ ms, changeVotes insts.length l.members (nextId insts.length g.activeId) = some ms ∧
            (ms.filter (·.priority = none)).map (·.id) = [nextId insts.length g.activeId] ∧
            (∀ m ∈ ms, m.id ≠ nextId insts.length g.activeId → m.priority = some 0.1) ∧
            nextId insts.length g.activeId ≠ g.activeId)
        (fun _ _ => True) := by
  intro l0
  exact ⟨by decide, by decide, rfl, by decide,
    startReplicaSet_votes_other (by decide) (by decide) rfl l0 (by decide)⟩

end Juju.Singular
