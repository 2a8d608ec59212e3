import Mathlib.Data.List.Basic

/-!
# Go functions with errors and panics, and one judgement over them

The provider's functions (part_001) and the test's setup (part_000) are Go
functions that act on a state (the cloud, the site of a bootstrap, the
test's machine) and return a value or an error, or panic at run time. Here
that is one monad, `ErrState σ ε`: a call from a state ends with an
`Outcome` (a value, an error of type `ε`, or a panic's message) and the
state it leaves. An error or a panic ends the function, and the state keeps
what was done before it.

Go's control flow over errors is built from a few operations: `throw`
(`return ..., err`), `crash` (a run-time panic), `attempt` (a call whose
error the caller inspects), `ofExcept` (`if err != nil { return ..., err }`)
and `deferOnError` (a deferred cleanup that runs when the function returns
an error).

**The judgement.** `ErrState.Triple P x Q E Z` says that every run of `x`
from a state where `P` holds ends in a state where `Q` holds of the value it
returns, `E` of the error it returns, or `Z` after a panic. Its rules are
proved here once: `pure`, `throw`, `crash`, `ofExcept`, `bind`, `attempt`,
`deferOnError`, the consequence rule `weaken`, and `of_eq`, which reads a
precondition as the state it holds of. Every judgement of the project is an
instance, its rules these ones instantiated:

* `Go.Hoare` and `Az.Hoare`: no run panics;
* `Go.Triple`: a property of the cloud kept however the run ends;
* `Go.Spec`, `Go.Reads` and `Az.Moves`: a relation between the state a run
  starts from and the one it leaves (`ErrState.Rel`, the triple with the
  start fixed);
* `Setup.Hoare`: the test's setup, which never panics.
-/
namespace Juju

/-- How a Go function ends: a value, an error, or a run-time panic. -/
inductive Outcome (ε α : Type) where
  | ok (a : α)
  | err (e : ε)
  | panic (msg : String)
  deriving DecidableEq, Repr

/-- A Go function over the state `σ` with errors of type `ε`: errors and
panics end it, and the state keeps what it did before. -/
def ErrState (σ ε α : Type) : Type := σ → Outcome ε α × σ

namespace ErrState

variable {σ ε α β : Type}

instance : Monad (ErrState σ ε) where
  pure a := fun s => (.ok a, s)
  bind x f := fun s =>
    match x s with
    | (.ok a, s') => f a s'
    | (.err e, s') => (.err e, s')
    | (.panic m, s') => (.panic m, s')

/-- `return ..., err`. -/
def throw (e : ε) : ErrState σ ε α := fun s => (.err e, s)

/-- A run-time panic. -/
def crash (msg : String) : ErrState σ ε α := fun s => (.panic msg, s)

/-- A call whose error the caller inspects instead of returning it. -/
def attempt (x : ErrState σ ε α) : ErrState σ ε (Except ε α) := fun s =>
  match x s with
  | (.ok a, s') => (.ok (.ok a), s')
  | (.err e, s') => (.ok (.error e), s')
  | (.panic m, s') => (.panic m, s')

/-- Go's `if err != nil { return ..., err }` after a call that was tried. -/
def ofExcept : Except ε α → ErrState σ ε α
  | .ok a => pure a
  | .error e => throw e

/-- Go's `defer func() { if err != nil { cleanup } }()` over the rest of a
function with a named error result: `cleanup` runs after `body` returned an
error, whose error is ignored; a panic in it replaces the result. -/
def deferOnError (cleanup : ErrState σ ε Unit) (body : ErrState σ ε α) : ErrState σ ε α := fun s =>
  match body s with
  | (.err e, s') =>
    match cleanup s' with
    | (.panic m, s'') => (.panic m, s'')
    | (_, s'') => (.err e, s'')
  | r => r

@[simp] theorem pure_apply (a : α) (s : σ) : (pure a : ErrState σ ε α) s = (.ok a, s) := rfl

theorem bind_apply (x : ErrState σ ε α) (f : α → ErrState σ ε β) (s : σ) :
    (x >>= f) s = match x s with
      | (.ok a, s') => f a s'
      | (.err e, s') => (.err e, s')
      | (.panic m, s') => (.panic m, s') := rfl

theorem bind_ok {x : ErrState σ ε α} {s s' : σ} {a : α} (f : α → ErrState σ ε β)
    (h : x s = (.ok a, s')) : (x >>= f) s = f a s' := by
  rw [bind_apply, h]

theorem bind_eq_ok {x : ErrState σ ε α} {f : α → ErrState σ ε β} {s s' : σ} {b : β}
    (h : (x >>= f) s = (.ok b, s')) : ∃ a s1, x s = (.ok a, s1) ∧ f a s1 = (.ok b, s') := by
  rw [bind_apply] at h
  rcases hx : x s with ⟨a | e | m, s1⟩ <;> rw [hx] at h
  · exact ⟨a, s1, rfl, h⟩
  · cases h
  · cases h

@[simp] theorem attempt_apply (x : ErrState σ ε α) (s : σ) : attempt x s = match x s with
    | (.ok a, s') => (.ok (.ok a), s')
    | (.err e, s') => (.ok (.error e), s')
    | (.panic m, s') => (.panic m, s') := rfl

@[simp] theorem throw_apply (e : ε) (s : σ) : (throw e : ErrState σ ε α) s = (.err e, s) := rfl

@[simp] theorem crash_apply (m : String) (s : σ) : (crash m : ErrState σ ε α) s = (.panic m, s) := rfl

@[simp] theorem ofExcept_apply (r : Except ε α) (s : σ) :
    (ofExcept r : ErrState σ ε α) s = (match r with | .ok a => .ok a | .error e => .err e, s) := by
  cases r <;> rfl

/-! ## The judgement -/

/-- Every run of `x` from a state where `P` holds ends where `Q` holds of the
value it returns, `E` of the error it returns, or `Z` after a panic. -/
def Triple (P : σ → Prop) (x : ErrState σ ε α) (Q : σ → α → Prop) (E : σ → ε → Prop)
    (Z : σ → Prop) : Prop :=
  ∀ s, P s → match x s with
    | (.ok a, s') => Q s' a
    | (.err e, s') => E s' e
    | (.panic _, s') => Z s'

namespace Triple

variable {P : σ → Prop} {Q : σ → α → Prop} {E : σ → ε → Prop} {Z : σ → Prop}

theorem pure (a : α) (h : ∀ s, P s → Q s a) : Triple P (Pure.pure a) Q E Z :=
  fun _ hp => h _ hp

theorem throw (e : ε) (h : ∀ s, P s → E s e) : Triple P (ErrState.throw e) Q E Z :=
  fun _ hp => h _ hp

theorem crash (m : String) (h : ∀ s, P s → Z s) : Triple P (ErrState.crash m) Q E Z :=
  fun _ hp => h _ hp

theorem ofExcept (r : Except ε α) (hok : ∀ s a, P s → r = .ok a → Q s a)
    (herr : ∀ s e, P s → r = .error e → E s e) : Triple P (ErrState.ofExcept r) Q E Z := by
  cases r with
  | ok a => exact pure a fun s hp => hok s a hp rfl
  | error e => exact throw e fun s hp => herr s e hp rfl

theorem bind {x : ErrState σ ε α} {f : α → ErrState σ ε β} {R : σ → β → Prop}
    (hx : Triple P x Q E Z) (hf : ∀ a, Triple (Q · a) (f a) R E Z) : Triple P (x >>= f) R E Z := by
  intro s hp
  have h := hx s hp
  rw [bind_apply]
  rcases hxs : x s with ⟨a | e | m, s'⟩ <;> rw [hxs] at h
  exacts [hf a s' h, h, h]

theorem attempt {x : ErrState σ ε α} {E' : σ → ε → Prop} (hx : Triple P x Q E Z) :
    Triple P (ErrState.attempt x) (fun s r => match r with
      | .ok a => Q s a
      | .error e => E s e) E' Z := by
  intro s hp
  have h := hx s hp
  rw [attempt_apply]
  rcases hxs : x s with ⟨a | e | m, s'⟩ <;> rw [hxs] at h
  exacts [h, h, h]

theorem deferOnError {body : ErrState σ ε α} {cleanup : ErrState σ ε Unit} {E' : σ → ε → Prop}
    (hb : Triple P body Q E Z)
    (hc : ∀ e, Triple (E · e) cleanup (fun s _ => E' s e) (fun s _ => E' s e) Z) :
    Triple P (ErrState.deferOnError cleanup body) Q E' Z := by
  intro s hp
  have h := hb s hp
  unfold ErrState.deferOnError
  rcases hbs : body s with ⟨a | e | m, s'⟩ <;> rw [hbs] at h
  · exact h
  · have h' := hc e s' h
    dsimp only
    rcases hcs : cleanup s' with ⟨u | e' | m', s''⟩ <;> rw [hcs] at h'
    exacts [h', h', h']
  · exact h

theorem weaken {x : ErrState σ ε α} {P' : σ → Prop} {Q' : σ → α → Prop} {E' : σ → ε → Prop}
    {Z' : σ → Prop} (hx : Triple P x Q E Z) (hp : ∀ s, P' s → P s) (hq : ∀ s a, Q s a → Q' s a)
    (he : ∀ s e, E s e → E' s e) (hz : ∀ s, Z s → Z' s) : Triple P' x Q' E' Z' := by
  intro s h
  have h' := hx s (hp _ h)
  rcases hxs : x s with ⟨a | e | m, s'⟩ <;> rw [hxs] at h'
  exacts [hq _ _ h', he _ _ h', hz _ h']

theorem of_eq {x : ErrState σ ε α} (h : ∀ s, P s → Triple (· = s) x Q E Z) : Triple P x Q E Z :=
  fun s hp => h s hp s rfl

/-- One run, when `I` follows from each of the three ends. -/
theorem run {x : ErrState σ ε α} {I : σ → Prop} (h : Triple P x Q E Z) (hq : ∀ s a, Q s a → I s)
    (he : ∀ s e, E s e → I s) (hz : ∀ s, Z s → I s) (s : σ) (hp : P s) :
    I (x s).2 ∧ ∀ a, (x s).1 = .ok a → Q (x s).2 a := by
  have h' := h s hp
  rcases hxs : x s with ⟨a | e | m, s'⟩ <;> rw [hxs] at h'
  · exact ⟨hq _ _ h', fun b hb => by cases hb; exact h'⟩
  · exact ⟨he _ _ h', fun _ hb => by cases hb⟩
  · exact ⟨hz _ h', fun _ hb => by cases hb⟩

end Triple

/-! ## Relations between the start and the end of a run -/

/-- Every run of `x` leaves a state that `R` relates to the one it started
from, however it ends, and a value it returns satisfies `Q` of the state it
leaves: `Triple` with the start fixed. -/
def Rel (R : σ → σ → Prop) (x : ErrState σ ε α) (Q : σ → α → Prop) : Prop :=
  ∀ s0, Triple (· = s0) x (fun s a => R s0 s ∧ Q s a) (fun s _ => R s0 s) (R s0)

namespace Rel

variable {R : σ → σ → Prop} {Q : σ → α → Prop}

theorem run {x : ErrState σ ε α} (h : Rel R x Q) (s : σ) :
    R s (x s).2 ∧ ∀ a, (x s).1 = .ok a → Q (x s).2 a :=
  let ⟨hr, hq⟩ := (h s).run (fun _ _ h => h.1) (fun _ _ h => h) (fun _ h => h) s rfl
  ⟨hr, fun a ha => (hq a ha).2⟩

theorem pure (hrefl : ∀ s, R s s) (a : α) (h : ∀ s, Q s a) :
    Rel R (Pure.pure a : ErrState σ ε α) Q :=
  fun _ => Triple.pure a fun s hs => by subst hs; exact ⟨hrefl s, h s⟩

theorem throw (hrefl : ∀ s, R s s) (e : ε) : Rel R (ErrState.throw e : ErrState σ ε α) Q :=
  fun _ => Triple.throw e fun s hs => by subst hs; exact hrefl s

theorem crash (hrefl : ∀ s, R s s) (m : String) : Rel R (ErrState.crash m : ErrState σ ε α) Q :=
  fun _ => Triple.crash m fun s hs => by subst hs; exact hrefl s

theorem bind (htrans : ∀ {a b c}, R a b → R b c → R a c) {x : ErrState σ ε α}
    {f : α → ErrState σ ε β} {P : σ → α → Prop} {Q' : α → σ → β → Prop} {Q : σ → β → Prop}
    (hx : Rel R x P) (hf : ∀ s a, P s a → Rel R (f a) (Q' a))
    (hcomp : ∀ s1 s2 a b, R s1 s2 → P s1 a → Q' a s2 b → Q s2 b) : Rel R (x >>= f) Q :=
  fun s0 => (hx s0).bind fun a => Triple.of_eq fun s1 ⟨h01, hp⟩ =>
    (hf s1 a hp s1).weaken (fun _ h => h) (fun s2 b ⟨h12, hq⟩ => ⟨htrans h01 h12, hcomp s1 s2 a b h12 hp hq⟩)
      (fun _ _ h => htrans h01 h) fun _ h => htrans h01 h

theorem attempt {x : ErrState σ ε α} (hx : Rel R x Q) :
    Rel R (ErrState.attempt x) fun s r => ∀ a, r = .ok a → Q s a :=
  fun s0 => (hx s0).attempt.weaken (fun _ h => h)
    (fun _ r h => by
      cases r with
      | ok a => exact ⟨h.1, fun b hb => by cases hb; exact h.2⟩
      | error e => exact ⟨h, fun _ hb => by cases hb⟩) (fun _ _ h => h) fun _ h => h

theorem deferOnError (htrans : ∀ {a b c}, R a b → R b c → R a c) {body : ErrState σ ε α}
    {cleanup : ErrState σ ε Unit} (hb : Rel R body Q) (hc : Rel R cleanup fun _ _ => True) :
    Rel R (ErrState.deferOnError cleanup body) Q :=
  fun s0 => (hb s0).deferOnError fun _ => Triple.of_eq fun s1 h01 =>
    (hc s1).weaken (fun _ h => h) (fun _ _ h => htrans h01 h.1) (fun _ _ h => htrans h01 h)
      fun _ h => htrans h01 h

theorem weaken {x : ErrState σ ε α} {Q' : σ → α → Prop} (hx : Rel R x Q)
    (h : ∀ s a, Q s a → Q' s a) : Rel R x Q' :=
  fun s0 => (hx s0).weaken (fun _ h => h) (fun s a hq => ⟨hq.1, h s a hq.2⟩) (fun _ _ h => h) fun _ h => h

end Rel

end ErrState

end Juju
