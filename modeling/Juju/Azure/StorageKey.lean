import Mathlib.Data.List.Basic
import Juju.Core.GoString

/-!
# The storage account key under concurrent reconfiguration

`azureEnviron` keeps its configuration `ecfg`, a pointer to an immutable
`azureEnvironConfig`, and the cached `storageAccountKey` under its mutex.
`SetConfig` installs a new configuration object and clears the key.
`getStorageContext` snapshots both and, when the key is empty, asks Azure
for it (`updateStorageAccountKey`): `queryStorageAccountKey` reads the
account name from a second snapshot of its own and queries the keys without
holding the lock, and the key is written back only if `ecfg` is still the
pointer of the first snapshot.

The model: the configuration objects form a heap that only grows
(`KeyEnv.configs`, the storage account name of each, addressed by index),
so every `SetConfig` installs a fresh pointer; each locked section and each
snapshot is one atomic event, and a call's progress between them is its own
(`KeyPc`); the storage service answers each account with fixed keys
(`keysOf`).

Results:
* `storageKey_invariant`: after any interleaving of any number of
  `SetConfig` and `getStorageContext` calls from `NewEnviron`, the cached
  key is empty or the key of the configured account, and every storage
  context handed out holds the key of its own account.
-/
namespace Juju.Azure

/-- `gwacl.StorageAccountKeys`. -/
structure StorageAccountKeys where
  primary : Str
  secondary : Str

/-- mirrors part_001:106-111 (`extractStorageKey`) -/
def extractStorageKey (keys : StorageAccountKeys) : Str :=
  if keys.primary ≠ [] then keys.primary else keys.secondary

/-- The fields of `azureEnviron` the key depends on: the storage account name
of every configuration object installed so far (a pointer is an index), the
current one, and the cached key. -/
structure KeyEnv where
  configs : List Str
  ecfg : Nat
  storageAccountKey : Str
  deriving DecidableEq, Repr

/-- `ecfg.storageAccountName()` of the configuration object at `p`. -/
def KeyEnv.storageAccountName (env : KeyEnv) (p : Nat) : Str := env.configs.getD p []

/-- The locked part of `SetConfig` (part_001:367-390): when the new
configuration validates against the old one, a fresh configuration object
is installed and the key cleared. -/
def setConfig (account : Str) (valid : Bool) (env : KeyEnv) : KeyEnv :=
  if valid then ⟨env.configs ++ [account], env.configs.length, []⟩ else env

/-- mirrors part_001:90-102 (`NewEnviron`): `SetConfig` on the zero environ,
which has no configuration to validate against. -/
def newEnviron (account : Str) : KeyEnv := setConfig account true ⟨[], 0, []⟩

/-- Where a `getStorageContext` call is (part_001:1253-1271, through
`updateStorageAccountKey` and `queryStorageAccountKey`). -/
inductive KeyPc where
  /-- not started -/
  | start
  /-- holds its snapshot: the configuration pointer and the cached key -/
  | snapped (snap : Nat) (key : Str)
  /-- in `queryStorageAccountKey`, whose own snapshot holds `queried` -/
  | querying (snap queried : Nat)
  /-- holds a key from Azure, not yet written back -/
  | fetched (snap : Nat) (key : Str)
  /-- returned the storage context for `account` with `key` -/
  | done (account key : Str)
  /-- returned an error -/
  | failed
  deriving DecidableEq, Repr

/-- One atomic step of a `getStorageContext` call; `ok` says whether the
Azure request in it (`getManagementAPI`, `GetStorageAccountKeys`)
succeeds. -/
def threadStep (keysOf : Str → StorageAccountKeys) (ok : Bool) (env : KeyEnv) :
    KeyPc → KeyEnv × KeyPc
  | .start => (env, .snapped env.ecfg env.storageAccountKey)
  | .snapped p key =>
    if key ≠ [] then (env, .done (env.storageAccountName p) key)
    else if ok then (env, .querying p env.ecfg) else (env, .failed)
  | .querying p q =>
    let key := extractStorageKey (keysOf (env.storageAccountName q))
    if ok ∧ key ≠ [] then (env, .fetched p key) else (env, .failed)
  | .fetched p key =>
    if env.ecfg = p then
      ({ env with storageAccountKey := key }, .done (env.storageAccountName p) key)
    else (env, .failed)
  | .done account key => (env, .done account key)
  | .failed => (env, .failed)

/-- The environ and the `getStorageContext` calls in flight. -/
structure KeySys where
  env : KeyEnv
  threads : List KeyPc
  deriving DecidableEq, Repr

/-- What can happen next: a `SetConfig`, a new `getStorageContext` call, or
the next step of the call `thread`. -/
inductive KeyEvent where
  | setConfig (account : Str) (valid : Bool)
  | call
  | step (thread : Nat) (ok : Bool)

/-- The environ and the calls after one event. -/
def keyStep (keysOf : Str → StorageAccountKeys) (s : KeySys) : KeyEvent → KeySys
  | .setConfig account valid => { s with env := setConfig account valid s.env }
  | .call => { s with threads := s.threads ++ [.start] }
  | .step i ok =>
    match s.threads[i]? with
    | some pc =>
      let r := threadStep keysOf ok s.env pc
      ⟨r.1, s.threads.set i r.2⟩
    | none => s

/-- An interleaving. -/
def keyRun (keysOf : Str → StorageAccountKeys) (s : KeySys) (es : List KeyEvent) : KeySys :=
  es.foldl (keyStep keysOf) s

/-! ## The invariant -/

section Invariant

variable (keysOf : Str → StorageAccountKeys)

/-- What a call's progress says of the environ: a snapshot is never newer
than the current configuration, a key held for the current configuration is
its account's key, and a handed-out context holds its account's key. -/
def PcInv (env : KeyEnv) : KeyPc → Prop
  | .start => True
  | .snapped p key =>
    p ≤ env.ecfg ∧ (key = [] ∨ key = extractStorageKey (keysOf (env.storageAccountName p)))
  | .querying p q => p ≤ q ∧ q ≤ env.ecfg
  | .fetched p key =>
    p ≤ env.ecfg ∧ (env.ecfg = p → key = extractStorageKey (keysOf (env.storageAccountName p)))
  | .done account key => key = extractStorageKey (keysOf account)
  | .failed => True

/-- The cached key is empty or the configured account's. -/
def KeyOk (env : KeyEnv) : Prop :=
  env.storageAccountKey = [] ∨
    env.storageAccountKey = extractStorageKey (keysOf (env.storageAccountName env.ecfg))

structure KeyInv (s : KeySys) : Prop where
  ecfg_lt : s.env.ecfg < s.env.configs.length
  key : KeyOk keysOf s.env
  threads : ∀ pc ∈ s.threads, PcInv keysOf s.env pc

variable {keysOf}

theorem storageAccountName_setConfig {env : KeyEnv} {p : Nat} (account : Str) (valid : Bool)
    (hp : p < env.configs.length) :
    (setConfig account valid env).storageAccountName p = env.storageAccountName p := by
  unfold setConfig
  split
  · simp [KeyEnv.storageAccountName, List.getElem?_append_left hp]
  · rfl

theorem PcInv.of_eq {env env' : KeyEnv} {pc : KeyPc} (hc : env'.configs = env.configs)
    (he : env'.ecfg = env.ecfg) (h : PcInv keysOf env pc) : PcInv keysOf env' pc := by
  have hn : env'.storageAccountName = env.storageAccountName := by
    funext p
    simp [KeyEnv.storageAccountName, hc]
  cases pc <;> simp only [PcInv, hn, he] at h ⊢ <;> exact h

/-- A `SetConfig` installs a pointer newer than every snapshot. -/
theorem PcInv.setConfig {env : KeyEnv} {pc : KeyPc} (hlt : env.ecfg < env.configs.length)
    (h : PcInv keysOf env pc) (account : Str) (valid : Bool) :
    PcInv keysOf (Juju.Azure.setConfig account valid env) pc := by
  cases valid
  · exact h
  · have hcfg : (Juju.Azure.setConfig account true env).ecfg = env.configs.length := rfl
    cases pc with
    | snapped p key =>
      obtain ⟨hp, hk⟩ := h
      refine ⟨by omega, ?_⟩
      rwa [storageAccountName_setConfig _ _ (by omega)]
    | querying p q =>
      obtain ⟨hpq, hq⟩ := h
      exact ⟨hpq, by omega⟩
    | fetched p key =>
      obtain ⟨hp, -⟩ := h
      exact ⟨by omega, fun he => by omega⟩
    | _ => exact h

theorem KeyInv.setConfig {s : KeySys} (h : KeyInv keysOf s) (account : Str) (valid : Bool) :
    KeyInv keysOf { s with env := Juju.Azure.setConfig account valid s.env } := by
  refine ⟨?_, ?_, fun pc hpc => (h.threads pc hpc).setConfig h.ecfg_lt account valid⟩ <;>
    cases valid
  · exact h.ecfg_lt
  · simp [Juju.Azure.setConfig]
  · exact h.key
  · exact .inl rfl

/-- One step of a call keeps its own progress and the cached key right, and
leaves the configurations alone. -/
theorem threadStep_inv {env : KeyEnv} {pc : KeyPc} (ok : Bool) (hk : KeyOk keysOf env)
    (h : PcInv keysOf env pc) :
    let r := threadStep keysOf ok env pc
    KeyOk keysOf r.1 ∧ PcInv keysOf r.1 r.2 ∧ r.1.configs = env.configs ∧ r.1.ecfg = env.ecfg := by
  cases pc with
  | start => exact ⟨hk, ⟨le_refl _, hk⟩, rfl, rfl⟩
  | snapped p key =>
    obtain ⟨hp, hkey⟩ := h
    simp only [threadStep]
    split_ifs with hne
    · exact ⟨hk, hkey.resolve_left hne, rfl, rfl⟩
    · exact ⟨hk, ⟨hp, le_refl _⟩, rfl, rfl⟩
    · exact ⟨hk, trivial, rfl, rfl⟩
  | querying p q =>
    obtain ⟨hpq, hq⟩ := h
    simp only [threadStep]
    split_ifs
    · refine ⟨hk, ⟨show p ≤ env.ecfg by omega, fun he => ?_⟩, rfl, rfl⟩
      rw [show q = p by simp only at he; omega]
    · exact ⟨hk, trivial, rfl, rfl⟩
  | fetched p key =>
    obtain ⟨-, hkey⟩ := h
    simp only [threadStep]
    split_ifs with he
    · subst he
      exact ⟨.inr (hkey rfl), hkey rfl, rfl, rfl⟩
    · exact ⟨hk, trivial, rfl, rfl⟩
  | done account key => exact ⟨hk, h, rfl, rfl⟩
  | failed => exact ⟨hk, trivial, rfl, rfl⟩

theorem KeyInv.step {s : KeySys} (h : KeyInv keysOf s) (e : KeyEvent) :
    KeyInv keysOf (keyStep keysOf s e) := by
  cases e with
  | setConfig account valid => exact h.setConfig account valid
  | call =>
    refine ⟨h.ecfg_lt, h.key, fun pc hpc => ?_⟩
    rcases List.mem_append.mp hpc with hpc | hpc
    · exact h.threads pc hpc
    · rw [List.mem_singleton.mp hpc]
      trivial
  | step i ok =>
    simp only [keyStep]
    split
    · rename_i pc hpc
      obtain ⟨hk, hpc', hc, he⟩ := threadStep_inv ok h.key (h.threads pc (List.getElem?_mem hpc))
      refine ⟨hc ▸ he ▸ h.ecfg_lt, hk, fun pc' hm => ?_⟩
      rcases List.mem_or_eq_of_mem_set hm with hm | rfl
      · exact (h.threads pc' hm).of_eq hc he
      · exact hpc'
    · exact h

theorem KeyInv.run {s : KeySys} (h : KeyInv keysOf s) (es : List KeyEvent) :
    KeyInv keysOf (keyRun keysOf s es) := by
  induction es generalizing s with
  | nil => exact h
  | cons e es ih => exact ih (h.step e)

end Invariant

/-- Whatever the interleaving of `SetConfig` and `getStorageContext` calls
after `NewEnviron`, and whatever requests to Azure fail: the cached key is
empty or the key of the configured account, and every storage context handed
out holds the key of its own account. -/
theorem storageKey_invariant (keysOf : Str → StorageAccountKeys) (account : Str)
    (es : List KeyEvent) :
    let s := keyRun keysOf ⟨newEnviron account, []⟩ es
    (s.env.storageAccountKey = [] ∨
      s.env.storageAccountKey = extractStorageKey (keysOf (s.env.storageAccountName s.env.ecfg))) ∧
    ∀ acct key, KeyPc.done acct key ∈ s.threads → key = extractStorageKey (keysOf acct) := by
  have h := (show KeyInv keysOf ⟨newEnviron account, []⟩ from
    ⟨by simp [newEnviron, setConfig], .inl rfl, fun _ h => absurd h (List.not_mem_nil _)⟩).run es
  exact ⟨h.key, fun acct key hm => h.threads _ hm⟩

/-- A reconfiguration between the snapshot and the key query: the query reads
the new account `b`, and the write-back sees the new pointer and fails
instead of caching `b`'s key for `a`'s context. -/
example :
    keyRun (fun a => ⟨a ++ "-key".toList, []⟩) ⟨newEnviron "a".toList, []⟩
      [.call, .step 0 true, .setConfig "b".toList true, .step 0 true, .step 0 true, .step 0 true] =
      ⟨⟨["a".toList, "b".toList], 1, []⟩, [.failed]⟩ := by
  decide

end Juju.Azure
