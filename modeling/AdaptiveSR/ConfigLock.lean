import AdaptiveSR.System

/-!
# `AdaptiveSR.ConfigLock` — `asr_config_lock` as explicit state.

`RwLock` counts the read locks held and records whether the write lock is held; `rdlock` and
`wrlock` return `none` where `pthread_rwlock_rdlock` / `pthread_rwlock_wrlock` would wait. Each public
operation is written with the locking it does in `adaptive_sr.c`: `ASR_Init` and `ASR_UpdateConfig`
copy under the write lock, the tick runs under a read lock, `ASR_GetConfig` takes a read lock and
returns with it held, and the ingest hooks, `ASR_GetCurrentBudget`, `ASR_ReadMetrics`,
`ASR_StartController` and `ASR_Shutdown` do not touch it. A write lock requested while the caller
holds a read lock waits (POSIX allows a deadlock there, and glibc's default lock deadlocks).

Every operation but `ASR_GetConfig` hands the lock back as it found it and, when it completes, does
to the state exactly what `AsrState.step` does (`step_balanced`). `ASR_GetConfig` leaves one read lock
held, and nothing else releases it, so `ASR_UpdateConfig(ASR_GetConfig())` waits forever
(`updateConfig_getConfig_blocks`). Without `ASR_GetConfig`, whole runs from a free lock never wait and
are the runs of the atomic model (`lockedRun_refines_run`), whose invariants therefore hold for them.
-/

namespace AdaptiveSR

/-- `pthread_rwlock_t`: the read locks held, and whether the write lock is. -/
structure RwLock where
  readers : Nat
  writer : Bool
  deriving DecidableEq, Repr

namespace RwLock

/-- `PTHREAD_RWLOCK_INITIALIZER`. -/
def free : RwLock := ⟨0, false⟩

/-- `pthread_rwlock_rdlock`: waits while a writer holds the lock. -/
def rdlock (l : RwLock) : Option RwLock :=
  if l.writer then none else some { l with readers := l.readers + 1 }

/-- `pthread_rwlock_wrlock`: waits while any lock is held. -/
def wrlock (l : RwLock) : Option RwLock :=
  if l.writer ∨ 0 < l.readers then none else some { l with writer := true }

/-- `pthread_rwlock_unlock`: drops the write lock if it is held, else one read lock. -/
def unlock (l : RwLock) : RwLock :=
  if l.writer then { l with writer := false } else { l with readers := l.readers - 1 }

theorem rdlock_of_writer_false {l : RwLock} (h : l.writer = false) :
    l.rdlock = some ⟨l.readers + 1, false⟩ := by
  simp [rdlock, h]

theorem unlock_rdlock {l l' : RwLock} (h : l.rdlock = some l') : l'.unlock = l := by
  obtain ⟨r, w⟩ := l
  unfold rdlock at h
  split_ifs at h with hw
  cases h
  simp_all [unlock]

theorem unlock_wrlock {l l' : RwLock} (h : l.wrlock = some l') : l'.unlock = l := by
  unfold wrlock at h
  split_ifs at h with hw
  cases h
  simp only [unlock, if_true]
  simp only [not_or, Bool.not_eq_true] at hw
  rw [← hw.1]

theorem wrlock_eq_none {l : RwLock} (h : 0 < l.readers) : l.wrlock = none := by
  simp [wrlock, h]

end RwLock

/-- The state with the lock made explicit. -/
structure LockedState where
  core : AsrState
  lock : RwLock
  deriving DecidableEq, Repr

namespace ConfigLock

/-- **`ASR_Init`**: the copy under the write lock, then `current_budget = asr_config.BMIN`. -/
def asrInit (s : LockedState) : Option LockedState := do
  let l ← s.lock.wrlock
  pure ⟨AdaptiveSR.asrInit s.core, l.unlock⟩

/-- **`ASR_UpdateConfig`**: NULL returns at once; anything else is copied under the write lock. -/
def asrUpdateConfig (newConfig : Option ASRConfig) (s : LockedState) : Option LockedState :=
  match newConfig with
  | none => some s
  | some c => do
    let l ← s.lock.wrlock
    pure ⟨AdaptiveSR.asrUpdateConfig (some c) s.core, l.unlock⟩

/-- **`ASR_GetConfig`**: takes a read lock and returns (a pointer to) the configuration, the lock
still held. -/
def asrGetConfig (s : LockedState) : Option (ASRConfig × LockedState) := do
  let l ← s.lock.rdlock
  pure (s.core.config, { s with lock := l })

/-- With no writer, `ASR_GetConfig` returns the configuration in force with one more read lock held. -/
theorem asrGetConfig_of_writer_false {s : LockedState} (hw : s.lock.writer = false) :
    asrGetConfig s = some (s.core.config, { s with lock := ⟨s.lock.readers + 1, false⟩ }) := by
  simp [asrGetConfig, RwLock.rdlock_of_writer_false hw]

/-- An update waits while any read lock is held. -/
theorem asrUpdateConfig_eq_none {s : LockedState} {c : ASRConfig} (hr : 0 < s.lock.readers) :
    asrUpdateConfig (some c) s = none := by
  simp [asrUpdateConfig, RwLock.wrlock_eq_none hr]

/-- **`asr_update_smoothed_metrics`**: the whole tick under a read lock. -/
def asrUpdateSmoothedMetrics (now : Int) (t q w : UInt64) (s : LockedState) :
    Option LockedState := do
  let l ← s.lock.rdlock
  pure ⟨s.core.step (.tick now t q w), l.unlock⟩

end ConfigLock

/-- The public operations and the controller tick. -/
inductive LockedOp
  | init
  | updateConfig (newConfig : Option ASRConfig)
  | getConfig
  | recordReplayTask (count : Int)
  | recordHotMiss
  | recordWalIngest (bytes : UInt64)
  | getCurrentBudget
  | readMetrics
  | startController
  | shutdown
  | tick (now : Int) (t q w : UInt64)
  deriving DecidableEq, Repr

/-- One operation; `none` when it waits on the lock. The readers (`ASR_GetCurrentBudget`,
`ASR_ReadMetrics`) change no state; `ASR_StartController` and `ASR_Shutdown` change only the
controller-thread state of `Lifecycle`. -/
def LockedState.step (s : LockedState) : LockedOp → Option LockedState
  | .init => ConfigLock.asrInit s
  | .updateConfig c => ConfigLock.asrUpdateConfig c s
  | .getConfig => (ConfigLock.asrGetConfig s).map Prod.snd
  | .recordReplayTask n => some { s with core := s.core.step (.recordReplayTask n) }
  | .recordHotMiss => some { s with core := s.core.step .recordHotMiss }
  | .recordWalIngest b => some { s with core := s.core.step (.recordWalIngest b) }
  | .getCurrentBudget | .readMetrics | .startController | .shutdown => some s
  | .tick now t q w => ConfigLock.asrUpdateSmoothedMetrics now t q w s

/-- The operation of `AsrState` a locked operation performs (`none` for those that change no state). -/
def LockedOp.toAsrOp : LockedOp → Option AsrOp
  | .init => some .init
  | .updateConfig c => some (.updateConfig c)
  | .recordReplayTask n => some (.recordReplayTask n)
  | .recordHotMiss => some .recordHotMiss
  | .recordWalIngest b => some (.recordWalIngest b)
  | .tick now t q w => some (.tick now t q w)
  | _ => none

/-- **Lock balance and refinement.** Every operation but `ASR_GetConfig` that completes hands the lock
back as it found it (when no writer held it) and does what `AsrState.step` does. -/
theorem step_balanced {s s' : LockedState} {op : LockedOp} (hop : op ≠ .getConfig)
    (h : s.step op = some s') :
    s'.lock = s.lock ∧ s'.core = (op.toAsrOp.map s.core.step).getD s.core := by
  cases op with
  | init =>
    simp only [LockedState.step, ConfigLock.asrInit, Option.bind_eq_bind, Option.bind_eq_some,
      Option.pure_def, Option.some.injEq] at h
    obtain ⟨l, hl, rfl⟩ := h
    exact ⟨RwLock.unlock_wrlock hl, rfl⟩
  | updateConfig c =>
    cases c with
    | none => cases h; exact ⟨rfl, rfl⟩
    | some c =>
      simp only [LockedState.step, ConfigLock.asrUpdateConfig, Option.bind_eq_bind,
        Option.bind_eq_some, Option.pure_def, Option.some.injEq] at h
      obtain ⟨l, hl, rfl⟩ := h
      exact ⟨RwLock.unlock_wrlock hl, rfl⟩
  | getConfig => exact absurd rfl hop
  | tick now t q w =>
    simp only [LockedState.step, ConfigLock.asrUpdateSmoothedMetrics, Option.bind_eq_bind,
      Option.bind_eq_some, Option.pure_def, Option.some.injEq] at h
    obtain ⟨l, hl, rfl⟩ := h
    exact ⟨RwLock.unlock_rdlock hl, rfl⟩
  | _ => cases h; exact ⟨rfl, rfl⟩

/-- From a free lock, every operation but `ASR_GetConfig` completes. -/
theorem step_free_completes {s : LockedState} (hs : s.lock = .free) {op : LockedOp}
    (hop : op ≠ .getConfig) : ∃ s', s.step op = some s' := by
  obtain ⟨core, l⟩ := s
  subst hs
  cases op with
  | getConfig => exact absurd rfl hop
  | updateConfig c => cases c <;> exact ⟨_, rfl⟩
  | _ => exact ⟨_, rfl⟩

/-- Whatever completes leaves no writer behind and never lowers the read-lock count. -/
theorem step_readers_mono {s s' : LockedState} (hw : s.lock.writer = false) {op : LockedOp}
    (h : s.step op = some s') : s.lock.readers ≤ s'.lock.readers ∧ s'.lock.writer = false := by
  by_cases hop : op = .getConfig
  · subst hop
    simp only [LockedState.step, ConfigLock.asrGetConfig_of_writer_false hw, Option.map_some',
      Option.some.injEq] at h
    subst h
    exact ⟨Nat.le_succ _, rfl⟩
  · rw [(step_balanced hop h).1]; exact ⟨le_rfl, hw⟩

/-- Operations one after the other; `none` as soon as one waits. -/
def LockedState.run : LockedState → List LockedOp → Option LockedState
  | s, [] => some s
  | s, op :: ops => (s.step op).bind fun s' => s'.run ops

theorem run_readers_mono :
    ∀ (ops : List LockedOp) {s s' : LockedState}, s.lock.writer = false → s.run ops = some s' →
      s.lock.readers ≤ s'.lock.readers ∧ s'.lock.writer = false
  | [], _, _, hw, h => by cases h; exact ⟨le_rfl, hw⟩
  | op :: ops, s, _, hw, h => by
    simp only [LockedState.run, Option.bind_eq_some] at h
    obtain ⟨s₁, h₁, h₂⟩ := h
    obtain ⟨hr₁, hw₁⟩ := step_readers_mono hw h₁
    obtain ⟨hr₂, hw₂⟩ := run_readers_mono ops hw₁ h₂
    exact ⟨hr₁.trans hr₂, hw₂⟩

/-- **Lock balance, and the `GetConfig`/`UpdateConfig` round trip.** From a free lock every public
operation but `ASR_GetConfig`, and every tick, completes, returns the lock free and does what
`AsrState.step` does. `ASR_GetConfig` returns with one read lock held. So
`ASR_UpdateConfig(ASR_GetConfig())` never completes from a state with no writer, whatever other
threads run in between; an update that copies in the configuration already in force, from a free
lock, completes and changes nothing. -/
theorem updateConfig_getConfig_blocks :
    (∀ s : LockedState, s.lock = .free → ∀ op : LockedOp, op ≠ .getConfig →
      ∃ s', s.step op = some s' ∧ s'.lock = .free ∧
        s'.core = (op.toAsrOp.map s.core.step).getD s.core) ∧
    (∀ s : LockedState, s.lock = .free →
      ConfigLock.asrGetConfig s = some (s.core.config, { s with lock := ⟨1, false⟩ })) ∧
    (∀ (s : LockedState) (c : ASRConfig) (s₁ : LockedState), s.lock.writer = false →
      ConfigLock.asrGetConfig s = some (c, s₁) → ∀ (ops : List LockedOp) (s₂ : LockedState),
        s₁.run ops = some s₂ → ConfigLock.asrUpdateConfig (some c) s₂ = none) ∧
    ∀ s : LockedState, s.lock = .free → ConfigLock.asrUpdateConfig (some s.core.config) s = some s := by
  refine ⟨fun s hs op hop => ?_, fun s hs => ?_, fun s c s₁ hw h ops s₂ hrun => ?_, fun s hs => ?_⟩
  · obtain ⟨s', h⟩ := step_free_completes hs hop
    obtain ⟨hl, hc⟩ := step_balanced hop h
    exact ⟨s', h, hl.trans hs, hc⟩
  · rw [ConfigLock.asrGetConfig_of_writer_false (by rw [hs]; rfl), hs]; rfl
  · obtain ⟨rfl, rfl⟩ :=
      Prod.mk.inj (Option.some.inj ((ConfigLock.asrGetConfig_of_writer_false hw).symm.trans h))
    exact ConfigLock.asrUpdateConfig_eq_none
      ((Nat.succ_pos _).trans_le (run_readers_mono ops rfl hrun).1)
  · obtain ⟨core, l⟩ := s
    subst hs
    rfl

/-- The four parts from a fresh start: a hot-miss hook completes and hands the lock back free;
`ASR_GetConfig` returns the defaults holding one read lock; `ASR_UpdateConfig` of them, called with that
lock still held, waits; from a free lock it completes and changes nothing. -/
theorem updateConfig_getConfig_blocks_at_init :
    (∃ s', (⟨asrInit AsrState.static, .free⟩ : LockedState).step .recordHotMiss = some s' ∧
      s'.lock = .free ∧ s'.core = ((LockedOp.recordHotMiss).toAsrOp.map
        (asrInit AsrState.static).step).getD (asrInit AsrState.static)) ∧
    ConfigLock.asrGetConfig ⟨asrInit AsrState.static, .free⟩ =
      some (asrDefaultConfig, ⟨asrInit AsrState.static, ⟨1, false⟩⟩) ∧
    ConfigLock.asrUpdateConfig (some asrDefaultConfig) ⟨asrInit AsrState.static, ⟨1, false⟩⟩ = none ∧
    ConfigLock.asrUpdateConfig (some asrDefaultConfig) ⟨asrInit AsrState.static, .free⟩ =
      some ⟨asrInit AsrState.static, .free⟩ :=
  ⟨updateConfig_getConfig_blocks.1 _ rfl .recordHotMiss (by decide),
    updateConfig_getConfig_blocks.2.1 _ rfl,
    updateConfig_getConfig_blocks.2.2.1 _ _ _ rfl
      (updateConfig_getConfig_blocks.2.1 ⟨asrInit AsrState.static, .free⟩ rfl) [] _ rfl,
    updateConfig_getConfig_blocks.2.2.2 _ rfl⟩

/-! ## Whole runs -/

/-- From a free lock, a run without `ASR_GetConfig` completes, hands the lock back free, and does
what `AsrState.run` does with the operations that change the state. -/
theorem LockedState.run_free :
    ∀ (ops : List LockedOp) (s : LockedState), s.lock = .free → (∀ op ∈ ops, op ≠ .getConfig) →
      ∃ s', s.run ops = some s' ∧ s'.lock = .free ∧
        s'.core = s.core.run (ops.filterMap LockedOp.toAsrOp)
  | [], s, hs, _ => ⟨s, rfl, hs, rfl⟩
  | op :: ops, s, hs, hops => by
    have hop := hops op (List.mem_cons_self _ _)
    obtain ⟨s₁, h₁⟩ := step_free_completes hs hop
    obtain ⟨hl, hc⟩ := step_balanced hop h₁
    obtain ⟨s', h', hl', hc'⟩ :=
      LockedState.run_free ops s₁ (hl.trans hs) fun o ho => hops o (List.mem_cons_of_mem _ ho)
    refine ⟨s', by rw [LockedState.run, h₁, Option.some_bind, h'], hl', ?_⟩
    rw [hc', hc, List.filterMap_cons]
    cases op.toAsrOp <;> rfl

/-- The state operation a locked operation performs is well formed when its update is. -/
theorem LockedOp.toAsrOp_wellFormed {op : LockedOp} {a : AsrOp} (h : op.toAsrOp = some a)
    (hwf : ∀ c, op = .updateConfig (some c) → c.WellFormed) : a.WellFormed := by
  cases op with
  | updateConfig c =>
    cases h
    cases c with
    | none => trivial
    | some c => exact hwf c rfl
  | _ => cases h <;> trivial

/-- **The locked runs are the atomic runs.** From a free lock, every run of public operations and
ticks without `ASR_GetConfig` completes (none of them waits on `asr_config_lock`, in any order),
hands the lock back free, and leaves the state `AsrState.run` leaves after the operations that
change it. From a reachable state, with well-formed updates, it ends in a reachable state, so every
invariant of the atomic model holds along the runs with the lock made explicit. -/
theorem lockedRun_refines_run (ops : List LockedOp) (s : LockedState) (hs : s.lock = .free)
    (hops : ∀ op ∈ ops, op ≠ .getConfig) :
    ∃ s', s.run ops = some s' ∧ s'.lock = .free ∧
      s'.core = s.core.run (ops.filterMap LockedOp.toAsrOp) ∧
      (Reachable s.core → (∀ c, LockedOp.updateConfig (some c) ∈ ops → c.WellFormed) →
        Reachable s'.core) := by
  obtain ⟨s', h, hl, hc⟩ := LockedState.run_free ops s hs hops
  refine ⟨s', h, hl, hc, fun hr hwf => hc ▸ hr.run fun a ha => ?_⟩
  obtain ⟨op, hop, ha⟩ := List.mem_filterMap.mp ha
  exact LockedOp.toAsrOp_wellFormed ha fun c hc => hwf c (hc ▸ hop)

/-- After `ASR_Init`, a hot miss, a metrics read and a tick run to completion with the lock free, as
the hook and the tick of the atomic model. -/
theorem lockedRun_refines_run_after_init :
    ∃ s', LockedState.run ⟨asrInit AsrState.static, .free⟩
        [.recordHotMiss, .readMetrics, .tick 1 0 0 0] = some s' ∧ s'.lock = .free ∧
      s'.core = (asrInit AsrState.static).run [.recordHotMiss, .tick 1 0 0 0] ∧
      Reachable s'.core := by
  obtain ⟨s', h, hl, hc, hr⟩ := lockedRun_refines_run [.recordHotMiss, .readMetrics, .tick 1 0 0 0]
    ⟨asrInit AsrState.static, .free⟩ rfl (by simp)
  exact ⟨s', h, hl, hc, hr Reachable.init (by simp)⟩

end AdaptiveSR
