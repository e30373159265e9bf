import AdaptiveSR.System

/-!
# `AdaptiveSR.Lifecycle` — controller threads under `ASR_StartController` and `ASR_Shutdown`.

The state is the two globals the lifecycle calls share with the controller threads
(`asr_shutdown_requested`, `asr_controller_tid`), every controller thread created so far with the
point of `asr_controller_main` it is at, and whether the caller is waiting in `ASR_Shutdown`'s
`pthread_join`. The events are the caller's `ASR_StartController` (with the flag it reads and whether
`pthread_create` succeeds), `ASR_Shutdown` up to its join, the join's return, and one step of any
controller thread; a schedule is any order of enabled events.

`ASR_StartController` does not look at `asr_controller_tid` before creating a thread and overwriting
it, and `ASR_Shutdown` joins the recorded thread only. Two starts in a row leave two controller threads
running, and the older one outlives a shutdown (`two_starts_outlive_shutdown`). When starts and
shutdowns alternate — no start while a thread is recorded, as in the single `Init`-then-`Start` call
site — at most one controller thread is live, and none is once `ASR_Shutdown` returns
(`alternating_single_controller`).

Whatever the starts left behind, the shutdown request bounds what follows it: with no start after
it, every controller thread takes at most three more steps, ticks at most once, and has then
returned (`shutdown_bounds_controller`).
-/

namespace AdaptiveSR

/-- Where a controller thread is in `asr_controller_main`. -/
inductive ControllerPc
  /-- at `while (!asr_shutdown_requested)` -/
  | check
  /-- about to call `asr_update_smoothed_metrics` -/
  | tick
  /-- in `usleep(CONTROLLER_CYCLE_MS * 1000)` -/
  | sleep
  /-- returned `NULL` -/
  | exited
  deriving DecidableEq, Repr

/-- The lifecycle globals, the controller threads (by thread id; `0` is no thread), and the caller. -/
structure Lifecycle where
  shutdownRequested : Bool
  controllerTid : Nat
  threads : Nat → Option ControllerPc
  nextTid : Nat
  joining : Bool

/-- The process image: no thread, `asr_controller_tid = 0`. -/
def Lifecycle.initial : Lifecycle := ⟨false, 0, fun _ => none, 1, false⟩

/-- Thread `k` has been created and has not returned. -/
def Lifecycle.Live (s : Lifecycle) (k : Nat) : Prop := s.threads k ≠ none ∧ s.threads k ≠ some .exited

instance (s : Lifecycle) (k : Nat) : Decidable (s.Live k) := inferInstanceAs (Decidable (_ ∧ _))

/-- **`ASR_StartController`**, with the flag it reads and whether `pthread_create` succeeds. -/
def asrStartController (enabled created : Bool) (s : Lifecycle) : Lifecycle :=
  if !enabled then s
  else
    let s := { s with shutdownRequested := false }
    if created then
      { s with controllerTid := s.nextTid,
               threads := Function.update s.threads s.nextTid (some .check),
               nextTid := s.nextTid + 1 }
    else s

/-- **`ASR_Shutdown`** up to its `pthread_join`: raise the flag, and wait if a thread is recorded. -/
def asrShutdown (s : Lifecycle) : Lifecycle :=
  { s with shutdownRequested := true, joining := s.controllerTid ≠ 0 }

/-- `pthread_join` returns once the recorded thread has returned; then `asr_controller_tid = 0`. -/
def joinController (s : Lifecycle) : Option Lifecycle :=
  if s.joining ∧ s.threads s.controllerTid = some .exited then
    some { s with controllerTid := 0, joining := false }
  else none

/-- The next point of `asr_controller_main` after `pc`, under the flag; `none` once it has returned. -/
def ControllerPc.next (shutdownRequested : Bool) : ControllerPc → Option ControllerPc
  | .check => some (if shutdownRequested then .exited else .tick)
  | .tick => some .sleep
  | .sleep => some .check
  | .exited => none

/-- One step of controller thread `k` (**`asr_controller_main`**); `none` if it has none to take. -/
def asrControllerMain (k : Nat) (s : Lifecycle) : Option Lifecycle :=
  ((s.threads k).bind (ControllerPc.next s.shutdownRequested)).map fun pc =>
    { s with threads := Function.update s.threads k (some pc) }

inductive LifecycleEvent
  | start (enabled created : Bool)
  | shutdown
  | joined
  | thread (k : Nat)
  deriving DecidableEq, Repr

/-- One event; `none` when it is not enabled (the caller is blocked in the join, or the join cannot
return yet, or the thread has no step). -/
def Lifecycle.step (s : Lifecycle) : LifecycleEvent → Option Lifecycle
  | .start e c => if s.joining then none else some (asrStartController e c s)
  | .shutdown => if s.joining then none else some (asrShutdown s)
  | .joined => joinController s
  | .thread k => asrControllerMain k s

def Lifecycle.run : Lifecycle → List LifecycleEvent → Option Lifecycle
  | s, [] => some s
  | s, ev :: evs => (s.step ev).bind fun s' => s'.run evs

/-- The events after which `ASR_Shutdown` has returned: the join's return, or a shutdown with no thread
recorded. -/
def LifecycleEvent.ShutdownReturns (s : Lifecycle) : LifecycleEvent → Prop
  | .joined => True
  | .shutdown => s.controllerTid = 0
  | _ => False

/-- The states of the schedules in which no start comes while a thread is recorded. -/
inductive Lifecycle.Alternating : Lifecycle → Prop
  | initial : Alternating Lifecycle.initial
  | step {s s' : Lifecycle} (ev : LifecycleEvent) : Alternating s → s.step ev = some s' →
      (∀ e c, ev = .start e c → s.controllerTid = 0) → Alternating s'

/-- What an alternating schedule keeps: every live thread is the recorded one, and `0` is no thread. -/
structure LifecycleInv (s : Lifecycle) : Prop where
  live_recorded : ∀ k, s.Live k → k = s.controllerTid
  no_zero : s.threads 0 = none
  next_pos : 0 < s.nextTid

theorem lifecycleInv_initial : LifecycleInv Lifecycle.initial :=
  ⟨fun _ h => absurd rfl h.1, rfl, Nat.one_pos⟩

/-- A thread that is not live takes no step. -/
theorem controllerMain_eq_none {s : Lifecycle} {k : Nat} (h : ¬ s.Live k) :
    asrControllerMain k s = none := by
  unfold Lifecycle.Live at h
  rcases hk : s.threads k with _ | pc
  · simp [asrControllerMain, hk]
  · cases pc <;> simp_all [asrControllerMain, ControllerPc.next]

/-- A controller step never makes a thread live. -/
theorem live_of_controllerMain {s s' : Lifecycle} {k j : Nat} (h : asrControllerMain k s = some s')
    (hj : s'.Live j) : s.Live j := by
  by_contra hn
  by_cases hjk : j = k
  · subst hjk; rw [controllerMain_eq_none hn] at h; cases h
  · simp only [asrControllerMain, Option.map_eq_some'] at h
    obtain ⟨pc, -, rfl⟩ := h
    exact hn (by simpa [Lifecycle.Live, Function.update_noteq hjk] using hj)

/-- A controller step keeps the globals and leaves thread `0` alone (it is no thread, so it never
steps). -/
theorem controllerMain_globals {s s' : Lifecycle} {k : Nat} (h0 : s.threads 0 = none)
    (h : asrControllerMain k s = some s') :
    s'.controllerTid = s.controllerTid ∧ s'.threads 0 = none ∧ s'.nextTid = s.nextTid := by
  have hk : k ≠ 0 := by
    rintro rfl
    rw [controllerMain_eq_none fun hl => hl.1 h0] at h
    cases h
  simp only [asrControllerMain, Option.map_eq_some'] at h
  obtain ⟨pc, -, rfl⟩ := h
  exact ⟨rfl, (Function.update_noteq (Ne.symm hk) _ _).trans h0, rfl⟩

/-- A start with no thread recorded keeps the invariant: the new thread is the one it records. -/
theorem LifecycleInv.start {s : Lifecycle} (hi : LifecycleInv s) (h0 : s.controllerTid = 0)
    (e c : Bool) : LifecycleInv (asrStartController e c s) := by
  unfold asrStartController
  cases e
  · exact hi
  cases c
  · exact ⟨hi.live_recorded, hi.no_zero, hi.next_pos⟩
  refine ⟨fun j hj => ?_, ?_, Nat.succ_pos _⟩
  · by_contra hjn
    have hs : s.Live j := by
      simpa [Lifecycle.Live, Function.update_noteq (show j ≠ s.nextTid from hjn)] using hj
    exact hs.1 ((hi.live_recorded j hs).trans h0 ▸ hi.no_zero)
  · simpa [Function.update_noteq hi.next_pos.ne] using hi.no_zero

/-- **One step of an alternating schedule keeps the invariant.** -/
theorem LifecycleInv.step {s s' : Lifecycle} (hi : LifecycleInv s) {ev : LifecycleEvent}
    (h : s.step ev = some s') (hd : ∀ e c, ev = .start e c → s.controllerTid = 0) :
    LifecycleInv s' := by
  cases ev with
  | start e c =>
    simp only [Lifecycle.step] at h
    split_ifs at h; cases h
    exact hi.start (hd e c rfl) e c
  | shutdown =>
    simp only [Lifecycle.step] at h
    split_ifs at h; cases h
    exact ⟨hi.live_recorded, hi.no_zero, hi.next_pos⟩
  | joined =>
    simp only [Lifecycle.step, joinController] at h
    split_ifs at h with hj; cases h
    refine ⟨fun k hk => absurd (hi.live_recorded k hk ▸ hj.2) hk.2, hi.no_zero, hi.next_pos⟩
  | thread k =>
    obtain ⟨ht, h0, hn⟩ := controllerMain_globals hi.no_zero h
    exact ⟨fun j hj => ht ▸ hi.live_recorded j (live_of_controllerMain h hj), h0, hn ▸ hi.next_pos⟩

/-- Once `ASR_Shutdown` has returned (the join, or a shutdown with no thread recorded), no thread is
live. -/
theorem LifecycleInv.not_live_of_shutdownReturns {s s' : Lifecycle} (hi : LifecycleInv s)
    {ev : LifecycleEvent} (h : s.step ev = some s') (hret : ev.ShutdownReturns s) (k : Nat) :
    ¬ s'.Live k := by
  cases ev with
  | joined =>
    simp only [Lifecycle.step, joinController] at h
    split_ifs at h with hj; cases h
    exact fun hk => absurd (hi.live_recorded k hk ▸ hj.2) hk.2
  | shutdown =>
    simp only [Lifecycle.step] at h
    split_ifs at h; cases h
    exact fun hk => hk.1 ((hi.live_recorded k hk).trans hret ▸ hi.no_zero)
  | _ => exact hret.elim

theorem Lifecycle.Alternating.inv {s : Lifecycle} (h : s.Alternating) : LifecycleInv s := by
  induction h with
  | initial => exact lifecycleInv_initial
  | step ev _ hstep hd ih => exact ih.step hstep hd

/-- **One controller, and none after shutdown, when starts and shutdowns alternate.** In every
schedule where no `ASR_StartController` comes while a thread is recorded, at most one controller
thread is live; and once `ASR_Shutdown` returns, none is live and none has a step to take (in
particular no tick) until the next start. -/
theorem alternating_single_controller {s : Lifecycle} (hs : s.Alternating) :
    (∀ k k', s.Live k → s.Live k' → k = k') ∧
    ∀ (ev : LifecycleEvent) (s' : Lifecycle), s.step ev = some s' → ev.ShutdownReturns s →
      (∀ k, ¬ s'.Live k) ∧ ∀ k, asrControllerMain k s' = none := by
  have hi := hs.inv
  exact ⟨fun k k' hk hk' => (hi.live_recorded k hk).trans (hi.live_recorded k' hk').symm,
    fun _ _ h hret => ⟨hi.not_live_of_shutdownReturns h hret,
      fun k => controllerMain_eq_none (hi.not_live_of_shutdownReturns h hret k)⟩⟩

/-- Both parts on the schedule of the `Init`-then-`Start` call site: after the first start a single
thread is live; and once `ASR_Shutdown` has asked it to stop, it has seen the flag and returned, and
the join has returned, no thread is live and none takes a step. -/
theorem alternating_single_controller_after_start :
    Lifecycle.Alternating (asrStartController true true Lifecycle.initial) ∧
      (∀ k k', (asrStartController true true Lifecycle.initial).Live k →
        (asrStartController true true Lifecycle.initial).Live k' → k = k') ∧
    ∃ s s' : Lifecycle, Lifecycle.initial.run [.start true true, .shutdown, .thread 1] = some s ∧
      s.Alternating ∧ s.step .joined = some s' ∧ LifecycleEvent.ShutdownReturns s .joined ∧
      (∀ k, ¬ s'.Live k) ∧ ∀ k, asrControllerMain k s' = none := by
  have hs₁ : (asrStartController true true Lifecycle.initial).Alternating :=
    .step (.start true true) .initial rfl fun _ _ _ => rfl
  have hs₃ : Lifecycle.Alternating
      (((asrShutdown (asrStartController true true Lifecycle.initial)).step (.thread 1)).getD
        Lifecycle.initial) :=
    .step (.thread 1) (.step .shutdown hs₁ rfl fun _ _ h => by cases h) rfl fun _ _ h => by cases h
  exact ⟨hs₁, (alternating_single_controller hs₁).1, _, _, rfl, hs₃, rfl, trivial,
    (alternating_single_controller hs₃).2 .joined _ rfl trivial⟩

/-- **Two starts, then a shutdown.** Two `ASR_StartController` calls leave threads `1` and `2` live;
`ASR_Shutdown` joins thread `2` only and returns with thread `1` live; after the next start, thread `1`
runs another tick. -/
theorem two_starts_outlive_shutdown :
    ∃ s s' s'', Lifecycle.initial.run [.start true true, .start true true] = some s ∧
      s.Live 1 ∧ s.Live 2 ∧ s.run [.shutdown, .thread 2, .joined] = some s' ∧ s'.Live 1 ∧
      s'.run [.start true true, .thread 1] = some s'' ∧ s''.threads 1 = some .tick :=
  ⟨_, _, _, rfl, by decide, by decide, rfl, by decide, rfl, rfl⟩

/-! ## After the shutdown request -/

/-- The steps a controller thread has left once `asr_shutdown_requested` is up: the tick it is
about to make, the sleep, and the check that sees the flag. -/
def stepsLeft : Option ControllerPc → Nat
  | some .tick => 3
  | some .sleep => 2
  | some .check => 1
  | some .exited | none => 0

theorem stepsLeft_le_three (pc : Option ControllerPc) : stepsLeft pc ≤ 3 := by
  unfold stepsLeft; split <;> omega

/-- Only a thread about to tick has three steps left. -/
theorem stepsLeft_eq_three {pc : Option ControllerPc} : stepsLeft pc = 3 ↔ pc = some .tick := by
  unfold stepsLeft; split <;> simp

/-- With the flag up, one step of thread `k` takes one of its steps left, and leaves every other
thread where it was. -/
theorem stepsLeft_controllerMain {s s' : Lifecycle} {j : Nat} (hf : s.shutdownRequested = true)
    (h : asrControllerMain j s = some s') (k : Nat) :
    s'.shutdownRequested = true ∧
      stepsLeft (s'.threads k) + (if j = k then 1 else 0) = stepsLeft (s.threads k) := by
  simp only [asrControllerMain, Option.map_eq_some', Option.bind_eq_some] at h
  obtain ⟨pc', ⟨pc, hpc, hnext⟩, rfl⟩ := h
  refine ⟨hf, ?_⟩
  by_cases hjk : j = k
  · subst hjk
    rw [hf] at hnext
    cases pc <;> cases hnext <;> simp [hpc, stepsLeft]
  · simp [Function.update_noteq (Ne.symm hjk), hjk]

/-- **One event after the shutdown request.** Any event but a start keeps the flag up and takes a
step left from thread `k` exactly when it is a step of thread `k`. -/
theorem stepsLeft_step {s s' : Lifecycle} {ev : LifecycleEvent} (hf : s.shutdownRequested = true)
    (h : s.step ev = some s') (hev : ∀ e c, ev ≠ .start e c) (k : Nat) :
    s'.shutdownRequested = true ∧
      stepsLeft (s'.threads k) + (if ev = .thread k then 1 else 0) = stepsLeft (s.threads k) := by
  cases ev with
  | start e c => exact absurd rfl (hev e c)
  | shutdown =>
    simp only [Lifecycle.step] at h
    split_ifs at h; cases h
    simp [asrShutdown]
  | joined =>
    simp only [Lifecycle.step, joinController] at h
    split_ifs at h; cases h
    simpa using hf
  | thread j => simpa using stepsLeft_controllerMain hf h k

/-- **Every controller thread stops within three of its own steps of a shutdown request, and
ticks at most once more.** From any state with `asr_shutdown_requested` up — in particular right
after `ASR_Shutdown`, however many controller threads earlier starts have left running — along every
schedule with no `ASR_StartController`, the flag stays up and the steps thread `k` takes plus the
steps it has left add up to those it had: at most three, so it has returned after them. A thread that
was not about to tick when the flag went up never comes to tick again. -/
theorem shutdown_bounds_controller {s : Lifecycle} (hf : s.shutdownRequested = true) (k : Nat) :
    ∀ (evs : List LifecycleEvent) (s' : Lifecycle), s.run evs = some s' →
      (∀ e c, LifecycleEvent.start e c ∉ evs) →
      s'.shutdownRequested = true ∧
        evs.count (.thread k) + stepsLeft (s'.threads k) = stepsLeft (s.threads k) ∧
        stepsLeft (s.threads k) ≤ 3 ∧
        (s.threads k ≠ some .tick → s'.threads k ≠ some .tick) := by
  intro evs
  induction evs generalizing s with
  | nil =>
    rintro s' ⟨⟩ -
    exact ⟨hf, by simp, stepsLeft_le_three _, id⟩
  | cons ev evs ih =>
    intro s' h hst
    simp only [Lifecycle.run, Option.bind_eq_some] at h
    obtain ⟨s₁, h₁, hrun⟩ := h
    obtain ⟨hf₁, hk₁⟩ := stepsLeft_step hf h₁
      (fun e c he => hst e c (he ▸ List.mem_cons_self _ _)) k
    obtain ⟨hf', hcount, -, -⟩ :=
      ih hf₁ s' hrun fun e c he => hst e c (List.mem_cons_of_mem _ he)
    have hcons : (ev :: evs).count (.thread k) =
        evs.count (.thread k) + if ev = .thread k then 1 else 0 := by
      simp only [List.count_cons, beq_iff_eq]
    refine ⟨hf', by omega, stepsLeft_le_three _, fun hnt ht' => ?_⟩
    -- a thread at `tick` has three steps left, more than any other point gives
    have h₃ := stepsLeft_eq_three.mpr ht'
    have hlt := mt stepsLeft_eq_three.mp hnt
    have := stepsLeft_le_three (s.threads k)
    omega

/-- Two starts, then `ASR_Shutdown`: thread `1`, which the join does not wait for, returns after one
step of its own. -/
theorem shutdown_bounds_controller_after_two_starts :
    ∃ s', (asrShutdown (asrStartController true true
        (asrStartController true true Lifecycle.initial))).run [.thread 2, .thread 1, .joined] =
          some s' ∧
      s'.shutdownRequested = true ∧
      [LifecycleEvent.thread 2, .thread 1, .joined].count (.thread 1) + stepsLeft (s'.threads 1) =
        stepsLeft ((asrShutdown (asrStartController true true
          (asrStartController true true Lifecycle.initial))).threads 1) ∧
      stepsLeft ((asrShutdown (asrStartController true true
          (asrStartController true true Lifecycle.initial))).threads 1) ≤ 3 ∧
      ((asrShutdown (asrStartController true true
          (asrStartController true true Lifecycle.initial))).threads 1 ≠ some .tick →
        s'.threads 1 ≠ some .tick) :=
  ⟨_, rfl, shutdown_bounds_controller rfl 1 _ _ rfl (by decide)⟩

end AdaptiveSR
