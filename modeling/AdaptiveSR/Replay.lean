import AdaptiveSR.Counters

/-!
# `AdaptiveSR.Replay` — the budgeted WAL replay loop of `ApplyXlogUntil`.

The budget is consumed by `ApplyXlogUntil` in `wal_redo.c`. The notes *Adaptive Smart Replay (ASR)
Implementation for OpenAurora* give its replay loop, under "FILE 3: wal_redo.c (MODIFIED)", before
the change and after it. After the change the loop reads `replay_budget = ASR_GetCurrentBudget()`
once, and after each applied record counts it, calls `ASR_RecordReplayTask(1)` and `break`s once
`records_replayed >= replay_budget`; the caller invokes it again.

A record is of any type `α` with its end LSN `endOf`, the pages of any type `σ`, and `rm_redo` any
function `redo`: what is proved holds for every WAL and every redo routine. `replayN k` (read and
apply the next `k` records) is the specification both loops are measured against.

* One call replays exactly the first `min (max budget 1) N` of the `N` records the old loop replays,
  in order, and adds that many to `replay_tasks_count` when the flag is set
  (`replayBudgeted_eq_replayN`). A budget `≤ 0` still replays one record.
* The old loop run after any number of budgeted calls ends where the old loop ends, and `N` calls
  with any budgets reach that end (`replayCalls_eq_replayPlain`): the budget changes how the replay is
  sliced, never which records are replayed or in what order.
* In the running system the budget read is at least one, so a call replays `min current_budget N`
  records, and its effect on the ASR state is that many `ASR_RecordReplayTask(1)` operations: every
  invariant of the reachable states survives the replay (`applyXlogUntil_reachable`).
* `ASR_GetCurrentBudget` does not read `enable_adaptive_sr`, and the shipped configuration has it
  clear. With the flag clear from the start the counters never move, no tick moves the budget off
  `BMIN`, and every call replays at most `10` records (`shipped_config_throttles_replay`).
-/

namespace AdaptiveSR

/-- The replay side of `ApplyXlogUntil`: the WAL records `XLogReadRecord` has not returned yet,
`reader_state->EndRecPtr` (the end of the last record read), and the pages as the redo routines
have left them. -/
structure RedoState (α σ : Type) where
  pending : List α
  endRecPtr : Nat
  store : σ

section Replay

variable {α σ : Type} (endOf : α → Nat) (redo : σ → α → σ)

/-- The loop of `ApplyXlogUntil` before the change: while `EndRecPtr < lsn`, read
the next record (`break` at `NULL`: no WAL left) and apply it with `rm_redo`. -/
def replayPlain (lsn : Nat) : List α → Nat → σ → RedoState α σ
  | pending, endRecPtr, store =>
    if endRecPtr < lsn then
      match pending with
      | [] => ⟨[], endRecPtr, store⟩
      | x :: xs => replayPlain lsn xs (endOf x) (redo store x)
    else ⟨pending, endRecPtr, store⟩

/-- The loop after the change, from `records_replayed = n`: each applied record is
counted, recorded with `ASR_RecordReplayTask(1)` under the configuration `cfg` in force, and the
loop `break`s once `records_replayed >= replay_budget`. -/
def replayBudgeted (cfg : ASRConfig) (lsn : Nat) (replayBudget : Int) :
    Nat → List α → Nat → σ → ASRMetricsInternal → RedoState α σ × ASRMetricsInternal
  | n, pending, endRecPtr, store, m =>
    if endRecPtr < lsn then
      match pending with
      | [] => (⟨[], endRecPtr, store⟩, m)
      | x :: xs =>
        if replayBudget ≤ ((n + 1 : Nat) : Int) then
          (⟨xs, endOf x, redo store x⟩, asrRecordReplayTask cfg 1 m)
        else
          replayBudgeted cfg lsn replayBudget (n + 1) xs (endOf x) (redo store x)
            (asrRecordReplayTask cfg 1 m)
    else (⟨pending, endRecPtr, store⟩, m)

/-- **`ApplyXlogUntil(lsn)`** after the change: `replay_budget = ASR_GetCurrentBudget()`,
`records_replayed = 0`, then the loop. -/
def applyXlogUntil (cfg : ASRConfig) (lsn : Nat) (s : RedoState α σ) (m : ASRMetricsInternal) :
    RedoState α σ × ASRMetricsInternal :=
  replayBudgeted endOf redo cfg lsn (asrGetCurrentBudget m) 0 s.pending s.endRecPtr s.store m

/-- The caller invoking `ApplyXlogUntil(lsn)` again after each `break`; each call reads the budget
the controller has published by then, `bs` lists them. -/
def replayCalls (cfg : ASRConfig) (lsn : Nat) :
    List Int → RedoState α σ → ASRMetricsInternal → RedoState α σ × ASRMetricsInternal
  | [], s, m => (s, m)
  | b :: bs, s, m =>
    replayCalls cfg lsn bs
      (replayBudgeted endOf redo cfg lsn b 0 s.pending s.endRecPtr s.store m).1
      (replayBudgeted endOf redo cfg lsn b 0 s.pending s.endRecPtr s.store m).2

/-! ## §1 — the specification: the next `k` records -/

/-- Read and apply the next `k` records, in order (fewer if the WAL read so far runs out). -/
def replayN : Nat → RedoState α σ → RedoState α σ
  | 0, s => s
  | _ + 1, ⟨[], endRecPtr, store⟩ => ⟨[], endRecPtr, store⟩
  | k + 1, ⟨x :: xs, _, store⟩ => replayN k ⟨xs, endOf x, redo store x⟩

/-- How many records the old loop replays from `EndRecPtr = endRecPtr`: those it reads while the end
of the previous one is below `lsn`. -/
def replayCount (lsn : Nat) : List α → Nat → Nat
  | [], _ => 0
  | x :: xs, endRecPtr => if endRecPtr < lsn then replayCount lsn xs (endOf x) + 1 else 0

/-- The old loop replays exactly its `replayCount` records. -/
theorem replayPlain_eq_replayN (lsn : Nat) (s : RedoState α σ) :
    replayPlain endOf redo lsn s.pending s.endRecPtr s.store =
      replayN endOf redo (replayCount endOf lsn s.pending s.endRecPtr) s := by
  obtain ⟨pending, endRecPtr, store⟩ := s
  induction pending generalizing endRecPtr store with
  | nil => rw [replayPlain]; split_ifs <;> rfl
  | cons x xs ih =>
    rw [replayPlain, replayCount]
    split_ifs
    · exact ih _ _
    · rfl

/-- `ASR_RecordReplayTask(1)` called `k` times adds `k` to the counter when the flag is set. -/
theorem asrRecordReplayTask_one_iterate (cfg : ASRConfig) (k : Nat) (m : ASRMetricsInternal) :
    (asrRecordReplayTask cfg 1)^[k] m =
      if cfg.enableAdaptiveSr then { m with replayTasksCount := m.replayTasksCount + UInt64.ofNat k }
      else m := by
  induction k with
  | zero => split_ifs <;> simp
  | succ k ih =>
    rw [Function.iterate_succ_apply', ih]
    cases h : cfg.enableAdaptiveSr <;> simp [asrRecordReplayTask, h, uint64_ofNat_add, add_assoc]

/-- **One budgeted call replays the first `min (max (budget − n) 1) N` records** of the `N` the old
loop replays, and calls `ASR_RecordReplayTask(1)` once for each. -/
theorem replayBudgeted_eq_replayN (cfg : ASRConfig) (lsn : Nat) (b : Int) (n : Nat)
    (pending : List α) (endRecPtr : Nat) (store : σ) (m : ASRMetricsInternal) :
    replayBudgeted endOf redo cfg lsn b n pending endRecPtr store m =
      (replayN endOf redo (min (max (b - n) 1).toNat (replayCount endOf lsn pending endRecPtr))
          ⟨pending, endRecPtr, store⟩,
        (asrRecordReplayTask cfg 1)^[min (max (b - n) 1).toNat
          (replayCount endOf lsn pending endRecPtr)] m) := by
  induction pending generalizing n endRecPtr store m with
  | nil => rw [replayBudgeted]; simp only [replayCount, min_zero]; split_ifs <;> rfl
  | cons x xs ih =>
    rw [replayBudgeted, replayCount]
    by_cases hp : endRecPtr < lsn
    · simp only [if_pos hp]
      split_ifs with hb
      · -- `records_replayed` reaches the budget with this record
        rw [show min (max (b - n) 1).toNat (replayCount endOf lsn xs (endOf x) + 1) = 1 by omega]
        rfl
      · rw [ih, show min (max (b - n) 1).toNat (replayCount endOf lsn xs (endOf x) + 1) =
            min (max (b - ↑(n + 1)) 1).toNat (replayCount endOf lsn xs (endOf x)) + 1 by omega,
          Function.iterate_succ_apply]
        rfl
    · simp only [if_neg hp, min_zero]
      rfl

/-! ## §2 — composing the calls -/

/-- The next `j + k` records are the next `j`, then the `k` after them. -/
theorem replayN_add (j k : Nat) (s : RedoState α σ) :
    replayN endOf redo (j + k) s = replayN endOf redo k (replayN endOf redo j s) := by
  induction j generalizing s with
  | zero => rw [Nat.zero_add]; rfl
  | succ j ih =>
    obtain ⟨_ | ⟨x, xs⟩, p, st⟩ := s
    · cases k <;> rfl
    · rw [Nat.succ_add]; exact ih _

/-- After `j` of its records the old loop has `N − j` left. -/
theorem replayCount_replayN (lsn : Nat) {j : Nat} {s : RedoState α σ}
    (hj : j ≤ replayCount endOf lsn s.pending s.endRecPtr) :
    replayCount endOf lsn (replayN endOf redo j s).pending (replayN endOf redo j s).endRecPtr =
      replayCount endOf lsn s.pending s.endRecPtr - j := by
  induction j generalizing s with
  | zero => rfl
  | succ j ih =>
    obtain ⟨_ | ⟨x, xs⟩, p, st⟩ := s
    · simp [replayCount] at hj
    · simp only [replayCount] at hj ⊢
      split_ifs at hj ⊢ with hp
      · exact (ih (by simpa using hj)).trans (by dsimp only; omega)
      · omega

/-- Replaying `min a N` and then `min S` of the `N − min a N` left is replaying `min (a + S) N`. -/
theorem min_add_min_sub_min (a S N : Nat) : min a N + min S (N - min a N) = min (a + S) N := by
  omega

/-- **Successive calls replay the first `min (Σ max budget 1) N` records**, in order, and record each
once. -/
theorem replayCalls_eq_replayN (cfg : ASRConfig) (lsn : Nat) :
    ∀ (bs : List Int) (s : RedoState α σ) (m : ASRMetricsInternal),
      replayCalls endOf redo cfg lsn bs s m =
        (replayN endOf redo (min (bs.map fun b => (max b 1).toNat).sum
            (replayCount endOf lsn s.pending s.endRecPtr)) s,
          (asrRecordReplayTask cfg 1)^[min (bs.map fun b => (max b 1).toNat).sum
            (replayCount endOf lsn s.pending s.endRecPtr)] m)
  | [], s, m => by simp [replayCalls, replayN]
  | b :: bs, ⟨pending, p, st⟩, m => by
    rw [replayCalls, replayBudgeted_eq_replayN, replayCalls_eq_replayN cfg lsn bs,
      replayCount_replayN _ _ _ (min_le_right _ _)]
    simp only [Int.Nat.cast_ofNat_Int, sub_zero, List.map_cons, List.sum_cons]
    rw [← replayN_add, ← Function.iterate_add_apply, add_comm (min _ (_ - _)),
      min_add_min_sub_min]

/-- **Budgeting never changes what is replayed.** For every WAL, every redo routine and every list
of budgets the successive calls read: the old loop run after the calls ends where the old loop ends;
a call that reads a budget `≤ 0` still replays one record (if the old loop replays any); and once
there have been as many calls as the old loop replays records, the calls alone have reached that end
and have added each record once to `replay_tasks_count` when the flag is set. -/
theorem replayCalls_eq_replayPlain (cfg : ASRConfig) (lsn : Nat) (bs : List Int)
    (s : RedoState α σ) (m : ASRMetricsInternal) :
    replayPlain endOf redo lsn (replayCalls endOf redo cfg lsn bs s m).1.pending
        (replayCalls endOf redo cfg lsn bs s m).1.endRecPtr
        (replayCalls endOf redo cfg lsn bs s m).1.store =
      replayPlain endOf redo lsn s.pending s.endRecPtr s.store ∧
    (∀ b : Int, b ≤ 0 → (replayCalls endOf redo cfg lsn [b] s m).1 =
      replayN endOf redo (min 1 (replayCount endOf lsn s.pending s.endRecPtr)) s) ∧
    (replayCount endOf lsn s.pending s.endRecPtr ≤ bs.length →
      replayCalls endOf redo cfg lsn bs s m =
        (replayPlain endOf redo lsn s.pending s.endRecPtr s.store,
          if cfg.enableAdaptiveSr then
            { m with
              replayTasksCount :=
                m.replayTasksCount + UInt64.ofNat (replayCount endOf lsn s.pending s.endRecPtr) }
          else m)) := by
  -- a budget `≤ 0` is raised to one record by the `>=` test after the first
  have hone : ∀ b : Int, b ≤ 0 → (replayCalls endOf redo cfg lsn [b] s m).1 =
      replayN endOf redo (min 1 (replayCount endOf lsn s.pending s.endRecPtr)) s := fun b hb => by
    rw [replayCalls_eq_replayN, List.map_singleton, List.sum_singleton,
      show (max b 1).toNat = 1 by omega]
  rw [replayCalls_eq_replayN, replayPlain_eq_replayN, replayPlain_eq_replayN,
    replayCount_replayN _ _ _ (min_le_right _ _), ← replayN_add]
  refine ⟨by rw [Nat.add_sub_cancel' (min_le_right _ _)], hone, fun hN => ?_⟩
  -- every call replays at least one record, so the budgets add up to at least `bs.length`
  have hsum : bs.length ≤ (bs.map fun b => (max b 1).toNat).sum := by
    rw [← List.length_map bs fun b => (max b 1).toNat]
    exact List.length_le_sum_of_one_le _ fun _ hi => by
      obtain ⟨b, -, rfl⟩ := List.mem_map.mp hi
      omega
  rw [min_eq_right (hN.trans hsum), asrRecordReplayTask_one_iterate]

end Replay

/-- Three calls with budgets `0`, `2` and `7` over a WAL whose first three records end below the
target; the first call alone replays one record. -/
theorem replayCalls_eq_replayPlain_three_calls :
    replayPlain id (fun l x => x :: l) 3
        (replayCalls id (fun l x => x :: l) asrDefaultConfig 3 [0, 2, 7]
          (⟨[1, 2, 3, 4], 0, []⟩ : RedoState Nat (List Nat)) asrMetricsStatic).1.pending
        (replayCalls id (fun l x => x :: l) asrDefaultConfig 3 [0, 2, 7]
          (⟨[1, 2, 3, 4], 0, []⟩ : RedoState Nat (List Nat)) asrMetricsStatic).1.endRecPtr
        (replayCalls id (fun l x => x :: l) asrDefaultConfig 3 [0, 2, 7]
          (⟨[1, 2, 3, 4], 0, []⟩ : RedoState Nat (List Nat)) asrMetricsStatic).1.store =
      replayPlain id (fun l x => x :: l) 3 [1, 2, 3, 4] 0 [] ∧
    (0 : Int) ≤ 0 ∧
    (replayCalls id (fun l x => x :: l) asrDefaultConfig 3 [0]
        (⟨[1, 2, 3, 4], 0, []⟩ : RedoState Nat (List Nat)) asrMetricsStatic).1 =
      replayN id (fun l x => x :: l) (min 1 (replayCount id 3 [1, 2, 3, 4] 0)) ⟨[1, 2, 3, 4], 0, []⟩ ∧
    replayCount id 3 [1, 2, 3, 4] 0 ≤ [0, 2, 7].length ∧
    replayCalls id (fun l x => x :: l) asrDefaultConfig 3 [0, 2, 7]
        (⟨[1, 2, 3, 4], 0, []⟩ : RedoState Nat (List Nat)) asrMetricsStatic =
      (replayPlain id (fun l x => x :: l) 3 [1, 2, 3, 4] 0 [],
        if asrDefaultConfig.enableAdaptiveSr then
          { asrMetricsStatic with
            replayTasksCount :=
              asrMetricsStatic.replayTasksCount + UInt64.ofNat (replayCount id 3 [1, 2, 3, 4] 0) }
        else asrMetricsStatic) :=
  ⟨(replayCalls_eq_replayPlain id (fun l x => x :: l) asrDefaultConfig 3 [0, 2, 7]
      ⟨[1, 2, 3, 4], 0, []⟩ asrMetricsStatic).1, le_rfl,
    (replayCalls_eq_replayPlain id (fun l x => x :: l) asrDefaultConfig 3 [0, 2, 7]
      ⟨[1, 2, 3, 4], 0, []⟩ asrMetricsStatic).2.1 0 le_rfl, by decide,
    (replayCalls_eq_replayPlain id (fun l x => x :: l) asrDefaultConfig 3 [0, 2, 7]
      ⟨[1, 2, 3, 4], 0, []⟩ asrMetricsStatic).2.2 (by decide)⟩

/-! ## §3 — the replay in the running system -/

section ReplaySystem

variable {α σ : Type} (endOf : α → Nat) (redo : σ → α → σ)

/-- The metrics side of a call, as steps of the process state: `k` operations
`ASR_RecordReplayTask(1)`. -/
theorem step_recordReplayTask_one_iterate (k : Nat) (s : AsrState) :
    (fun s : AsrState => s.step (.recordReplayTask 1))^[k] s =
      { s with metrics := (asrRecordReplayTask s.config 1)^[k] s.metrics } := by
  induction k with
  | zero => rfl
  | succ k ih => rw [Function.iterate_succ_apply', ih, Function.iterate_succ_apply']; rfl

theorem Reachable.recordReplayTask_one_iterate {s : AsrState} (hs : Reachable s) (k : Nat) :
    Reachable { s with metrics := (asrRecordReplayTask s.config 1)^[k] s.metrics } := by
  rw [← step_recordReplayTask_one_iterate]
  induction k with
  | zero => exact hs
  | succ k ih => rw [Function.iterate_succ_apply']; exact ih.step _ trivial

/-- **`ApplyXlogUntil` in the running system.** In every reachable state the budget is at least one,
and one call replays the first `min current_budget N` of the `N` records the old loop replays, in
order, adds that many to `replay_tasks_count` when the flag is set, and leaves a
reachable state: on the ASR state it acts as that many `ASR_RecordReplayTask(1)` operations. -/
theorem applyXlogUntil_reachable {s : AsrState} (hs : Reachable s) (lsn : Nat)
    (r : RedoState α σ) :
    1 ≤ asrGetCurrentBudget s.metrics ∧
    (applyXlogUntil endOf redo s.config lsn r s.metrics).1 =
        replayN endOf redo (min (asrGetCurrentBudget s.metrics).toNat
          (replayCount endOf lsn r.pending r.endRecPtr)) r ∧
    (applyXlogUntil endOf redo s.config lsn r s.metrics).2 =
        (if s.config.enableAdaptiveSr then
          { s.metrics with
            replayTasksCount := s.metrics.replayTasksCount + UInt64.ofNat
              (min (asrGetCurrentBudget s.metrics).toNat
                (replayCount endOf lsn r.pending r.endRecPtr)) }
        else s.metrics) ∧
    Reachable { s with metrics := (applyXlogUntil endOf redo s.config lsn r s.metrics).2 } := by
  have hpos : 1 ≤ asrGetCurrentBudget s.metrics := (reachable_inv hs).budget_pos
  have hb : max (asrGetCurrentBudget s.metrics - ((0 : Nat) : Int)) 1 =
      asrGetCurrentBudget s.metrics := by
    rw [Nat.cast_zero, sub_zero, max_eq_left hpos]
  rw [applyXlogUntil, replayBudgeted_eq_replayN, hb]
  exact ⟨hpos, rfl, asrRecordReplayTask_one_iterate _ _ _, hs.recordReplayTask_one_iterate _⟩

end ReplaySystem

theorem applyXlogUntil_reachable_at_init :
    1 ≤ asrGetCurrentBudget (asrInit AsrState.static).metrics ∧
    (applyXlogUntil id (fun l x => x :: l) (asrInit AsrState.static).config 3
        (⟨[1, 2, 3, 4], 0, []⟩ : RedoState Nat (List Nat)) (asrInit AsrState.static).metrics).1 =
        replayN id (fun l x => x :: l) (min (asrGetCurrentBudget (asrInit AsrState.static).metrics).toNat
          (replayCount id 3 [1, 2, 3, 4] 0)) ⟨[1, 2, 3, 4], 0, []⟩ ∧
    (applyXlogUntil id (fun l x => x :: l) (asrInit AsrState.static).config 3
        (⟨[1, 2, 3, 4], 0, []⟩ : RedoState Nat (List Nat)) (asrInit AsrState.static).metrics).2 =
        (if (asrInit AsrState.static).config.enableAdaptiveSr then
          { (asrInit AsrState.static).metrics with
            replayTasksCount := (asrInit AsrState.static).metrics.replayTasksCount + UInt64.ofNat
              (min (asrGetCurrentBudget (asrInit AsrState.static).metrics).toNat
                (replayCount id 3 [1, 2, 3, 4] 0)) }
        else (asrInit AsrState.static).metrics) ∧
    Reachable { asrInit AsrState.static with
      metrics := (applyXlogUntil id (fun l x => x :: l) (asrInit AsrState.static).config 3
        (⟨[1, 2, 3, 4], 0, []⟩ : RedoState Nat (List Nat)) (asrInit AsrState.static).metrics).2 } :=
  applyXlogUntil_reachable id (fun l x => x :: l) Reachable.init 3 ⟨[1, 2, 3, 4], 0, []⟩

/-! ## §4 — the shipped configuration -/

/-- A process whose configuration `cfg` has the flag clear and whose counters have never moved:
every counter, loaded local and last total `0`, the EWMAs and the aggressiveness `0`, the budget
`BMIN`. -/
structure IdleState (cfg : ASRConfig) (s : ConcState) : Prop where
  config : s.config = cfg
  counter : ∀ c, s.metrics.counter c = 0
  loaded : ∀ c, s.loaded c = 0
  lastTotal : ∀ c, s.metrics.lastTotal c = 0
  queueEwma : s.metrics.queueEwma = 0
  missRateEwma : s.metrics.missRateEwma = 0
  walBpsEwma : s.metrics.walBpsEwma = 0
  aggressiveness : s.metrics.currentAggressiveness = 0
  budget : s.metrics.currentBudget = cfg.BMIN

/-- A hook under a configuration with the flag clear adds nothing. -/
theorem Ingest.added_of_disabled {cfg : ASRConfig} (hoff : cfg.enableAdaptiveSr = false)
    (i : Ingest) (c : Counter) : i.added cfg c = 0 := by
  cases i <;> cases c <;> simp [Ingest.added, hoff]

/-- An EWMA at `0` fed the sample of a zero delta stays at `0`. -/
theorem ewmaUpdate_zero_delta (lastMeasurement now : Int) :
    ewmaUpdate 0 (((0 : UInt64) - 0).toNat / measurementInterval lastMeasurement now) = 0 := by
  simp [ewmaUpdate_eq]

/-- Zero EWMAs are zero pressures under a well-formed configuration, and the target is `0`. -/
theorem pressures_of_zero_ewmas {cfg : ASRConfig} (hcfg : cfg.WellFormed) {m : ASRMetricsInternal}
    (hq : m.queueEwma = 0) (hm : m.missRateEwma = 0) (hw : m.walBpsEwma = 0) :
    computePressure m.queueEwma cfg.QSTAR = 0 ∧ computePressure m.missRateEwma cfg.RSTAR = 0 ∧
      computePressure m.walBpsEwma cfg.WSTAR = 0 ∧ targetAggressiveness cfg m = 0 := by
  have hq' : computePressure m.queueEwma cfg.QSTAR = 0 := by
    rw [hq, computePressure, if_pos hcfg.qstar_pos.le]
  have hm' : computePressure m.missRateEwma cfg.RSTAR = 0 := by
    rw [hm, computePressure, if_pos hcfg.rstar_pos.le]
  have hw' : computePressure m.walBpsEwma cfg.WSTAR = 0 := by
    rw [hw, computePressure, if_pos hcfg.wstar_pos.le]
  refine ⟨hq', hm', hw', ?_⟩
  rw [targetAggressiveness, hq', hm', hw', weightedAggressiveness_eq, mul_zero, mul_zero, mul_zero,
    add_zero, add_zero, min_eq_left zero_le_one, max_self]

section Idle

variable {cfg : ASRConfig} (hcfg : cfg.WellFormed) (hoff : cfg.enableAdaptiveSr = false)
include hcfg hoff

/-- **One action keeps the idle state.** Hooks add nothing, loads read `0`, and a tick on loads of
`0` sees zero deltas, zero pressures and target `0`, and republishes `BMIN`. -/
theorem IdleState.step {s : ConcState} (h : IdleState cfg s) {a : ConcAction}
    (ha : ∀ c, a ≠ .update (some c)) : IdleState cfg (s.step a) := by
  cases a with
  | ingest i =>
    -- with the flag clear the hook is the identity
    have hrun : i.run s.config s.metrics = s.metrics := by
      rw [Ingest.run_eq, h.config]; simp [Ingest.added_of_disabled hoff]
    have hs : s.step (.ingest i) = s := by rw [ConcState.step, hrun]
    rw [hs]; exact h
  | load c' =>
    refine ⟨h.config, h.counter, fun c => ?_, h.lastTotal, h.queueEwma, h.missRateEwma,
      h.walBpsEwma, h.aggressiveness, h.budget⟩
    rcases eq_or_ne c c' with rfl | hc
    · simp [ConcState.step, h.counter]
    · simp [ConcState.step, Function.update_noteq hc, h.loaded]
  | tick now =>
    have hz : s.loaded = fun _ => 0 := funext h.loaded
    have ht : s.metrics.lastTotalTasks = 0 := h.lastTotal .replayTasks
    have hw : s.metrics.lastWalBytes = 0 := h.lastTotal .walBytes
    -- the smoothed record: all three EWMAs stay `0`
    have hq' : (smoothMetrics now 0 0 0 s.metrics).queueEwma = 0 := by
      rw [smoothMetrics_queueEwma, h.queueEwma, ht, ewmaUpdate_zero_delta]
    have hm' : (smoothMetrics now 0 0 0 s.metrics).missRateEwma = 0 := by
      rw [smoothMetrics_missRateEwma, h.missRateEwma, ewmaUpdate_eq]; ring
    have hw' : (smoothMetrics now 0 0 0 s.metrics).walBpsEwma = 0 := by
      rw [smoothMetrics_walBpsEwma, h.walBpsEwma, hw, ewmaUpdate_zero_delta]
    -- so every pressure is `0`, the target is `0`, and the aggressiveness stays `0`
    have hT : targetAggressiveness cfg (smoothMetrics now 0 0 0 s.metrics) = 0 :=
      (pressures_of_zero_ewmas hcfg hq' hm' hw').2.2.2
    have hA : (asrUpdateSmoothedMetrics cfg now 0 0 0 s.metrics).currentAggressiveness = 0 := by
      rw [asrUpdateSmoothedMetrics_currentAggressiveness, hT, h.aggressiveness,
        stepLimit_of_abs_le (by rw [sub_self, abs_zero]; exact hcfg.maxStep_pos.le)]
    have hfin : s.finishTick now = asrUpdateSmoothedMetrics cfg now 0 0 0 s.metrics := by
      rw [ConcState.finishTick, hz, h.config]
    refine ⟨h.config, fun c => ?_, h.loaded, fun c => ?_, ?_, ?_, ?_, ?_, ?_⟩ <;>
      simp only [ConcState.step, hfin]
    · rw [asrUpdateSmoothedMetrics_counter, h.counter]
    · rw [asrUpdateSmoothedMetrics_lastTotal]; cases c <;> rfl
    · rw [asrUpdateSmoothedMetrics_queueEwma, hq']
    · rw [asrUpdateSmoothedMetrics_missRateEwma, hm']
    · rw [asrUpdateSmoothedMetrics_walBpsEwma, hw']
    · exact hA
    · rw [asrUpdateSmoothedMetrics_currentBudget, hA, h.budget,
        budgetFromAggressiveness_of_mem le_rfl zero_le_one, zero_mul, add_zero, Int.floor_intCast,
        applyHysteresis_eq]
      split_ifs <;> rfl
  | update c =>
    cases c with
    | none => exact h
    | some c => exact absurd rfl (ha c)

theorem IdleState.run :
    ∀ {s : ConcState} (acts : List ConcAction), IdleState cfg s →
      (∀ c, ConcAction.update (some c) ∉ acts) → IdleState cfg (s.run acts)
  | _, [], h, _ => h
  | _, _ :: acts, h, hacts =>
    IdleState.run acts (h.step hcfg hoff fun c hc => hacts c (hc ▸ List.mem_cons_self _ _))
      fun c hc => hacts c (List.mem_cons_of_mem _ hc)

/-- Every tick of an idle run sees zero deltas: it loads `0` and finds `0` as the last total. -/
theorem IdleState.tickDeltas_eq_zero :
    ∀ {s : ConcState} (acts : List ConcAction), IdleState cfg s →
      (∀ c, ConcAction.update (some c) ∉ acts) → ∀ (c : Counter), ∀ d ∈ tickDeltas c s acts, d = 0
  | _, [], _, _, _, _, hd => absurd hd (List.not_mem_nil _)
  | s, a :: acts, h, hacts, c, d, hd => by
    have hrest := IdleState.tickDeltas_eq_zero acts
      (h.step hcfg hoff fun c' hc => hacts c' (hc ▸ List.mem_cons_self _ _))
      (fun c' hc => hacts c' (List.mem_cons_of_mem _ hc)) c
    cases a with
    | tick now =>
      rcases List.mem_cons.mp hd with rfl | hd
      · rw [h.loaded, h.lastTotal, sub_self]
      · exact hrest d hd
    | _ => exact hrest d hd

end Idle

/-- **The shipped configuration still throttles the replay.** `asr_default_config` has
`enable_adaptive_sr = false`. From the process start after `ASR_Init`, in every interleaving of the
ingest hooks, the controller's loads and ticks (should a controller run) and NULL updates, the process
stays idle: the hooks add nothing, so every counter, loaded local and last total is `0`, every tick
sees zero deltas, the EWMAs stay `0` and with them the three pressures and the target, the
aggressiveness stays `0`, and the budget stays `BMIN = 10`; so every `ApplyXlogUntil` call replays
`min 10 N` of the `N` records the loop before the change replays. -/
theorem shipped_config_throttles_replay {α σ : Type} (endOf : α → Nat) (redo : σ → α → σ)
    (acts : List ConcAction) (hacts : ∀ c, ConcAction.update (some c) ∉ acts) (lsn : Nat)
    (r : RedoState α σ) :
    let s₀ : ConcState := ⟨asrDefaultConfig, (asrInit AsrState.static).metrics, fun _ => 0⟩
    IdleState asrDefaultConfig (s₀.run acts) ∧
      (∀ (c : Counter), ∀ d ∈ tickDeltas c s₀ acts, d = 0) ∧
      (computePressure (s₀.run acts).metrics.queueEwma asrDefaultConfig.QSTAR = 0 ∧
        computePressure (s₀.run acts).metrics.missRateEwma asrDefaultConfig.RSTAR = 0 ∧
        computePressure (s₀.run acts).metrics.walBpsEwma asrDefaultConfig.WSTAR = 0 ∧
        targetAggressiveness asrDefaultConfig (s₀.run acts).metrics = 0) ∧
      asrGetCurrentBudget (s₀.run acts).metrics = 10 ∧
      (applyXlogUntil endOf redo asrDefaultConfig lsn r (s₀.run acts).metrics).1 =
        replayN endOf redo (min 10 (replayCount endOf lsn r.pending r.endRecPtr)) r := by
  intro s₀
  have hcfg := asrDefaultConfig_wellFormed
  have h₀ : IdleState asrDefaultConfig s₀ :=
    ⟨rfl, fun c => by cases c <;> rfl, fun _ => rfl, fun c => by cases c <;> rfl, rfl, rfl, rfl, rfl, rfl⟩
  have h := h₀.run hcfg rfl acts hacts
  have hb : asrGetCurrentBudget (s₀.run acts).metrics = 10 := h.budget
  refine ⟨h, h₀.tickDeltas_eq_zero hcfg rfl acts hacts,
    pressures_of_zero_ewmas hcfg h.queueEwma h.missRateEwma h.walBpsEwma, hb, ?_⟩
  rw [applyXlogUntil, replayBudgeted_eq_replayN, hb]
  rfl

/-- A hot miss, the controller's three loads and a tick: the process stays idle, and the budget
stays `10`. -/
theorem shipped_config_throttles_replay_one_tick :
    (∀ c, ConcAction.update (some c) ∉
      [.ingest .recordHotMiss, .load .replayTasks, .load .hotMisses, .load .walBytes, .tick 1]) ∧
    let s₀ : ConcState := ⟨asrDefaultConfig, (asrInit AsrState.static).metrics, fun _ => 0⟩
    let acts : List ConcAction :=
      [.ingest .recordHotMiss, .load .replayTasks, .load .hotMisses, .load .walBytes, .tick 1]
    IdleState asrDefaultConfig (s₀.run acts) ∧
      (∀ (c : Counter), ∀ d ∈ tickDeltas c s₀ acts, d = 0) ∧
      (computePressure (s₀.run acts).metrics.queueEwma asrDefaultConfig.QSTAR = 0 ∧
        computePressure (s₀.run acts).metrics.missRateEwma asrDefaultConfig.RSTAR = 0 ∧
        computePressure (s₀.run acts).metrics.walBpsEwma asrDefaultConfig.WSTAR = 0 ∧
        targetAggressiveness asrDefaultConfig (s₀.run acts).metrics = 0) ∧
      asrGetCurrentBudget (s₀.run acts).metrics = 10 ∧
      (applyXlogUntil id (fun l x => x :: l) asrDefaultConfig 3
          (⟨[1, 2, 3, 4], 0, []⟩ : RedoState Nat (List Nat)) (s₀.run acts).metrics).1 =
        replayN id (fun l x => x :: l) (min 10 (replayCount id 3 [1, 2, 3, 4] 0))
          ⟨[1, 2, 3, 4], 0, []⟩ := by
  have hacts : ∀ c, ConcAction.update (some c) ∉
      [.ingest .recordHotMiss, .load .replayTasks, .load .hotMisses, .load .walBytes, .tick 1] := by
    simp
  exact ⟨hacts, shipped_config_throttles_replay id (fun l x => x :: l) _ hacts 3 ⟨[1, 2, 3, 4], 0, []⟩⟩

end AdaptiveSR
