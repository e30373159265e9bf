import Mathlib.Data.UInt
import AdaptiveSR.Control

/-!
# `AdaptiveSR.Metrics` — the metrics record, the ingest hooks and the controller tick.

`ASRMetricsInternal` is the C struct of `adaptive_sr.c` without its `metrics_lock`: every accessor
takes that mutex and releases it around its whole body, so each accessor is one step here. The three
raw counters are `uint64_t` and wrap; the smoothed values are exact rationals.

`asrUpdateSmoothedMetrics` is the tick, built from the two halves the C code separates by comments:
`smoothMetrics` (lines 256–303) and `controlStep` (lines 305–343). The smoother updates the record in
the order the C code does, field by field, so that line 286 compares `total_tasks` with the
`last_total_tasks` that line 278 has just overwritten. The three totals a tick loads are parameters:
each is an atomic load racing with the ingest hooks, so the results hold for every value.
The verbose log line (lines 348–359) changes no state and is left out.
-/

namespace AdaptiveSR

/-- **`ASRMetricsInternal`** (its `metrics_lock` aside). -/
@[ext] structure ASRMetricsInternal where
  replayTasksCount : UInt64
  hotMisses : UInt64
  walBytesReceived : UInt64
  queueEwma : ℚ
  missRateEwma : ℚ
  walBpsEwma : ℚ
  currentBudget : Int
  currentAggressiveness : ℚ
  lastTotalMisses : UInt64
  lastTotalTasks : UInt64
  lastWalBytes : UInt64
  lastMeasurement : Int
  deriving DecidableEq, Repr

/-- The static initialiser of `asr_metrics`. -/
def asrMetricsStatic : ASRMetricsInternal where
  replayTasksCount := 0
  hotMisses := 0
  walBytesReceived := 0
  queueEwma := 0
  missRateEwma := 0
  walBpsEwma := 0
  currentBudget := 100
  currentAggressiveness := 0
  lastTotalMisses := 0
  lastTotalTasks := 0
  lastWalBytes := 0
  lastMeasurement := 0

/-! ## §1 — the ingest hooks and the readers -/

/-- **`ASR_RecordReplayTask`**: add `count` when enabled and `count > 0`. -/
def asrRecordReplayTask (cfg : ASRConfig) (count : Int) (m : ASRMetricsInternal) :
    ASRMetricsInternal :=
  if !cfg.enableAdaptiveSr || count ≤ 0 then m
  else { m with replayTasksCount := m.replayTasksCount + UInt64.ofNat count.toNat }

/-- **`ASR_RecordHotMiss`**: add one when enabled. -/
def asrRecordHotMiss (cfg : ASRConfig) (m : ASRMetricsInternal) : ASRMetricsInternal :=
  if !cfg.enableAdaptiveSr then m
  else { m with hotMisses := m.hotMisses + 1 }

/-- **`ASR_RecordWalIngest`**: add `bytes` (a `size_t`) when enabled and `bytes ≠ 0`. -/
def asrRecordWalIngest (cfg : ASRConfig) (bytes : UInt64) (m : ASRMetricsInternal) :
    ASRMetricsInternal :=
  if !cfg.enableAdaptiveSr || bytes == 0 then m
  else { m with walBytesReceived := m.walBytesReceived + bytes }

/-- **`ASR_GetCurrentBudget`**. -/
def asrGetCurrentBudget (m : ASRMetricsInternal) : Int := m.currentBudget

/-- **`ASR_SetBudget`**. -/
def asrSetBudget (budget : Int) (m : ASRMetricsInternal) : ASRMetricsInternal :=
  { m with currentBudget := budget }

/-- **`ASRMetrics`** (`adaptive_sr.h`), the snapshot `ASR_ReadMetrics` returns. -/
structure ASRMetrics where
  replayQueueLength : ℚ
  hotMissRate : ℚ
  walIngestBps : ℚ
  lastUpdate : Int
  aggressiveness : ℚ
  replayBudget : Int
  deriving DecidableEq, Repr

/-- **`ASR_ReadMetrics`**. -/
def asrReadMetrics (m : ASRMetricsInternal) : ASRMetrics where
  replayQueueLength := m.queueEwma
  hotMissRate := m.missRateEwma
  walIngestBps := m.walBpsEwma
  lastUpdate := m.lastMeasurement
  aggressiveness := m.currentAggressiveness
  replayBudget := m.currentBudget

/-! ## §2 — the controller tick -/

/-- Lines 259–264: seconds since the last measurement, `1` on the first tick, at least `0.1`. -/
def measurementInterval (lastMeasurement now : Int) : ℚ :=
  let dt : ℚ := if lastMeasurement = 0 then 1 else ((now - lastMeasurement : Int) : ℚ)
  if dt < 0.1 then 0.1 else dt

theorem measurementInterval_pos (lastMeasurement now : Int) :
    0 < measurementInterval lastMeasurement now := by
  dsimp only [measurementInterval]
  generalize (if lastMeasurement = 0 then (1 : ℚ) else ((now - lastMeasurement : Int) : ℚ)) = dt
  split_ifs with h
  · norm_num
  · exact lt_of_lt_of_le (by norm_num) (not_lt.mp h)

/-- Lines 256–303: the smoother. Each block reads the record as the previous block left it. -/
def smoothMetrics (now : Int) (totalTasks totalMisses totalWalBytes : UInt64)
    (m : ASRMetricsInternal) : ASRMetricsInternal :=
  let dt := measurementInterval m.lastMeasurement now
  let tasksDelta := totalTasks - m.lastTotalTasks
  let newQueue : ℚ := if dt > 0 then (tasksDelta.toNat : ℚ) / dt else 0
  let m := { m with queueEwma := ewmaUpdate m.queueEwma newQueue, lastTotalTasks := totalTasks }
  let missesDelta := totalMisses - m.lastTotalMisses
  let newMissRate : ℚ :=
    if totalTasks > m.lastTotalTasks then
      (missesDelta.toNat : ℚ) / ((tasksDelta + 1).toNat : ℚ)
    else 0
  let m := { m with missRateEwma := ewmaUpdate m.missRateEwma newMissRate,
                    lastTotalMisses := totalMisses }
  let walDelta := totalWalBytes - m.lastWalBytes
  let newWalBps : ℚ := if dt > 0 then (walDelta.toNat : ℚ) / dt else 0
  { m with walBpsEwma := ewmaUpdate m.walBpsEwma newWalBps, lastWalBytes := totalWalBytes }

/-- Lines 308–317: the tick's target aggressiveness `T = clamp(WQ·e_q + WM·e_m + WW·e_w, 0, 1)`,
from the smoothed values. -/
def targetAggressiveness (cfg : ASRConfig) (m : ASRMetricsInternal) : ℚ :=
  weightedAggressiveness cfg (computePressure m.queueEwma cfg.QSTAR)
    (computePressure m.missRateEwma cfg.RSTAR) (computePressure m.walBpsEwma cfg.WSTAR)

/-- Lines 305–342: pressures, step-limited aggressiveness, budget with hysteresis. -/
def controlStep (cfg : ASRConfig) (m : ASRMetricsInternal) : ASRMetricsInternal :=
  let aggressiveness := stepLimit m.currentAggressiveness (targetAggressiveness cfg m) cfg.MAX_STEP
  let newBudget := budgetFromAggressiveness aggressiveness cfg
  { m with currentAggressiveness := aggressiveness,
           currentBudget := applyHysteresis newBudget m.currentBudget cfg.HYST }

/-- **`asr_update_smoothed_metrics`**, under the configuration `cfg` it read, at clock reading `now`,
with the three counter values its atomic loads returned. -/
def asrUpdateSmoothedMetrics (cfg : ASRConfig) (now : Int)
    (totalTasks totalMisses totalWalBytes : UInt64) (m : ASRMetricsInternal) :
    ASRMetricsInternal :=
  { controlStep cfg (smoothMetrics now totalTasks totalMisses totalWalBytes m) with
    lastMeasurement := now }

/-! ## §3 — what one tick does to each field -/

section Tick

variable (cfg : ASRConfig) (now : Int) (t q w : UInt64) (m : ASRMetricsInternal)

@[simp] theorem smoothMetrics_currentAggressiveness :
    (smoothMetrics now t q w m).currentAggressiveness = m.currentAggressiveness := rfl

@[simp] theorem smoothMetrics_currentBudget :
    (smoothMetrics now t q w m).currentBudget = m.currentBudget := rfl

theorem smoothMetrics_queueEwma :
    (smoothMetrics now t q w m).queueEwma = ewmaUpdate m.queueEwma
      (((t - m.lastTotalTasks).toNat : ℚ) / measurementInterval m.lastMeasurement now) := by
  simp only [smoothMetrics, gt_iff_lt, measurementInterval_pos, if_true]

/-- The miss sample is always `0`: line 286 compares `total_tasks` with itself. -/
theorem smoothMetrics_missRateEwma :
    (smoothMetrics now t q w m).missRateEwma = ewmaUpdate m.missRateEwma 0 := by
  simp only [smoothMetrics, gt_iff_lt, UInt64.lt_irrefl, if_false]

theorem smoothMetrics_walBpsEwma :
    (smoothMetrics now t q w m).walBpsEwma = ewmaUpdate m.walBpsEwma
      (((w - m.lastWalBytes).toNat : ℚ) / measurementInterval m.lastMeasurement now) := by
  simp only [smoothMetrics, gt_iff_lt, measurementInterval_pos, if_true]

@[simp] theorem asrUpdateSmoothedMetrics_currentAggressiveness :
    (asrUpdateSmoothedMetrics cfg now t q w m).currentAggressiveness =
      stepLimit m.currentAggressiveness (targetAggressiveness cfg (smoothMetrics now t q w m))
        cfg.MAX_STEP := rfl

@[simp] theorem asrUpdateSmoothedMetrics_currentBudget :
    (asrUpdateSmoothedMetrics cfg now t q w m).currentBudget =
      applyHysteresis
        (budgetFromAggressiveness
          (asrUpdateSmoothedMetrics cfg now t q w m).currentAggressiveness cfg)
        m.currentBudget cfg.HYST := rfl

@[simp] theorem asrUpdateSmoothedMetrics_replayTasksCount :
    (asrUpdateSmoothedMetrics cfg now t q w m).replayTasksCount = m.replayTasksCount := rfl

@[simp] theorem asrUpdateSmoothedMetrics_hotMisses :
    (asrUpdateSmoothedMetrics cfg now t q w m).hotMisses = m.hotMisses := rfl

@[simp] theorem asrUpdateSmoothedMetrics_walBytesReceived :
    (asrUpdateSmoothedMetrics cfg now t q w m).walBytesReceived = m.walBytesReceived := rfl

@[simp] theorem asrUpdateSmoothedMetrics_lastTotalTasks :
    (asrUpdateSmoothedMetrics cfg now t q w m).lastTotalTasks = t := rfl

@[simp] theorem asrUpdateSmoothedMetrics_lastTotalMisses :
    (asrUpdateSmoothedMetrics cfg now t q w m).lastTotalMisses = q := rfl

@[simp] theorem asrUpdateSmoothedMetrics_lastWalBytes :
    (asrUpdateSmoothedMetrics cfg now t q w m).lastWalBytes = w := rfl

@[simp] theorem asrUpdateSmoothedMetrics_lastMeasurement :
    (asrUpdateSmoothedMetrics cfg now t q w m).lastMeasurement = now := rfl

@[simp] theorem asrUpdateSmoothedMetrics_queueEwma :
    (asrUpdateSmoothedMetrics cfg now t q w m).queueEwma = (smoothMetrics now t q w m).queueEwma :=
  rfl

@[simp] theorem asrUpdateSmoothedMetrics_missRateEwma :
    (asrUpdateSmoothedMetrics cfg now t q w m).missRateEwma =
      (smoothMetrics now t q w m).missRateEwma := rfl

@[simp] theorem asrUpdateSmoothedMetrics_walBpsEwma :
    (asrUpdateSmoothedMetrics cfg now t q w m).walBpsEwma =
      (smoothMetrics now t q w m).walBpsEwma := rfl

end Tick

/-! ## §4 — the three counters, uniformly -/

/-- The three raw counters. -/
inductive Counter
  | replayTasks
  | hotMisses
  | walBytes
  deriving DecidableEq, Repr

/-- A counter's running total. -/
def ASRMetricsInternal.counter (m : ASRMetricsInternal) : Counter → UInt64
  | .replayTasks => m.replayTasksCount
  | .hotMisses => m.hotMisses
  | .walBytes => m.walBytesReceived

/-- The total the previous tick loaded for a counter (`last_total_tasks`, `last_total_misses`,
`last_wal_bytes`). -/
def ASRMetricsInternal.lastTotal (m : ASRMetricsInternal) : Counter → UInt64
  | .replayTasks => m.lastTotalTasks
  | .hotMisses => m.lastTotalMisses
  | .walBytes => m.lastWalBytes

/-- The value a tick's load of a counter returned, among its three loads. -/
def Counter.pick (t q w : UInt64) : Counter → UInt64
  | .replayTasks => t
  | .hotMisses => q
  | .walBytes => w

@[simp] theorem asrUpdateSmoothedMetrics_counter (cfg : ASRConfig) (now : Int) (t q w : UInt64)
    (m : ASRMetricsInternal) (c : Counter) :
    (asrUpdateSmoothedMetrics cfg now t q w m).counter c = m.counter c := by
  cases c <;> rfl

@[simp] theorem asrUpdateSmoothedMetrics_lastTotal (cfg : ASRConfig) (now : Int) (t q w : UInt64)
    (m : ASRMetricsInternal) (c : Counter) :
    (asrUpdateSmoothedMetrics cfg now t q w m).lastTotal c = c.pick t q w := by
  cases c <;> rfl

end AdaptiveSR
