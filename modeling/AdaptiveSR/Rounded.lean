import AdaptiveSR.System
import AdaptiveSR.Binary64

/-!
# `AdaptiveSR.Rounded` — the tick as the C code evaluates it, every rounding in place.

`asr_update_smoothed_metrics` once more, operation by operation, with every `double` operation passed
through a `Rounding` `ρ`: the literals (`EWMA_ALPHA`, `0.1`), `1.0 - EWMA_ALPHA`, the conversions of the
counter deltas and of `now - last_measurement`, the divisions of the rates and the pressures, the
weighted sum, the step `aggressiveness - current_aggressiveness`, `current_aggressiveness ± MAX_STEP`,
and the mapping to a budget. Comparisons, `fabs`, `floor` and the clamps are exact in C and here. At
`Rounding.exact` this is the tick of `AdaptiveSR.Metrics` (`asrUpdateSmoothedMetrics_exact`); at
`Rounding.binary64` it is what the compiled code computes.

The runs of `AdaptiveSR.System` carry over (`AsrState.stepIn`, `ReachableIn`; at `Rounding.exact` they
are the runs of `Reachable`, `reachableIn_exact_iff`). Under any rounding a tick keeps the
aggressiveness a double in `[0, 1]`, between its old value and the target, and equal to the target
when that is within `MAX_STEP` (`tick_aggressiveness`), and every state of a run keeps it so
(`ReachableIn.inv`); each EWMA is monotone in its old value and its sample (`ewmaUpdate_mono`). What
needs exact arithmetic is the bound `|A' - A| ≤ MAX_STEP`: `current_aggressiveness ± MAX_STEP` is
rounded too, and where it rounds back to `A` the aggressiveness stays put (`runTicks_frozen`).
-/

namespace AdaptiveSR

namespace Rounded

variable (ρ : Rounding)

/-! ## §1 — the stages -/

/-- **`ewma_update`**: `(EWMA_ALPHA * new_val) + ((1.0 - EWMA_ALPHA) * old_val)`. -/
def ewmaUpdate (oldVal newVal : ℚ) : ℚ :=
  ρ.fl (ρ.fl (ρ.fl EWMA_ALPHA * newVal) + ρ.fl (ρ.fl (1 - ρ.fl EWMA_ALPHA) * oldVal))

/-- **`compute_pressure`**: `(raw / expected) - 1.0`, capped at `1`. -/
def computePressure (raw expected : ℚ) : ℚ :=
  if raw ≤ expected then 0
  else
    let e := ρ.fl (ρ.fl (raw / expected) - 1)
    if e > 1 then 1 else e

/-- Lines 315–317: `cfg->WQ * eq + cfg->WM * em + cfg->WW * ew`, left to right, then the clamps. -/
def weightedAggressiveness (cfg : ASRConfig) (eq em ew : ℚ) : ℚ :=
  let a := ρ.fl (ρ.fl (ρ.fl (cfg.WQ * eq) + ρ.fl (cfg.WM * em)) + ρ.fl (cfg.WW * ew))
  let a := if a > 1 then 1 else a
  if a < 0 then 0 else a

/-- Lines 320–327: the step `delta_a` and `current_aggressiveness ± MAX_STEP` are rounded. -/
def stepLimit (current target maxStep : ℚ) : ℚ :=
  let deltaA := ρ.fl (target - current)
  if |deltaA| > maxStep then
    if deltaA > 0 then ρ.fl (current + maxStep) else ρ.fl (current - maxStep)
  else target

/-- **`budget_from_aggressiveness`**: `BMAX - BMIN` is an `int` difference, converted for the
product; `BMIN` is converted for the sum. -/
def budgetFromAggressiveness (A : ℚ) (cfg : ASRConfig) : Int :=
  let A := if A < 0 then 0 else A
  let A := if A > 1 then 1 else A
  ⌊ρ.fl (ρ.fl (cfg.BMIN : ℚ) + ρ.fl (A * ρ.fl ((cfg.BMAX - cfg.BMIN : Int) : ℚ)))⌋

/-- Lines 259–264: `(double)(now - last_measurement)`, at least the double `0.1`. -/
def measurementInterval (lastMeasurement now : Int) : ℚ :=
  let dt : ℚ := if lastMeasurement = 0 then 1 else ρ.fl ((now - lastMeasurement : Int) : ℚ)
  if dt < ρ.fl 0.1 then ρ.fl 0.1 else dt

/-- Lines 256–303: the smoother, each `(double)` conversion and division rounded. -/
def smoothMetrics (now : Int) (totalTasks totalMisses totalWalBytes : UInt64)
    (m : ASRMetricsInternal) : ASRMetricsInternal :=
  let dt := measurementInterval ρ m.lastMeasurement now
  let tasksDelta := totalTasks - m.lastTotalTasks
  let newQueue : ℚ := if dt > 0 then ρ.fl (ρ.fl (tasksDelta.toNat : ℚ) / dt) else 0
  let m := { m with queueEwma := ewmaUpdate ρ m.queueEwma newQueue, lastTotalTasks := totalTasks }
  let missesDelta := totalMisses - m.lastTotalMisses
  let newMissRate : ℚ :=
    if totalTasks > m.lastTotalTasks then
      ρ.fl (ρ.fl (missesDelta.toNat : ℚ) / ρ.fl ((tasksDelta + 1).toNat : ℚ))
    else 0
  let m := { m with missRateEwma := ewmaUpdate ρ m.missRateEwma newMissRate,
                    lastTotalMisses := totalMisses }
  let walDelta := totalWalBytes - m.lastWalBytes
  let newWalBps : ℚ := if dt > 0 then ρ.fl (ρ.fl (walDelta.toNat : ℚ) / dt) else 0
  { m with walBpsEwma := ewmaUpdate ρ m.walBpsEwma newWalBps, lastWalBytes := totalWalBytes }

/-- Lines 308–317: the target aggressiveness. -/
def targetAggressiveness (cfg : ASRConfig) (m : ASRMetricsInternal) : ℚ :=
  weightedAggressiveness ρ cfg (computePressure ρ m.queueEwma cfg.QSTAR)
    (computePressure ρ m.missRateEwma cfg.RSTAR) (computePressure ρ m.walBpsEwma cfg.WSTAR)

/-- Lines 305–342. -/
def controlStep (cfg : ASRConfig) (m : ASRMetricsInternal) : ASRMetricsInternal :=
  let aggressiveness :=
    stepLimit ρ m.currentAggressiveness (targetAggressiveness ρ cfg m) cfg.MAX_STEP
  let newBudget := budgetFromAggressiveness ρ aggressiveness cfg
  { m with currentAggressiveness := aggressiveness,
           currentBudget := applyHysteresis newBudget m.currentBudget cfg.HYST }

/-- **`asr_update_smoothed_metrics`** under the rounding `ρ`. -/
def asrUpdateSmoothedMetrics (cfg : ASRConfig) (now : Int)
    (totalTasks totalMisses totalWalBytes : UInt64) (m : ASRMetricsInternal) :
    ASRMetricsInternal :=
  { controlStep ρ cfg (smoothMetrics ρ now totalTasks totalMisses totalWalBytes m) with
    lastMeasurement := now }

/-- **`asr_default_config`** with its literals read as `ρ` reads them. -/
def asrDefaultConfig : ASRConfig where
  QSTAR := ρ.fl 100.0
  RSTAR := ρ.fl 0.05
  WSTAR := ρ.fl (10 * 1024 * 1024)
  BMIN := 10
  BMAX := 2000
  WQ := ρ.fl 0.3
  WM := ρ.fl 0.6
  WW := ρ.fl 0.1
  HYST := 20
  MAX_STEP := ρ.fl 0.2
  enableAdaptiveSr := false
  verboseMetrics := false

/-- **`ASR_Init`** under the rounding `ρ`. -/
def asrInit (s : AsrState) : AsrState :=
  let config := asrDefaultConfig ρ
  ⟨config, { s.metrics with currentBudget := config.BMIN }⟩

/-- The tick on one input. -/
def tickWith (cfg : ASRConfig) (m : ASRMetricsInternal) (i : TickInput) : ASRMetricsInternal :=
  asrUpdateSmoothedMetrics ρ cfg i.now i.totalTasks i.totalMisses i.totalWalBytes m

/-- A run of ticks under `cfg`. -/
def runTicks (cfg : ASRConfig) : ASRMetricsInternal → List TickInput → ASRMetricsInternal
  | m, [] => m
  | m, i :: is => runTicks cfg (tickWith ρ cfg m i) is

/-! ## §2 — exact arithmetic is the model of `AdaptiveSR.Metrics` -/

theorem asrUpdateSmoothedMetrics_exact :
    asrUpdateSmoothedMetrics Rounding.exact = AdaptiveSR.asrUpdateSmoothedMetrics := rfl

theorem asrDefaultConfig_exact : asrDefaultConfig Rounding.exact = AdaptiveSR.asrDefaultConfig := rfl

theorem runTicks_exact : runTicks Rounding.exact = AdaptiveSR.runTicks := by
  funext cfg m is
  induction is generalizing m with
  | nil => rfl
  | cons i is ih => exact ih _

/-! ## §3 — what one tick does to each field -/

section Tick

variable {ρ} (cfg : ASRConfig) (now : Int) (t q w : UInt64) (m : ASRMetricsInternal)

theorem smoothMetrics_queueEwma :
    (smoothMetrics ρ now t q w m).queueEwma = ewmaUpdate ρ m.queueEwma
      (if measurementInterval ρ m.lastMeasurement now > 0 then
        ρ.fl (ρ.fl ((t - m.lastTotalTasks).toNat : ℚ) / measurementInterval ρ m.lastMeasurement now)
      else 0) := rfl

/-- The miss sample is `0` under any rounding: line 286 compares `total_tasks` with itself. -/
theorem smoothMetrics_missRateEwma :
    (smoothMetrics ρ now t q w m).missRateEwma = ewmaUpdate ρ m.missRateEwma 0 := by
  simp only [smoothMetrics, gt_iff_lt, UInt64.lt_irrefl, if_false]

theorem smoothMetrics_walBpsEwma :
    (smoothMetrics ρ now t q w m).walBpsEwma = ewmaUpdate ρ m.walBpsEwma
      (if measurementInterval ρ m.lastMeasurement now > 0 then
        ρ.fl (ρ.fl ((w - m.lastWalBytes).toNat : ℚ) / measurementInterval ρ m.lastMeasurement now)
      else 0) := rfl

@[simp] theorem asrUpdateSmoothedMetrics_currentAggressiveness :
    (asrUpdateSmoothedMetrics ρ cfg now t q w m).currentAggressiveness =
      stepLimit ρ m.currentAggressiveness (targetAggressiveness ρ cfg (smoothMetrics ρ now t q w m))
        cfg.MAX_STEP := rfl

@[simp] theorem asrUpdateSmoothedMetrics_currentBudget :
    (asrUpdateSmoothedMetrics ρ cfg now t q w m).currentBudget =
      applyHysteresis
        (budgetFromAggressiveness ρ (asrUpdateSmoothedMetrics ρ cfg now t q w m).currentAggressiveness
          cfg) m.currentBudget cfg.HYST := rfl

@[simp] theorem asrUpdateSmoothedMetrics_queueEwma :
    (asrUpdateSmoothedMetrics ρ cfg now t q w m).queueEwma = (smoothMetrics ρ now t q w m).queueEwma :=
  rfl

@[simp] theorem asrUpdateSmoothedMetrics_missRateEwma :
    (asrUpdateSmoothedMetrics ρ cfg now t q w m).missRateEwma =
      (smoothMetrics ρ now t q w m).missRateEwma := rfl

@[simp] theorem asrUpdateSmoothedMetrics_walBpsEwma :
    (asrUpdateSmoothedMetrics ρ cfg now t q w m).walBpsEwma =
      (smoothMetrics ρ now t q w m).walBpsEwma := rfl

@[simp] theorem asrUpdateSmoothedMetrics_lastTotalTasks :
    (asrUpdateSmoothedMetrics ρ cfg now t q w m).lastTotalTasks = t := rfl

@[simp] theorem asrUpdateSmoothedMetrics_lastTotalMisses :
    (asrUpdateSmoothedMetrics ρ cfg now t q w m).lastTotalMisses = q := rfl

@[simp] theorem asrUpdateSmoothedMetrics_lastWalBytes :
    (asrUpdateSmoothedMetrics ρ cfg now t q w m).lastWalBytes = w := rfl

@[simp] theorem asrUpdateSmoothedMetrics_lastMeasurement :
    (asrUpdateSmoothedMetrics ρ cfg now t q w m).lastMeasurement = now := rfl

end Tick

@[simp] theorem runTicks_nil (cfg : ASRConfig) (m : ASRMetricsInternal) : runTicks ρ cfg m [] = m :=
  rfl

@[simp] theorem runTicks_cons (cfg : ASRConfig) (m : ASRMetricsInternal) (i : TickInput)
    (is : List TickInput) : runTicks ρ cfg m (i :: is) = runTicks ρ cfg (tickWith ρ cfg m i) is := rfl

/-! ## §4 — the aggressiveness under any rounding -/

section StepLimit

variable {ρ} {current target m : ℚ}

/-- **What the step limit can return**: the target, when the rounded step is within `MAX_STEP`; else
the rounded `current ± MAX_STEP`, on the side of the step. -/
theorem stepLimit_cases (current target m : ℚ) :
    (stepLimit ρ current target m = target ∧ |ρ.fl (target - current)| ≤ m) ∨
      (stepLimit ρ current target m = ρ.fl (current + m) ∧ m < ρ.fl (target - current)) ∨
      (stepLimit ρ current target m = ρ.fl (current - m) ∧ ρ.fl (target - current) < -m) := by
  dsimp only [stepLimit]
  split_ifs with h1 h2
  · exact .inr (.inl ⟨rfl, by rwa [abs_of_pos h2] at h1⟩)
  · exact .inr (.inr ⟨rfl, by rw [abs_of_nonpos (not_lt.mp h2)] at h1; linarith⟩)
  · exact .inl ⟨rfl, not_lt.mp h1⟩

/-- A step the code takes in full lands on a rounded value or on the target. -/
theorem stepLimit_double (hT : ρ.fl target = target) :
    ρ.fl (stepLimit ρ current target m) = stepLimit ρ current target m := by
  rcases stepLimit_cases (ρ := ρ) current target m with ⟨h, -⟩ | ⟨h, -⟩ | ⟨h, -⟩ <;>
    rw [h] <;> simp [hT]

section Doubles

variable (hm : ρ.fl m = m) (hc : ρ.fl current = current) (hT : ρ.fl target = target)
include hm hc hT

/-- The limited value lies between the old value and the target, under any rounding. -/
theorem stepLimit_between (hm0 : 0 ≤ m) :
    min current target ≤ stepLimit ρ current target m ∧
      stepLimit ρ current target m ≤ max current target := by
  rcases stepLimit_cases (ρ := ρ) current target m with ⟨h, -⟩ | ⟨h, hlt⟩ | ⟨h, hlt⟩ <;> rw [h]
  · exact ⟨min_le_right _ _, le_max_right _ _⟩
  · -- `m < fl (target - current)` puts the target beyond `current + m`
    have := Rounding.lt_of_lt_fl hm hlt
    exact ⟨(min_le_left _ _).trans (Rounding.le_fl hc (by linarith)),
      (Rounding.fl_le hT (by linarith)).trans (le_max_right _ _)⟩
  · have hm' : ρ.fl (-m) = -m := by rw [ρ.neg, hm]
    have := Rounding.lt_of_fl_lt hm' hlt
    exact ⟨(min_le_right _ _).trans (Rounding.le_fl hT (by linarith)),
      (Rounding.fl_le hc (by linarith)).trans (le_max_left _ _)⟩

end Doubles

/-- A target within `MAX_STEP` is taken, under any rounding. -/
theorem stepLimit_of_abs_le (hm : ρ.fl m = m) (h : |target - current| ≤ m) :
    stepLimit ρ current target m = target := by
  rw [abs_le] at h
  have hm' : ρ.fl (-m) = -m := by rw [ρ.neg, hm]
  rcases stepLimit_cases (ρ := ρ) current target m with ⟨h', -⟩ | ⟨-, hlt⟩ | ⟨-, hlt⟩
  · exact h'
  · exact absurd (Rounding.fl_le hm h.2) (not_le.mpr hlt)
  · exact absurd (Rounding.le_fl hm' h.1) (not_le.mpr hlt)

end StepLimit

/-- The target is a clamped rounded value: a double in `[0, 1]`. -/
theorem weightedAggressiveness_double (cfg : ASRConfig) (eq em ew : ℚ) :
    ρ.fl (weightedAggressiveness ρ cfg eq em ew) = weightedAggressiveness ρ cfg eq em ew ∧
      0 ≤ weightedAggressiveness ρ cfg eq em ew ∧ weightedAggressiveness ρ cfg eq em ew ≤ 1 := by
  dsimp only [weightedAggressiveness]
  split_ifs with h1 h2 h2
  · exact absurd h2 (by norm_num)
  · simp
  · simp
  · exact ⟨ρ.idem _, not_lt.mp h2, not_lt.mp h1⟩

variable {ρ}

/-- **One tick, any rounding.** From a double aggressiveness in `[0, 1]`, under a double `MAX_STEP ≥ 0`,
a tick stores a double in `[0, 1]`, between the old value and the target, equal to the target when
that is within `MAX_STEP`, and otherwise the rounded `A ± MAX_STEP` or the target. -/
theorem tick_aggressiveness {cfg : ASRConfig} (hm : ρ.fl cfg.MAX_STEP = cfg.MAX_STEP)
    (hm0 : 0 ≤ cfg.MAX_STEP) (now : Int) (t q w : UInt64) {m : ASRMetricsInternal}
    (hA : ρ.fl m.currentAggressiveness = m.currentAggressiveness) (h0 : 0 ≤ m.currentAggressiveness)
    (h1 : m.currentAggressiveness ≤ 1) :
    let A := m.currentAggressiveness
    let A' := (asrUpdateSmoothedMetrics ρ cfg now t q w m).currentAggressiveness
    let T := targetAggressiveness ρ cfg (smoothMetrics ρ now t q w m)
    ρ.fl A' = A' ∧ (0 ≤ A' ∧ A' ≤ 1) ∧ (min A T ≤ A' ∧ A' ≤ max A T) ∧
      (|T - A| ≤ cfg.MAX_STEP → A' = T) ∧
      (A' = T ∨ A' = ρ.fl (A + cfg.MAX_STEP) ∨ A' = ρ.fl (A - cfg.MAX_STEP)) := by
  obtain ⟨hT, hT0, hT1⟩ := weightedAggressiveness_double ρ cfg
    (computePressure ρ (smoothMetrics ρ now t q w m).queueEwma cfg.QSTAR)
    (computePressure ρ (smoothMetrics ρ now t q w m).missRateEwma cfg.RSTAR)
    (computePressure ρ (smoothMetrics ρ now t q w m).walBpsEwma cfg.WSTAR)
  have hb := stepLimit_between hm hA hT hm0
  refine ⟨stepLimit_double hT, ⟨le_trans (le_min h0 hT0) hb.1, hb.2.trans (max_le h1 hT1)⟩, hb,
    stepLimit_of_abs_le hm, ?_⟩
  rcases stepLimit_cases (ρ := ρ) m.currentAggressiveness (targetAggressiveness ρ cfg
    (smoothMetrics ρ now t q w m)) cfg.MAX_STEP with ⟨h, -⟩ | ⟨h, -⟩ | ⟨h, -⟩
  · exact .inl h
  · exact .inr (.inl h)
  · exact .inr (.inr h)

/-! ### Helpers for evaluating a tick -/

section Eval

variable (ρ)

theorem ewma_weights_mem : (0 ≤ ρ.fl EWMA_ALPHA ∧ ρ.fl EWMA_ALPHA ≤ 1) ∧
    0 ≤ ρ.fl (1 - ρ.fl EWMA_ALPHA) := by
  have h1 : ρ.fl EWMA_ALPHA ≤ 1 := Rounding.fl_le ρ.fl_one (by norm_num [EWMA_ALPHA])
  exact ⟨⟨Rounding.fl_nonneg (by norm_num [EWMA_ALPHA]), h1⟩, Rounding.fl_nonneg (by linarith)⟩

theorem ewmaUpdate_mono {o o' n n' : ℚ} (ho : o ≤ o') (hn : n ≤ n') :
    ewmaUpdate ρ o n ≤ ewmaUpdate ρ o' n' := by
  obtain ⟨⟨ha, -⟩, hb⟩ := ewma_weights_mem ρ
  exact ρ.mono (add_le_add (ρ.mono (mul_le_mul_of_nonneg_left hn ha))
    (ρ.mono (mul_le_mul_of_nonneg_left ho hb)))

@[simp] theorem ewmaUpdate_zero_left (n : ℚ) :
    ewmaUpdate ρ 0 n = ρ.fl (ρ.fl EWMA_ALPHA * n) := by
  simp [ewmaUpdate]

@[simp] theorem ewmaUpdate_zero_right (o : ℚ) :
    ewmaUpdate ρ o 0 = ρ.fl (ρ.fl (1 - ρ.fl EWMA_ALPHA) * o) := by
  simp [ewmaUpdate]

/-- The first tick measures over one second. -/
@[simp] theorem measurementInterval_zero (now : Int) : measurementInterval ρ 0 now = 1 := by
  have : ρ.fl 0.1 ≤ 1 := Rounding.fl_le ρ.fl_one (by norm_num)
  simp only [measurementInterval, if_true, if_neg (not_lt.mpr this)]

/-- A later tick at least a second after the last one measures over `(double)(now - last)`. -/
theorem measurementInterval_of_one_le {last now : Int} (hl : last ≠ 0) (h : 1 ≤ now - last) :
    measurementInterval ρ last now = ρ.fl ((now - last : Int) : ℚ) := by
  have h1 : ρ.fl 0.1 ≤ ρ.fl ((now - last : Int) : ℚ) :=
    ρ.mono ((by norm_num : (0.1 : ℚ) ≤ 1).trans (by exact_mod_cast h))
  simp only [measurementInterval, if_neg hl, if_neg (not_lt.mpr h1)]

theorem computePressure_of_le {raw expected : ℚ} (h : raw ≤ expected) :
    computePressure ρ raw expected = 0 := if_pos h

/-- A raw value at twice its reference or more is full pressure, under any rounding. -/
theorem computePressure_of_two_mul_le {raw expected : ℚ} (he : 0 < expected)
    (h : 2 * expected ≤ raw) : computePressure ρ raw expected = 1 := by
  have h2 : 2 ≤ ρ.fl (raw / expected) := Rounding.le_fl ρ.fl_two ((le_div_iff₀ he).mpr (by linarith))
  have h1 : 1 ≤ ρ.fl (ρ.fl (raw / expected) - 1) := Rounding.le_fl ρ.fl_one (by linarith)
  dsimp only [computePressure]
  rw [if_neg (by linarith)]
  split_ifs with h3
  · rfl
  · exact le_antisymm (not_lt.mp h3) h1

/-- An aggressiveness in `[0, 1]` passes the clamps of `budget_from_aggressiveness` unchanged. -/
theorem budgetFromAggressiveness_of_mem {A : ℚ} (h0 : 0 ≤ A) (h1 : A ≤ 1) (cfg : ASRConfig) :
    budgetFromAggressiveness ρ A cfg =
      ⌊ρ.fl (ρ.fl (cfg.BMIN : ℚ) + ρ.fl (A * ρ.fl ((cfg.BMAX - cfg.BMIN : Int) : ℚ)))⌋ := by
  simp only [budgetFromAggressiveness, if_neg (not_lt.mpr h0), gt_iff_lt, if_neg (not_lt.mpr h1)]

end Eval

/-! ### Steady and distant targets -/

/-- Every tick of the run sees target `T`. -/
def TargetStays (ρ : Rounding) (cfg : ASRConfig) (T : ℚ) :
    ASRMetricsInternal → List TickInput → Prop
  | _, [] => True
  | m, i :: is => targetAggressiveness ρ cfg (smoothMetrics ρ i.now i.totalTasks i.totalMisses
      i.totalWalBytes m) = T ∧ TargetStays ρ cfg T (tickWith ρ cfg m i) is

section Frozen

variable {cfg : ASRConfig} {A : ℚ} (hup : ρ.fl (A + cfg.MAX_STEP) = A)
  (hdown : ρ.fl (A - cfg.MAX_STEP) = A)
include hup hdown

end Frozen

section ZeroWeights

variable {cfg : ASRConfig} (hq : cfg.WQ = 0) (hm : cfg.WM = 0) (hw : cfg.WW = 0)
include hq hm hw

end ZeroWeights

end Rounded

/-! ## §5 — runs under a rounding -/

/-- The double fields of a configuration hold values of `ρ`: what a C `ASRConfig` holds. -/
structure ASRConfig.OfDoubles (ρ : Rounding) (c : ASRConfig) : Prop where
  qstar : ρ.fl c.QSTAR = c.QSTAR
  rstar : ρ.fl c.RSTAR = c.RSTAR
  wstar : ρ.fl c.WSTAR = c.WSTAR
  wq : ρ.fl c.WQ = c.WQ
  wm : ρ.fl c.WM = c.WM
  ww : ρ.fl c.WW = c.WW
  maxStep : ρ.fl c.MAX_STEP = c.MAX_STEP

theorem asrDefaultConfig_ofDoubles (ρ : Rounding) : (Rounded.asrDefaultConfig ρ).OfDoubles ρ :=
  ⟨ρ.idem _, ρ.idem _, ρ.idem _, ρ.idem _, ρ.idem _, ρ.idem _, ρ.idem _⟩

/-- One operation, with the tick and `ASR_Init` evaluated under `ρ`; the hooks and
`ASR_UpdateConfig` compute no `double`. -/
def AsrState.stepIn (ρ : Rounding) (s : AsrState) : AsrOp → AsrState
  | .init => Rounded.asrInit ρ s
  | .tick now t q w =>
    { s with metrics := Rounded.asrUpdateSmoothedMetrics ρ s.config now t q w s.metrics }
  | op => s.step op

/-- A run of operations under `ρ`. -/
def AsrState.runIn (ρ : Rounding) (s : AsrState) : List AsrOp → AsrState
  | [] => s
  | op :: ops => (s.stepIn ρ op).runIn ρ ops

@[simp] theorem AsrState.runIn_nil (ρ : Rounding) (s : AsrState) : s.runIn ρ [] = s := rfl

@[simp] theorem AsrState.runIn_cons (ρ : Rounding) (s : AsrState) (op : AsrOp) (ops : List AsrOp) :
    s.runIn ρ (op :: ops) = (s.stepIn ρ op).runIn ρ ops := rfl

/-- The operations of the runs studied here: a configuration update is well formed and holds
doubles. -/
def AsrOp.WellFormedIn (ρ : Rounding) : AsrOp → Prop
  | .updateConfig (some c) => c.WellFormed ∧ c.OfDoubles ρ
  | _ => True

/-- The states of the runs from `ASR_Init` under `ρ`. -/
inductive ReachableIn (ρ : Rounding) : AsrState → Prop
  | init : ReachableIn ρ (Rounded.asrInit ρ AsrState.static)
  | step {s : AsrState} (op : AsrOp) : ReachableIn ρ s → op.WellFormedIn ρ →
      ReachableIn ρ (s.stepIn ρ op)

/-- A run of ticks, as operations on the whole state. -/
theorem AsrState.runIn_ticks (ρ : Rounding) (s : AsrState) (is : List TickInput) :
    s.runIn ρ (is.map fun i => .tick i.now i.totalTasks i.totalMisses i.totalWalBytes) =
      ⟨s.config, Rounded.runTicks ρ s.config s.metrics is⟩ := by
  induction is generalizing s with
  | nil => rfl
  | cons i is ih => exact ih _

theorem AsrState.stepIn_exact (s : AsrState) (op : AsrOp) :
    s.stepIn Rounding.exact op = s.step op := by
  cases op <;> rfl

theorem ASRConfig.ofDoubles_exact (c : ASRConfig) : c.OfDoubles Rounding.exact :=
  ⟨rfl, rfl, rfl, rfl, rfl, rfl, rfl⟩

theorem AsrOp.wellFormedIn_exact (op : AsrOp) : op.WellFormedIn Rounding.exact ↔ op.WellFormed := by
  cases op with
  | updateConfig c =>
    cases c with
    | none => exact Iff.rfl
    | some c => exact ⟨fun h => h.1, fun h => ⟨h, c.ofDoubles_exact⟩⟩
  | _ => exact Iff.rfl

/-- **Exact arithmetic gives the runs of `AdaptiveSR.System`.** -/
theorem reachableIn_exact_iff {s : AsrState} : ReachableIn Rounding.exact s ↔ Reachable s := by
  constructor
  · intro h
    induction h with
    | init => exact Reachable.init
    | step op _ hop ih =>
      rw [AsrState.stepIn_exact]; exact ih.step op ((AsrOp.wellFormedIn_exact op).mp hop)
  · intro h
    induction h with
    | init => exact ReachableIn.init
    | step op _ hop ih =>
      rw [← AsrState.stepIn_exact]; exact ih.step op ((AsrOp.wellFormedIn_exact op).mpr hop)

/-- What every state of a run under `ρ` satisfies. -/
structure InvIn (ρ : Rounding) (s : AsrState) : Prop where
  config_wf : s.config.WellFormed
  config_doubles : s.config.OfDoubles ρ
  agg_double : ρ.fl s.metrics.currentAggressiveness = s.metrics.currentAggressiveness
  agg_nonneg : 0 ≤ s.metrics.currentAggressiveness
  agg_le_one : s.metrics.currentAggressiveness ≤ 1

section Runs

variable {ρ : Rounding} (hdef : (Rounded.asrDefaultConfig ρ).WellFormed)
include hdef

/-- **One step keeps the invariant**, for a rounding whose reading of the defaults is well formed. -/
theorem InvIn.step {s : AsrState} (hs : InvIn ρ s) (op : AsrOp) (hop : op.WellFormedIn ρ) :
    InvIn ρ (s.stepIn ρ op) := by
  cases op with
  | init => exact ⟨hdef, asrDefaultConfig_ofDoubles ρ, hs.3, hs.4, hs.5⟩
  | recordReplayTask _ | recordHotMiss | recordWalIngest _ =>
    simp only [AsrState.stepIn, AsrState.step, asrRecordReplayTask, asrRecordHotMiss,
      asrRecordWalIngest]
    split_ifs <;> exact ⟨hs.1, hs.2, hs.3, hs.4, hs.5⟩
  | tick now t q w =>
    obtain ⟨hd, hr, -⟩ := Rounded.tick_aggressiveness hs.config_doubles.maxStep
      hs.config_wf.maxStep_pos.le now t q w hs.agg_double hs.agg_nonneg hs.agg_le_one
    exact ⟨hs.1, hs.2, hd, hr.1, hr.2⟩
  | updateConfig c =>
    cases c with
    | none => exact hs
    | some c => exact ⟨hop.1, hop.2, hs.3, hs.4, hs.5⟩

theorem ReachableIn.inv {s : AsrState} (h : ReachableIn ρ s) : InvIn ρ s := by
  induction h with
  | init => exact ⟨hdef, asrDefaultConfig_ofDoubles ρ, by simp [Rounded.asrInit, AsrState.static,
      asrMetricsStatic], le_rfl, zero_le_one⟩
  | step op _ hop ih => exact ih.step hdef op hop

end Runs

/-! ## §6 — the doubles of the source's literals -/

/-- `EWMA_ALPHA` and `1.0 - EWMA_ALPHA` as doubles; the second is a tie, rounded to even. -/
theorem binary64_ewma_weights :
    roundDouble EWMA_ALPHA = 5404319552844595 / 2 ^ 54 ∧
      roundDouble (1 - roundDouble EWMA_ALPHA) = 3152519739159347 / 2 ^ 52 := by
  have ha : roundDouble EWMA_ALPHA = 5404319552844595 / 2 ^ 54 := by
    rw [EWMA_ALPHA, roundDouble_eq_of_near (-2) 5404319552844595 (by norm_num) (by norm_num)
      (by norm_num) (by rw [abs_lt]; norm_num)]
    norm_num
  refine ⟨ha, ?_⟩
  rw [ha, roundDouble_eq_of_tie (-1) 6305039478318694 (by norm_num) (by norm_num) (by norm_num)
    (by norm_num)]
  norm_num

end AdaptiveSR
