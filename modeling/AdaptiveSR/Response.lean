import AdaptiveSR.System
import AdaptiveSR.Rounded

/-!
# `AdaptiveSR.Response` — how the controller responds to more load.

Two runs of ticks from one state, under one configuration and one clock, in which run 2 sees the same
task deltas and at least run 1's miss and WAL deltas: every stage of the tick is monotone (the EWMA,
the pressure clamp, the nonnegative weighting, the step limit as a median of three, the floor, and the
hysteresis for a fixed prior budget), so run 2's smoothed values and aggressiveness stay at least run
1's (`pairedRun_dominated`) and a single tick never publishes a smaller budget for run 2.

Under binary64 only the smoother keeps that order (`pairedRunIn_smoothDominated`): the step limiter
rounds both the step it tests and the value it stores, so a larger target can leave a smaller
aggressiveness, and the budget follows it down (`binary64_more_wal_lowers_aggressiveness`).

The hot-miss path is cut: line 286 tests `total_tasks > last_total_tasks` after line 278 has set
`last_total_tasks = total_tasks`, so the miss sample is always `0`. The miss counter then reaches no
field but `last_total_misses` (`asrUpdateSmoothedMetrics_misses_irrelevant`): `miss_rate_ewma` only
decays, and `ASR_RecordHotMiss` never moves the aggressiveness or the budget.
-/

namespace AdaptiveSR

/-! ## §1 — two runs -/

/-- Run 2's tick reads the same clock and the same task delta as run 1's, and at least its miss and
WAL deltas. -/
def TickDominates (m₁ m₂ : ASRMetricsInternal) (i₁ i₂ : TickInput) : Prop :=
  i₁.now = i₂.now ∧ i₁.totalTasks - m₁.lastTotalTasks = i₂.totalTasks - m₂.lastTotalTasks ∧
    (i₁.totalMisses - m₁.lastTotalMisses).toNat ≤ (i₂.totalMisses - m₂.lastTotalMisses).toNat ∧
    (i₁.totalWalBytes - m₁.lastWalBytes).toNat ≤ (i₂.totalWalBytes - m₂.lastWalBytes).toNat

/-- Two runs of ticks under `cfg` whose inputs dominate tick by tick. -/
def PairedRun (cfg : ASRConfig) :
    ASRMetricsInternal → ASRMetricsInternal → List (TickInput × TickInput) → Prop
  | _, _, [] => True
  | m₁, m₂, (i₁, i₂) :: ps =>
    TickDominates m₁ m₂ i₁ i₂ ∧ PairedRun cfg (tickWith cfg m₁ i₁) (tickWith cfg m₂ i₂) ps

/-- Run 2's smoothed values and aggressiveness are at least run 1's, on a common clock. -/
structure Dominated (m₁ m₂ : ASRMetricsInternal) : Prop where
  queue : m₁.queueEwma ≤ m₂.queueEwma
  missRate : m₁.missRateEwma ≤ m₂.missRateEwma
  wal : m₁.walBpsEwma ≤ m₂.walBpsEwma
  agg : m₁.currentAggressiveness ≤ m₂.currentAggressiveness
  clock : m₁.lastMeasurement = m₂.lastMeasurement

theorem Dominated.refl (m : ASRMetricsInternal) : Dominated m m :=
  ⟨le_rfl, le_rfl, le_rfl, le_rfl, rfl⟩

section Step

variable {cfg : ASRConfig} {m₁ m₂ : ASRMetricsInternal} {i₁ i₂ : TickInput}

/-- The smoother keeps the domination. -/
theorem Dominated.smooth (h : Dominated m₁ m₂) (hi : TickDominates m₁ m₂ i₁ i₂) :
    Dominated (smoothMetrics i₁.now i₁.totalTasks i₁.totalMisses i₁.totalWalBytes m₁)
      (smoothMetrics i₂.now i₂.totalTasks i₂.totalMisses i₂.totalWalBytes m₂) := by
  obtain ⟨hnow, htasks, -, hwal⟩ := hi
  have hdt := measurementInterval_pos m₂.lastMeasurement i₂.now
  refine ⟨?_, ?_, ?_, h.agg, ?_⟩
  · rw [smoothMetrics_queueEwma, smoothMetrics_queueEwma, htasks, hnow, h.clock]
    exact ewmaUpdate_mono h.queue le_rfl
  · rw [smoothMetrics_missRateEwma, smoothMetrics_missRateEwma]
    exact ewmaUpdate_mono h.missRate le_rfl
  · rw [smoothMetrics_walBpsEwma, smoothMetrics_walBpsEwma, hnow, h.clock]
    exact ewmaUpdate_mono h.wal (div_le_div_of_nonneg_right (by exact_mod_cast hwal) hdt.le)
  · exact h.clock

/-- The target of a dominated record is at least the other's. -/
theorem targetAggressiveness_mono (hcfg : cfg.WellFormed) (h : Dominated m₁ m₂) :
    targetAggressiveness cfg m₁ ≤ targetAggressiveness cfg m₂ :=
  weightedAggressiveness_mono hcfg.wq_nonneg hcfg.wm_nonneg hcfg.ww_nonneg
    (computePressure_mono hcfg.qstar_pos h.queue) (computePressure_mono hcfg.rstar_pos h.missRate)
    (computePressure_mono hcfg.wstar_pos h.wal)

/-- **One tick keeps the domination.** -/
theorem Dominated.tick (hcfg : cfg.WellFormed) (h : Dominated m₁ m₂)
    (hi : TickDominates m₁ m₂ i₁ i₂) : Dominated (tickWith cfg m₁ i₁) (tickWith cfg m₂ i₂) := by
  have hs := h.smooth hi
  exact ⟨hs.queue, hs.missRate, hs.wal,
    stepLimit_mono hcfg.maxStep_pos.le h.agg (targetAggressiveness_mono hcfg hs), hi.1⟩

/-- From one record, a tick with dominating input publishes at least the budget. -/
theorem tick_budget_mono (hcfg : cfg.WellFormed) (m : ASRMetricsInternal)
    (hi : TickDominates m m i₁ i₂) :
    asrGetCurrentBudget (tickWith cfg m i₁) ≤ asrGetCurrentBudget (tickWith cfg m i₂) :=
  applyHysteresis_mono _ _ (budgetFromAggressiveness_mono hcfg.bmin_le_bmax
    ((Dominated.refl m).tick hcfg hi).agg)

end Step

theorem pairedRun_dominated {cfg : ASRConfig} (hcfg : cfg.WellFormed) :
    ∀ (ps : List (TickInput × TickInput)) (m₁ m₂ : ASRMetricsInternal), Dominated m₁ m₂ →
      PairedRun cfg m₁ m₂ ps →
      Dominated (runTicks cfg m₁ (ps.map Prod.fst)) (runTicks cfg m₂ (ps.map Prod.snd))
  | [], _, _, h, _ => h
  | (_, _) :: ps, _, _, h, ⟨hi, hps⟩ => pairedRun_dominated hcfg ps _ _ (h.tick hcfg hi) hps

/-! ### Under a rounding -/

/-- Run 2's three EWMAs are at least run 1's, on a common clock. -/
structure SmoothDominated (m₁ m₂ : ASRMetricsInternal) : Prop where
  queue : m₁.queueEwma ≤ m₂.queueEwma
  missRate : m₁.missRateEwma ≤ m₂.missRateEwma
  wal : m₁.walBpsEwma ≤ m₂.walBpsEwma
  clock : m₁.lastMeasurement = m₂.lastMeasurement

theorem SmoothDominated.refl (m : ASRMetricsInternal) : SmoothDominated m m :=
  ⟨le_rfl, le_rfl, le_rfl, rfl⟩

/-- The paired runs of `PairedRun`, every tick evaluated under `ρ`. -/
def PairedRunIn (ρ : Rounding) (cfg : ASRConfig) :
    ASRMetricsInternal → ASRMetricsInternal → List (TickInput × TickInput) → Prop
  | _, _, [] => True
  | m₁, m₂, (i₁, i₂) :: ps => TickDominates m₁ m₂ i₁ i₂ ∧
      PairedRunIn ρ cfg (Rounded.tickWith ρ cfg m₁ i₁) (Rounded.tickWith ρ cfg m₂ i₂) ps

section StepIn

variable (ρ : Rounding) (cfg : ASRConfig) {m₁ m₂ : ASRMetricsInternal} {i₁ i₂ : TickInput}

/-- The rounded smoother keeps the domination: each EWMA is monotone in its old value and in its
sample, and run 2's WAL sample, a rounded quotient of a larger delta by the same interval, is at
least run 1's. -/
theorem SmoothDominated.smoothIn (h : SmoothDominated m₁ m₂) (hi : TickDominates m₁ m₂ i₁ i₂) :
    SmoothDominated
      (Rounded.smoothMetrics ρ i₁.now i₁.totalTasks i₁.totalMisses i₁.totalWalBytes m₁)
      (Rounded.smoothMetrics ρ i₂.now i₂.totalTasks i₂.totalMisses i₂.totalWalBytes m₂) := by
  obtain ⟨hnow, htasks, -, hwal⟩ := hi
  refine ⟨?_, ?_, ?_, h.clock⟩
  · rw [Rounded.smoothMetrics_queueEwma, Rounded.smoothMetrics_queueEwma, htasks, hnow, h.clock]
    exact Rounded.ewmaUpdate_mono ρ h.queue le_rfl
  · rw [Rounded.smoothMetrics_missRateEwma, Rounded.smoothMetrics_missRateEwma]
    exact Rounded.ewmaUpdate_mono ρ h.missRate le_rfl
  · rw [Rounded.smoothMetrics_walBpsEwma, Rounded.smoothMetrics_walBpsEwma, hnow, h.clock]
    refine Rounded.ewmaUpdate_mono ρ h.wal ?_
    split_ifs with hdt
    · exact ρ.mono (div_le_div_of_nonneg_right (ρ.mono (by exact_mod_cast hwal)) hdt.le)
    · exact le_rfl

theorem SmoothDominated.tickIn (h : SmoothDominated m₁ m₂) (hi : TickDominates m₁ m₂ i₁ i₂) :
    SmoothDominated (Rounded.tickWith ρ cfg m₁ i₁) (Rounded.tickWith ρ cfg m₂ i₂) :=
  have hs := h.smoothIn ρ hi
  ⟨hs.queue, hs.missRate, hs.wal, hi.1⟩

end StepIn

theorem pairedRunIn_smoothDominated (ρ : Rounding) (cfg : ASRConfig) :
    ∀ (ps : List (TickInput × TickInput)) (m₁ m₂ : ASRMetricsInternal), SmoothDominated m₁ m₂ →
      PairedRunIn ρ cfg m₁ m₂ ps →
      SmoothDominated (Rounded.runTicks ρ cfg m₁ (ps.map Prod.fst))
        (Rounded.runTicks ρ cfg m₂ (ps.map Prod.snd))
  | [], _, _, h, _ => h
  | (_, _) :: ps, _, _, h, ⟨hi, hps⟩ =>
    pairedRunIn_smoothDominated ρ cfg ps _ _ (h.tickIn ρ cfg hi) hps

/-! ### Rounding at work -/

/-- A run from `ASR_Init`: a configuration with `WQ = 2⁻⁵⁴` and `MAX_STEP = 1`, a tick with 1024
replayed records (full queue pressure, so the aggressiveness becomes `2⁻⁵⁴`), then a configuration with
`BMIN = 1`, `BMAX = 4`, `HYST = 0`, `MAX_STEP` the double `6004799503160660·2⁻⁵³` just below `2/3`,
`WQ` one ulp above it and `WW = 1 − WQ`. -/
theorem binary64_tiny_aggressiveness_run :
    AsrState.runIn Rounding.binary64 (Rounded.asrInit Rounding.binary64 AsrState.static)
        [.updateConfig (some ⟨1, 1, 1, 1, 4, 1 / 2 ^ 54, 0, 0, 0, 1, true, false⟩), .tick 1 1024 0 0,
          .updateConfig (some ⟨1, 1, 1, 1, 4, 6004799503160661 / 2 ^ 53, 0,
            3002399751580331 / 2 ^ 53, 0, 6004799503160660 / 2 ^ 53, true, false⟩)] =
      ⟨⟨1, 1, 1, 1, 4, 6004799503160661 / 2 ^ 53, 0, 3002399751580331 / 2 ^ 53, 0,
          6004799503160660 / 2 ^ 53, true, false⟩,
        ⟨0, 0, 0, 5404319552844595 / 2 ^ 44, 0, 0, 1, 1 / 2 ^ 54, 0, 1024, 0, 1⟩⟩ := by
  obtain ⟨ha, -⟩ := binary64_ewma_weights
  have h1 : roundDouble 1 = 1 := Rounding.fl_one Rounding.binary64
  have hT : roundDouble 1024 = 1024 := roundDouble_ofNat _ (by norm_num)
  have hq : 2 * (1 : ℚ) ≤ roundDouble (5404319552844595 / 2 ^ 54 * 1024) :=
    le_trans (by norm_num) (Rounding.le_fl (ρ := Rounding.binary64) (a := 2) (Rounding.fl_two _)
      (by norm_num))
  have hε : roundDouble (1 / 2 ^ 54) = 1 / 2 ^ 54 :=
    roundDouble_eq_self 1 (-54) (by norm_num) (by norm_num) (by norm_num)
  have hA₁ : (Rounded.asrUpdateSmoothedMetrics Rounding.binary64
      ⟨1, 1, 1, 1, 4, 1 / 2 ^ 54, 0, 0, 0, 1, true, false⟩ 1 1024 0 0
      (Rounded.asrInit Rounding.binary64 AsrState.static).metrics).currentAggressiveness =
        1 / 2 ^ 54 := by
    simp only [Rounded.asrInit, Rounded.asrUpdateSmoothedMetrics_currentAggressiveness,
      Rounded.targetAggressiveness, Rounded.smoothMetrics_queueEwma,
      Rounded.smoothMetrics_missRateEwma, Rounded.smoothMetrics_walBpsEwma, AsrState.static,
      asrMetricsStatic, Rounded.measurementInterval_zero, gt_iff_lt, zero_lt_one, if_true, div_one,
      sub_zero, Rounded.ewmaUpdate_zero_left, mul_zero, Rounding.binary64_fl, ha,
      UInt64.toNat_zero, Nat.cast_zero, roundDouble_zero,
      show ((UInt64.toNat 1024 : ℕ) : ℚ) = 1024 from rfl, hT]
    rw [Rounded.computePressure_of_two_mul_le _ (by norm_num) hq,
      Rounded.stepLimit_of_abs_le (Rounding.fl_one _)]
    all_goals simp only [Rounded.weightedAggressiveness, Rounding.binary64_fl, mul_zero, mul_one,
      roundDouble_zero, add_zero, zero_mul, hε]
    all_goals norm_num [abs_le]
  simp only [AsrState.runIn_cons, AsrState.runIn_nil, AsrState.stepIn, AsrState.step,
    asrUpdateConfig, AsrState.mk.injEq, true_and]
  ext
  · rfl
  · rfl
  · rfl
  · rw [Rounded.asrUpdateSmoothedMetrics_queueEwma, Rounded.smoothMetrics_queueEwma]
    simp only [Rounded.asrInit, AsrState.static, asrMetricsStatic, Rounded.measurementInterval_zero,
      zero_lt_one, if_true, div_one, Rounded.ewmaUpdate_zero_left, Rounding.binary64_fl, ha, sub_zero,
      show ((UInt64.toNat 1024 : ℕ) : ℚ) = 1024 from rfl, hT]
    rw [roundDouble_eq_self 5404319552844595 (-44) (by norm_num) (by norm_num) (by norm_num)]
    norm_num
  · rw [Rounded.asrUpdateSmoothedMetrics_missRateEwma, Rounded.smoothMetrics_missRateEwma]
    simp [Rounded.asrInit, AsrState.static, asrMetricsStatic]
  · rw [Rounded.asrUpdateSmoothedMetrics_walBpsEwma, Rounded.smoothMetrics_walBpsEwma]
    simp [Rounded.asrInit, AsrState.static, asrMetricsStatic]
  · -- `HYST = 0` publishes `⌊1 + 3·2⁻⁵⁴⌋ = 1` as rounded
    rw [Rounded.asrUpdateSmoothedMetrics_currentBudget, hA₁, applyHysteresis_eq,
      if_neg (not_lt.mpr (abs_nonneg _))]
    have h3 : roundDouble (1 / 2 ^ 54 * 3) = 1 / 2 ^ 54 * 3 :=
      roundDouble_eq_self 3 (-54) (by norm_num) (by norm_num) (by norm_num)
    have hb : roundDouble (1 + 1 / 2 ^ 54 * 3) = (2 ^ 52 + 1 : ℤ) * 2 ^ ((0 : ℤ) - 52) :=
      roundDouble_eq_of_near 0 (2 ^ 52 + 1) (by norm_num) (by norm_num) (by norm_num)
        (by rw [abs_lt]; norm_num)
    simp only [Rounded.budgetFromAggressiveness, Rounding.binary64_fl,
      if_neg (show ¬ (1 / 2 ^ 54 : ℚ) < 0 by norm_num),
      if_neg (show ¬ (1 / 2 ^ 54 : ℚ) > 1 by norm_num), Int.cast_one, h1,
      show (((4 : ℤ) - 1 : ℤ) : ℚ) = 3 by norm_num,
      roundDouble_ofNat 3 (by norm_num), h3, hb]
    rw [Int.floor_eq_iff]; norm_num
  · exact hA₁
  · rfl
  · rfl
  · rfl
  · rfl

/-- From that state, a tick with no new load and a tick with 1024 bytes more WAL. Both see full queue
pressure; the first no WAL pressure, the second full. The first target `WQ` is within `MAX_STEP` of
`2⁻⁵⁴` once the step `WQ − 2⁻⁵⁴` is rounded (a tie, to the even `MAX_STEP`), so it is stored; the second
target `1` is not, and `2⁻⁵⁴ + MAX_STEP` rounds (a tie again) to `MAX_STEP`. `3·WQ` rounds up to `2`
and `3·MAX_STEP` stays below it, so the budgets are `3` and `2`. -/
theorem binary64_paired_ticks :
    (Rounded.tickWith Rounding.binary64 ⟨1, 1, 1, 1, 4, 6004799503160661 / 2 ^ 53, 0,
        3002399751580331 / 2 ^ 53, 0, 6004799503160660 / 2 ^ 53, true, false⟩
        ⟨0, 0, 0, 5404319552844595 / 2 ^ 44, 0, 0, 1, 1 / 2 ^ 54, 0, 1024, 0, 1⟩
        ⟨2, 1024, 0, 0⟩).currentAggressiveness = 6004799503160661 / 2 ^ 53 ∧
    (Rounded.tickWith Rounding.binary64 ⟨1, 1, 1, 1, 4, 6004799503160661 / 2 ^ 53, 0,
        3002399751580331 / 2 ^ 53, 0, 6004799503160660 / 2 ^ 53, true, false⟩
        ⟨0, 0, 0, 5404319552844595 / 2 ^ 44, 0, 0, 1, 1 / 2 ^ 54, 0, 1024, 0, 1⟩
        ⟨2, 1024, 0, 1024⟩).currentAggressiveness = 6004799503160660 / 2 ^ 53 ∧
    Rounded.budgetFromAggressiveness Rounding.binary64 (6004799503160661 / 2 ^ 53)
        ⟨1, 1, 1, 1, 4, 6004799503160661 / 2 ^ 53, 0, 3002399751580331 / 2 ^ 53, 0,
          6004799503160660 / 2 ^ 53, true, false⟩ = 3 ∧
    Rounded.budgetFromAggressiveness Rounding.binary64 (6004799503160660 / 2 ^ 53)
        ⟨1, 1, 1, 1, 4, 6004799503160661 / 2 ^ 53, 0, 3002399751580331 / 2 ^ 53, 0,
          6004799503160660 / 2 ^ 53, true, false⟩ = 2 := by
  obtain ⟨ha, hb⟩ := binary64_ewma_weights
  rw [ha] at hb
  have hdt : Rounded.measurementInterval Rounding.binary64 1 2 = 1 := by
    rw [Rounded.measurementInterval_of_one_le _ one_ne_zero (by norm_num)]
    exact Rounding.fl_one _
  have hq : 2 * (1 : ℚ) ≤ roundDouble (3152519739159347 / 2 ^ 52 * (5404319552844595 / 2 ^ 44)) :=
    le_trans (by norm_num) (Rounding.le_fl (ρ := Rounding.binary64) (a := 2) (Rounding.fl_two _)
      (by norm_num))
  have hw : 2 * (1 : ℚ) ≤ roundDouble (5404319552844595 / 2 ^ 54 * 1024) :=
    le_trans (by norm_num) (Rounding.le_fl (ρ := Rounding.binary64) (a := 2) (Rounding.fl_two _)
      (by norm_num))
  have hWQ : roundDouble (6004799503160661 / 2 ^ 53) = 6004799503160661 / 2 ^ 53 :=
    roundDouble_eq_self 6004799503160661 (-53) (by norm_num) (by norm_num) (by norm_num)
  have hWW : roundDouble (3002399751580331 / 2 ^ 53) = 3002399751580331 / 2 ^ 53 :=
    roundDouble_eq_self 3002399751580331 (-53) (by norm_num) (by norm_num) (by norm_num)
  have h1 : roundDouble (6004799503160661 / 2 ^ 53 + 3002399751580331 / 2 ^ 53) = 1 := by
    rw [show (6004799503160661 / 2 ^ 53 + 3002399751580331 / 2 ^ 53 : ℚ) = 1 by norm_num]
    exact Rounding.fl_one Rounding.binary64
  -- the ties: `WQ − 2⁻⁵⁴` and `2⁻⁵⁴ + MAX_STEP` round to the even `MAX_STEP`, `1 − 2⁻⁵⁴` and `3·WQ`
  -- to the even `1` and `2`
  have hd₁ : roundDouble (6004799503160661 / 2 ^ 53 - 1 / 2 ^ 54) = 6004799503160660 / 2 ^ 53 := by
    rw [roundDouble_eq_of_tie (-1) 6004799503160660 (by norm_num) (by norm_num) (by norm_num)
      (by norm_num)]; norm_num
  have hd₂ : roundDouble (1 - 1 / 2 ^ 54) = 1 := by
    rw [roundDouble_eq_of_tie (-1) (2 ^ 53 - 1) (by norm_num) (by norm_num) (by norm_num)
      (by norm_num)]; norm_num
  have hs₂ : roundDouble (1 / 2 ^ 54 + 6004799503160660 / 2 ^ 53) = 6004799503160660 / 2 ^ 53 := by
    rw [roundDouble_eq_of_tie (-1) 6004799503160660 (by norm_num) (by norm_num) (by norm_num)
      (by norm_num)]; norm_num
  have hone : roundDouble 1 = 1 := Rounding.fl_one Rounding.binary64
  have h3 : roundDouble 3 = 3 := roundDouble_ofNat _ (by norm_num)
  have hb₁ : roundDouble (6004799503160661 / 2 ^ 53 * 3) = 2 := by
    rw [roundDouble_eq_of_tie 0 (2 ^ 53 - 1) (by norm_num) (by norm_num) (by norm_num)
      (by norm_num)]; norm_num
  have hT₁ : Rounded.weightedAggressiveness Rounding.binary64 ⟨1, 1, 1, 1, 4,
      6004799503160661 / 2 ^ 53, 0, 3002399751580331 / 2 ^ 53, 0, 6004799503160660 / 2 ^ 53, true,
      false⟩ 1 0 0 = 6004799503160661 / 2 ^ 53 := by
    simp only [Rounded.weightedAggressiveness, Rounding.binary64_fl, mul_one, mul_zero,
      roundDouble_zero, add_zero, hWQ]
    norm_num
  have hT₂ : Rounded.weightedAggressiveness Rounding.binary64 ⟨1, 1, 1, 1, 4,
      6004799503160661 / 2 ^ 53, 0, 3002399751580331 / 2 ^ 53, 0, 6004799503160660 / 2 ^ 53, true,
      false⟩ 1 0 1 = 1 := by
    simp only [Rounded.weightedAggressiveness, Rounding.binary64_fl, mul_one, mul_zero,
      roundDouble_zero, add_zero, hWQ, hWW, h1]
    norm_num
  refine ⟨?_, ?_, ?_, ?_⟩
  rotate_left 2
  · rw [Rounded.budgetFromAggressiveness_of_mem _ (by norm_num) (by norm_num)]
    simp only [Rounding.binary64_fl, Int.cast_one, hone, h3, hb₁,
      show (((4 : ℤ) - 1 : ℤ) : ℚ) = 3 by norm_num]
    rw [show (1 + 2 : ℚ) = 3 by norm_num, h3]; rfl
  · rw [Rounded.budgetFromAggressiveness_of_mem _ (by norm_num) (by norm_num)]
    simp only [Rounding.binary64_fl, Int.cast_one, hone, h3,
      show (((4 : ℤ) - 1 : ℤ) : ℚ) = 3 by norm_num,
      roundDouble_eq_self (x := 6004799503160660 / 2 ^ 53 * 3) (2 ^ 53 - 2) (-52) (by norm_num)
        (by norm_num) (by norm_num),
      roundDouble_eq_self (x := 1 + 6004799503160660 / 2 ^ 53 * 3) (3 * 2 ^ 51 - 1) (-51)
        (by norm_num) (by norm_num) (by norm_num)]
    norm_num [Int.floor_eq_iff]
  all_goals
    simp only [Rounded.tickWith, Rounded.asrUpdateSmoothedMetrics_currentAggressiveness,
      Rounded.targetAggressiveness, Rounded.smoothMetrics_queueEwma,
      Rounded.smoothMetrics_missRateEwma, Rounded.smoothMetrics_walBpsEwma, hdt, zero_lt_one,
      gt_iff_lt, if_true, div_one, sub_self, UInt64.toNat_zero, Nat.cast_zero,
      Rounding.binary64_fl, roundDouble_zero, Rounded.ewmaUpdate_zero_left,
      Rounded.ewmaUpdate_zero_right, mul_zero, ha, hb,
      show (((1024 : UInt64) - 0).toNat : ℚ) = 1024 from rfl,
      roundDouble_ofNat 1024 (by norm_num),
      Rounded.computePressure_of_two_mul_le _ one_pos hq,
      Rounded.computePressure_of_two_mul_le _ one_pos hw,
      Rounded.computePressure_of_le Rounding.binary64 (zero_le_one' ℚ), hT₁, hT₂, Rounded.stepLimit,
      hd₁, hd₂, hs₂]
    norm_num [abs_of_pos]

/-! ### The theorem -/

/-- **More hot misses or more WAL, and the controller's output.** Two runs of ticks from one record,
with the same clock readings and task deltas and run 2's miss and WAL deltas at least run 1's. In
binary64, after every tick run 2's three EWMAs are at least run 1's. With double arithmetic modelled as
exact reals, under one well-formed configuration, so is its aggressiveness, and a single tick from one
record publishes at least run 1's budget for run 2. -/
theorem pairedRun_monotone :
    (∀ (cfg : ASRConfig) (m : ASRMetricsInternal) (ps : List (TickInput × TickInput)),
      PairedRunIn Rounding.binary64 cfg m m ps →
      SmoothDominated (Rounded.runTicks Rounding.binary64 cfg m (ps.map Prod.fst))
        (Rounded.runTicks Rounding.binary64 cfg m (ps.map Prod.snd))) ∧
    ∀ (cfg : ASRConfig), cfg.WellFormed → ∀ (m : ASRMetricsInternal)
      (ps : List (TickInput × TickInput)), PairedRun cfg m m ps →
      Dominated (runTicks cfg m (ps.map Prod.fst)) (runTicks cfg m (ps.map Prod.snd)) ∧
        ∀ i₁ i₂ : TickInput, TickDominates m m i₁ i₂ →
          asrGetCurrentBudget (tickWith cfg m i₁) ≤ asrGetCurrentBudget (tickWith cfg m i₂) :=
  ⟨fun cfg m ps hps => pairedRunIn_smoothDominated _ cfg ps m m (.refl m) hps,
    fun _ hcfg m ps hps => ⟨pairedRun_dominated hcfg ps m m (.refl m) hps,
      fun _ _ hi => tick_budget_mono hcfg m hi⟩⟩

/-- Both parts after `ASR_Init`, for a tick in which run 2 sees 20 MiB more WAL. -/
theorem pairedRun_monotone_at_init :
    PairedRunIn Rounding.binary64 (Rounded.asrDefaultConfig Rounding.binary64)
        (Rounded.asrInit Rounding.binary64 AsrState.static).metrics
        (Rounded.asrInit Rounding.binary64 AsrState.static).metrics
        [(⟨1, 50, 25, 0⟩, ⟨1, 50, 25, 20 * 2 ^ 20⟩)] ∧
      SmoothDominated
        (Rounded.runTicks Rounding.binary64 (Rounded.asrDefaultConfig Rounding.binary64)
          (Rounded.asrInit Rounding.binary64 AsrState.static).metrics [⟨1, 50, 25, 0⟩])
        (Rounded.runTicks Rounding.binary64 (Rounded.asrDefaultConfig Rounding.binary64)
          (Rounded.asrInit Rounding.binary64 AsrState.static).metrics [⟨1, 50, 25, 20 * 2 ^ 20⟩]) ∧
      asrDefaultConfig.WellFormed ∧
      PairedRun asrDefaultConfig (asrInit AsrState.static).metrics (asrInit AsrState.static).metrics
        [(⟨1, 50, 25, 0⟩, ⟨1, 50, 25, 20 * 2 ^ 20⟩)] ∧
      Dominated (runTicks asrDefaultConfig (asrInit AsrState.static).metrics [⟨1, 50, 25, 0⟩])
        (runTicks asrDefaultConfig (asrInit AsrState.static).metrics [⟨1, 50, 25, 20 * 2 ^ 20⟩]) ∧
      TickDominates (asrInit AsrState.static).metrics (asrInit AsrState.static).metrics
        ⟨1, 50, 25, 0⟩ ⟨1, 50, 25, 20 * 2 ^ 20⟩ ∧
      asrGetCurrentBudget (tickWith asrDefaultConfig (asrInit AsrState.static).metrics
          ⟨1, 50, 25, 0⟩) ≤
        asrGetCurrentBudget (tickWith asrDefaultConfig (asrInit AsrState.static).metrics
          ⟨1, 50, 25, 20 * 2 ^ 20⟩) := by
  have hi : TickDominates (asrInit AsrState.static).metrics (asrInit AsrState.static).metrics
      ⟨1, 50, 25, 0⟩ ⟨1, 50, 25, 20 * 2 ^ 20⟩ := ⟨rfl, rfl, by decide, by decide⟩
  have hps : PairedRun asrDefaultConfig (asrInit AsrState.static).metrics
      (asrInit AsrState.static).metrics [(⟨1, 50, 25, 0⟩, ⟨1, 50, 25, 20 * 2 ^ 20⟩)] := ⟨hi, trivial⟩
  have hps₆₄ : PairedRunIn Rounding.binary64 (Rounded.asrDefaultConfig Rounding.binary64)
      (Rounded.asrInit Rounding.binary64 AsrState.static).metrics
      (Rounded.asrInit Rounding.binary64 AsrState.static).metrics
      [(⟨1, 50, 25, 0⟩, ⟨1, 50, 25, 20 * 2 ^ 20⟩)] := ⟨⟨rfl, rfl, by decide, by decide⟩, trivial⟩
  obtain ⟨hd, hb⟩ := pairedRun_monotone.2 _ asrDefaultConfig_wellFormed _ _ hps
  exact ⟨hps₆₄, pairedRun_monotone.1 _ _ _ hps₆₄, asrDefaultConfig_wellFormed, hps, hd, hi,
    hb _ _ hi⟩

/-- **Under binary64 more WAL can lower the aggressiveness and the budget.** From a state of a run
from `ASR_Init` under well-formed configurations holding doubles, two ticks read the same clock and
task counter and run 2 reads 1024 more bytes of WAL; run 1 stores the aggressiveness
`6004799503160661·2⁻⁵³` and publishes `3`, run 2 stores `6004799503160660·2⁻⁵³` and publishes `2`. -/
theorem binary64_more_wal_lowers_aggressiveness :
    ReachableIn Rounding.binary64
        ⟨⟨1, 1, 1, 1, 4, 6004799503160661 / 2 ^ 53, 0, 3002399751580331 / 2 ^ 53, 0,
            6004799503160660 / 2 ^ 53, true, false⟩,
          ⟨0, 0, 0, 5404319552844595 / 2 ^ 44, 0, 0, 1, 1 / 2 ^ 54, 0, 1024, 0, 1⟩⟩ ∧
      PairedRunIn Rounding.binary64 ⟨1, 1, 1, 1, 4, 6004799503160661 / 2 ^ 53, 0,
          3002399751580331 / 2 ^ 53, 0, 6004799503160660 / 2 ^ 53, true, false⟩
        ⟨0, 0, 0, 5404319552844595 / 2 ^ 44, 0, 0, 1, 1 / 2 ^ 54, 0, 1024, 0, 1⟩
        ⟨0, 0, 0, 5404319552844595 / 2 ^ 44, 0, 0, 1, 1 / 2 ^ 54, 0, 1024, 0, 1⟩
        [(⟨2, 1024, 0, 0⟩, ⟨2, 1024, 0, 1024⟩)] ∧
      (Rounded.tickWith Rounding.binary64 ⟨1, 1, 1, 1, 4, 6004799503160661 / 2 ^ 53, 0,
          3002399751580331 / 2 ^ 53, 0, 6004799503160660 / 2 ^ 53, true, false⟩
          ⟨0, 0, 0, 5404319552844595 / 2 ^ 44, 0, 0, 1, 1 / 2 ^ 54, 0, 1024, 0, 1⟩
          ⟨2, 1024, 0, 0⟩).currentAggressiveness = 6004799503160661 / 2 ^ 53 ∧
      (Rounded.tickWith Rounding.binary64 ⟨1, 1, 1, 1, 4, 6004799503160661 / 2 ^ 53, 0,
          3002399751580331 / 2 ^ 53, 0, 6004799503160660 / 2 ^ 53, true, false⟩
          ⟨0, 0, 0, 5404319552844595 / 2 ^ 44, 0, 0, 1, 1 / 2 ^ 54, 0, 1024, 0, 1⟩
          ⟨2, 1024, 0, 1024⟩).currentAggressiveness = 6004799503160660 / 2 ^ 53 ∧
      asrGetCurrentBudget (Rounded.tickWith Rounding.binary64 ⟨1, 1, 1, 1, 4,
          6004799503160661 / 2 ^ 53, 0, 3002399751580331 / 2 ^ 53, 0, 6004799503160660 / 2 ^ 53,
          true, false⟩
          ⟨0, 0, 0, 5404319552844595 / 2 ^ 44, 0, 0, 1, 1 / 2 ^ 54, 0, 1024, 0, 1⟩
          ⟨2, 1024, 0, 0⟩) = 3 ∧
      asrGetCurrentBudget (Rounded.tickWith Rounding.binary64 ⟨1, 1, 1, 1, 4,
          6004799503160661 / 2 ^ 53, 0, 3002399751580331 / 2 ^ 53, 0, 6004799503160660 / 2 ^ 53,
          true, false⟩
          ⟨0, 0, 0, 5404319552844595 / 2 ^ 44, 0, 0, 1, 1 / 2 ^ 54, 0, 1024, 0, 1⟩
          ⟨2, 1024, 0, 1024⟩) = 2 := by
  have h1 : roundDouble 1 = 1 := Rounding.fl_one Rounding.binary64
  obtain ⟨hA₁, hA₂, hb₁, hb₂⟩ := binary64_paired_ticks
  have hr : ReachableIn Rounding.binary64 (AsrState.runIn Rounding.binary64
      (Rounded.asrInit Rounding.binary64 AsrState.static)
      [.updateConfig (some ⟨1, 1, 1, 1, 4, 1 / 2 ^ 54, 0, 0, 0, 1, true, false⟩), .tick 1 1024 0 0,
        .updateConfig (some ⟨1, 1, 1, 1, 4, 6004799503160661 / 2 ^ 53, 0,
          3002399751580331 / 2 ^ 53, 0, 6004799503160660 / 2 ^ 53, true, false⟩)]) := by
    simp only [AsrState.runIn_cons, AsrState.runIn_nil]
    refine ((ReachableIn.init.step _ ?_).step (.tick 1 1024 0 0) trivial).step _ ?_ <;>
      refine ⟨by rw [ASRConfig.wellFormed_iff]; norm_num, ?_⟩
    · exact ⟨h1, h1, h1, roundDouble_eq_self 1 (-54) (by norm_num) (by norm_num) (by norm_num),
        roundDouble_zero, roundDouble_zero, h1⟩
    · exact ⟨h1, h1, h1,
        roundDouble_eq_self 6004799503160661 (-53) (by norm_num) (by norm_num) (by norm_num),
        roundDouble_zero,
        roundDouble_eq_self 3002399751580331 (-53) (by norm_num) (by norm_num) (by norm_num),
        roundDouble_eq_self 6004799503160660 (-53) (by norm_num) (by norm_num) (by norm_num)⟩
  rw [binary64_tiny_aggressiveness_run] at hr
  refine ⟨hr, ⟨⟨rfl, rfl, by decide, by decide⟩, trivial⟩, hA₁, hA₂, ?_, ?_⟩
  · rw [asrGetCurrentBudget, Rounded.tickWith, Rounded.asrUpdateSmoothedMetrics_currentBudget,
      ← Rounded.tickWith, hA₁, hb₁, applyHysteresis_eq, if_neg (not_lt.mpr (abs_nonneg _))]
  · rw [asrGetCurrentBudget, Rounded.tickWith, Rounded.asrUpdateSmoothedMetrics_currentBudget,
      ← Rounded.tickWith, hA₂, hb₂, applyHysteresis_eq, if_neg (not_lt.mpr (abs_nonneg _))]

/-! ## §2 — the hot-miss path -/

/-- **The miss counter reaches no field but `last_total_misses`.** Two ticks that differ only in the
value their load of `hot_misses` returned agree everywhere else. -/
theorem asrUpdateSmoothedMetrics_misses_irrelevant (cfg : ASRConfig) (now : Int) (t q q' w : UInt64)
    (m : ASRMetricsInternal) :
    { asrUpdateSmoothedMetrics cfg now t q w m with lastTotalMisses := 0 } =
      { asrUpdateSmoothedMetrics cfg now t q' w m with lastTotalMisses := 0 } := by
  simp only [asrUpdateSmoothedMetrics, controlStep, targetAggressiveness, smoothMetrics, gt_iff_lt,
    UInt64.lt_irrefl, if_false]

/-- **The failing input.** After `ASR_Init`, a tick that loads 50 replayed records and 25 hot misses
stores `miss_rate_ewma = 0`, not `EWMA_ALPHA·25/(50 + 1) + (1 − EWMA_ALPHA)·0 = 5/34`. -/
theorem missRate_ignores_hot_misses :
    (asrUpdateSmoothedMetrics asrDefaultConfig 1 50 25 0 (asrInit AsrState.static).metrics).missRateEwma
      = 0 ∧
    (asrUpdateSmoothedMetrics asrDefaultConfig 1 50 25 0 (asrInit AsrState.static).metrics).missRateEwma
      ≠ EWMA_ALPHA * ((25 : ℚ) / (50 + 1)) +
        (1 - EWMA_ALPHA) * (asrInit AsrState.static).metrics.missRateEwma := by
  rw [asrUpdateSmoothedMetrics_missRateEwma, smoothMetrics_missRateEwma, ewmaUpdate_eq]
  norm_num [asrInit, AsrState.static, asrMetricsStatic, EWMA_ALPHA]

end AdaptiveSR
