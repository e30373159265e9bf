import AdaptiveSR.Snapshot
import AdaptiveSR.Rounded

/-!
# `AdaptiveSR.Aggressiveness` — the step-limited aggressiveness, one tick and a whole run.

Each tick computes a target `T = clamp(WQ·e_q + WM·e_m + WW·e_w, 0, 1)` from the freshly smoothed
values and moves the stored aggressiveness toward it by at most `MAX_STEP` (`stepLimit`, a median of
three). From that one step: the aggressiveness stays in `[0, 1]` across every run, including runs that
swap the configuration; it lies between its old value and the target, equal to the target when that
is within reach; and while the target stays put the distance to it falls by exactly `MAX_STEP` a tick
(`runTicks_dist`), so `⌈|T − A|/MAX_STEP⌉` ticks reach it.

Those two facts need exact arithmetic. The step limiter stores `current_aggressiveness ± MAX_STEP` as
rounded, so under binary64 a tick can move further than `MAX_STEP` (at the defaults `0.1 + 0.2` is
stored as `0.30000000000000004`), and where `A ± MAX_STEP` rounds back to `A` the aggressiveness stops
for good, short of a target it never reaches. What survives rounding is the rest: a double in
`[0, 1]`, between the old value and the target, the target itself when within reach, and otherwise
`A ± MAX_STEP` as rounded (`Rounded.tick_aggressiveness`).

Under sustained load: while every tick samples replay and WAL rates of at least `rq` and `rw`, the
gap of each EWMA below them shrinks by `7/10` a tick (`runTicks_ewma_gap`); once both EWMAs pass
twice their references both pressures are `1` for good, the target is the cap `min (WQ + WW) 1` of
`AdaptiveSR.Snapshot`, and `⌈1/MAX_STEP⌉` ticks reach it (`runTicks_saturates`): the cap is the most
the controller reaches, and it does reach it.

At the target a tick proposes the same budget every time, and the hysteresis applied twice toward
one proposal changes nothing the second time (`applyHysteresis_idem`): under a steady load the budget
stops moving one tick after the aggressiveness arrives, possibly `HYST − 1` short of the budget the
target maps to (`runTicks_budget_settles`). These run results are in exact arithmetic.
-/

namespace AdaptiveSR

/-- Every tick of the run sees target `T`. -/
def TargetStays (cfg : ASRConfig) (T : ℚ) : ASRMetricsInternal → List TickInput → Prop
  | _, [] => True
  | m, i :: is => targetAggressiveness cfg (smoothMetrics i.now i.totalTasks i.totalMisses
      i.totalWalBytes m) = T ∧ TargetStays cfg T (tickWith cfg m i) is

/-- Taking `m` off a distance already cut to `max x 0` is taking it off `x`. -/
theorem max_max_sub {x m : ℚ} (hm : 0 ≤ m) : max (max x 0 - m) 0 = max (x - m) 0 := by
  rcases le_total x 0 with h | h
  · rw [max_eq_right h, max_eq_right (by linarith), max_eq_right (by linarith)]
  · rw [max_eq_left h]

/-- **While the target stays at `T`, each tick takes `MAX_STEP` off the distance to it**, down to `0`. -/
theorem runTicks_dist {cfg : ASRConfig} (hm : 0 ≤ cfg.MAX_STEP) {T : ℚ} :
    ∀ (m : ASRMetricsInternal) (is : List TickInput), TargetStays cfg T m is →
      |T - (runTicks cfg m is).currentAggressiveness| =
        max (|T - m.currentAggressiveness| - is.length * cfg.MAX_STEP) 0
  | m, [], _ => by
    rw [runTicks_nil, List.length_nil, Nat.cast_zero, zero_mul, sub_zero,
      max_eq_left (abs_nonneg _)]
  | m, i :: is, ⟨hT, hrest⟩ => by
    rw [runTicks_cons, runTicks_dist hm _ is hrest, tickWith,
      asrUpdateSmoothedMetrics_currentAggressiveness, hT, abs_sub_stepLimit,
      max_max_sub (mul_nonneg (Nat.cast_nonneg _) hm), List.length_cons, Nat.cast_succ]
    congr 1; ring

/-- Enough ticks under a steady target reach it. -/
theorem runTicks_reaches {cfg : ASRConfig} (hm : 0 < cfg.MAX_STEP) {T : ℚ}
    {m : ASRMetricsInternal} {is : List TickInput} (hT : TargetStays cfg T m is)
    (hn : ⌈|T - m.currentAggressiveness| / cfg.MAX_STEP⌉ ≤ is.length) :
    (runTicks cfg m is).currentAggressiveness = T := by
  have hle : |T - m.currentAggressiveness| ≤ is.length * cfg.MAX_STEP := by
    have h1 := Int.le_ceil (|T - m.currentAggressiveness| / cfg.MAX_STEP)
    have h2 : ((⌈|T - m.currentAggressiveness| / cfg.MAX_STEP⌉ : Int) : ℚ) ≤ is.length := by
      exact_mod_cast hn
    exact (div_le_iff₀ hm).mp (h1.trans h2)
  have := runTicks_dist hm.le m is hT
  rw [max_eq_right (by linarith)] at this
  exact (sub_eq_zero.mp (abs_eq_zero.mp this)).symm

theorem runTicks_append (cfg : ASRConfig) (m : ASRMetricsInternal) (is js : List TickInput) :
    runTicks cfg m (is ++ js) = runTicks cfg (runTicks cfg m is) js := by
  induction is generalizing m with
  | nil => rfl
  | cons i is ih => exact ih _

theorem TargetStays.append {cfg : ASRConfig} {T : ℚ} {m : ASRMetricsInternal}
    {is js : List TickInput} :
    TargetStays cfg T m (is ++ js) ↔ TargetStays cfg T m is ∧ TargetStays cfg T (runTicks cfg m is) js := by
  induction is generalizing m with
  | nil => simp [TargetStays]
  | cons i is ih =>
    simp only [List.cons_append, TargetStays, runTicks_cons, and_assoc]
    exact and_congr_right fun _ => ih

/-! ### Rounding at work -/

/-- Every tick of the run takes a replay-rate sample of at least `rq` and a WAL-rate sample of at
least `rw` (lines 275–276 and 300–301). -/
def LoadAtLeast (cfg : ASRConfig) (rq rw : ℚ) : ASRMetricsInternal → List TickInput → Prop
  | _, [] => True
  | m, i :: is =>
    rq ≤ ((i.totalTasks - m.lastTotalTasks).toNat : ℚ) / measurementInterval m.lastMeasurement i.now ∧
    rw ≤ ((i.totalWalBytes - m.lastWalBytes).toNat : ℚ) / measurementInterval m.lastMeasurement i.now ∧
    LoadAtLeast cfg rq rw (tickWith cfg m i) is

theorem LoadAtLeast.append {cfg : ASRConfig} {rq rw : ℚ} {m : ASRMetricsInternal}
    {is js : List TickInput} :
    LoadAtLeast cfg rq rw m (is ++ js) ↔
      LoadAtLeast cfg rq rw m is ∧ LoadAtLeast cfg rq rw (runTicks cfg m is) js := by
  induction is generalizing m with
  | nil => simp [LoadAtLeast]
  | cons i is ih =>
    simp only [List.cons_append, LoadAtLeast, runTicks_cons, and_assoc]
    exact and_congr_right fun _ => and_congr_right fun _ => ih

/-- An EWMA step toward a sample of at least `r` closes at least `3/10` of the gap below `r`. -/
theorem sub_ewmaUpdate_le {o n r : ℚ} (h : r ≤ n) : r - ewmaUpdate o n ≤ 7 / 10 * (r - o) := by
  rw [ewmaUpdate_eq]; linarith only [h]

/-- **While the samples stay at least `rq` and `rw`, the gap of each EWMA below them shrinks by
`7/10` a tick.** -/
theorem runTicks_ewma_gap {cfg : ASRConfig} {rq rw : ℚ} :
    ∀ (m : ASRMetricsInternal) (is : List TickInput), LoadAtLeast cfg rq rw m is →
      rq - (runTicks cfg m is).queueEwma ≤ (7 / 10) ^ is.length * (rq - m.queueEwma) ∧
        rw - (runTicks cfg m is).walBpsEwma ≤ (7 / 10) ^ is.length * (rw - m.walBpsEwma)
  | m, [], _ => by simp
  | m, i :: is, ⟨hq, hw, hrest⟩ => by
    obtain ⟨ihq, ihw⟩ := runTicks_ewma_gap _ is hrest
    have hq₁ : rq - (tickWith cfg m i).queueEwma ≤ 7 / 10 * (rq - m.queueEwma) := by
      rw [tickWith, asrUpdateSmoothedMetrics_queueEwma, smoothMetrics_queueEwma]
      exact sub_ewmaUpdate_le hq
    have hw₁ : rw - (tickWith cfg m i).walBpsEwma ≤ 7 / 10 * (rw - m.walBpsEwma) := by
      rw [tickWith, asrUpdateSmoothedMetrics_walBpsEwma, smoothMetrics_walBpsEwma]
      exact sub_ewmaUpdate_le hw
    have hp : (0 : ℚ) ≤ (7 / 10) ^ is.length := by positivity
    rw [runTicks_cons, List.length_cons, pow_succ, mul_assoc, mul_assoc]
    exact ⟨ihq.trans (mul_le_mul_of_nonneg_left hq₁ hp),
      ihw.trans (mul_le_mul_of_nonneg_left hw₁ hp)⟩

theorem SmootherInv.runTicks {cfg : ASRConfig} :
    ∀ {m : ASRMetricsInternal} (is : List TickInput), SmootherInv m → SmootherInv (runTicks cfg m is)
  | _, [], h => h
  | _, _ :: is, h => SmootherInv.runTicks is (h.tick _ _ _ _ _)

theorem runTicks_aggressiveness_mem {cfg : ASRConfig} (hm : 0 ≤ cfg.MAX_STEP) :
    ∀ {m : ASRMetricsInternal} (is : List TickInput), 0 ≤ m.currentAggressiveness →
      m.currentAggressiveness ≤ 1 →
      0 ≤ (runTicks cfg m is).currentAggressiveness ∧ (runTicks cfg m is).currentAggressiveness ≤ 1
  | _, [], h0, h1 => ⟨h0, h1⟩
  | _, i :: is, h0, h1 =>
    have h := tick_aggressiveness_mem i.now i.totalTasks i.totalMisses i.totalWalBytes hm h0 h1
    runTicks_aggressiveness_mem hm is h.1 h.2

/-- The arithmetic of saturation. With `0 ≤ p ≤ 1`, if the part `1 − p` of a rate `r` is at least
twice a positive reference, so is `r`, and so is an EWMA `e` that started at `e₀ ≥ 0` and has closed
all but the part `p` of its gap to `r`. -/
theorem saturation_bounds {ref r e e₀ p : ℚ} (hr : 0 < ref) (hp0 : 0 ≤ p) (hp1 : p ≤ 1)
    (he₀ : 0 ≤ e₀) (hgap : r - e ≤ p * (r - e₀)) (h : 2 * ref ≤ r * (1 - p)) :
    2 * ref ≤ r ∧ 2 * ref ≤ e := by
  rw [mul_sub] at hgap
  rw [mul_sub, mul_one] at h
  have hpe := mul_nonneg hp0 he₀
  refine ⟨?_, by linarith [mul_comm p r]⟩
  rcases le_or_lt 0 r with h0 | h0
  · linarith [mul_nonneg h0 hp0]
  · linarith [mul_le_mul_of_nonpos_left hp1 h0.le, mul_one r]

/-- A raw value at twice its reference or more is full pressure. -/
theorem computePressure_of_two_mul_le {raw expected : ℚ} (he : 0 < expected)
    (h : 2 * expected ≤ raw) : computePressure raw expected = 1 := by
  have : 2 ≤ raw / expected := (le_div_iff₀ he).mpr (by linarith)
  rw [computePressure_eq raw he, min_eq_right (by linarith), max_eq_left zero_le_one]

/-- Once both EWMAs are at twice their references, and stay there because the samples are, every
tick's target is the cap `min (WQ + WW) 1`. -/
theorem targetStays_of_saturated {cfg : ASRConfig} (hcfg : cfg.WellFormed) {rq rw : ℚ}
    (hrq : 2 * cfg.QSTAR ≤ rq) (hrw : 2 * cfg.WSTAR ≤ rw) :
    ∀ (m : ASRMetricsInternal) (is : List TickInput), SmootherInv m →
      2 * cfg.QSTAR ≤ m.queueEwma → 2 * cfg.WSTAR ≤ m.walBpsEwma → LoadAtLeast cfg rq rw m is →
      TargetStays cfg (missFreeCap cfg) m is
  | _, [], _, _, _, _ => trivial
  | m, i :: is, hsm, hq, hw, ⟨hsq, hsw, hrest⟩ => by
    have hq' : 2 * cfg.QSTAR ≤ (tickWith cfg m i).queueEwma := by
      rw [tickWith, asrUpdateSmoothedMetrics_queueEwma, smoothMetrics_queueEwma]
      exact le_ewmaUpdate hq (hrq.trans hsq)
    have hw' : 2 * cfg.WSTAR ≤ (tickWith cfg m i).walBpsEwma := by
      rw [tickWith, asrUpdateSmoothedMetrics_walBpsEwma, smoothMetrics_walBpsEwma]
      exact le_ewmaUpdate hw (hrw.trans hsw)
    refine ⟨?_, targetStays_of_saturated hcfg hrq hrw _ is (hsm.tick _ _ _ _ _) hq' hw' hrest⟩
    have hm0 := (hsm.tick cfg i.now i.totalTasks i.totalMisses i.totalWalBytes).missRate_zero
    rw [tickWith, asrUpdateSmoothedMetrics_queueEwma] at hq'
    rw [tickWith, asrUpdateSmoothedMetrics_walBpsEwma] at hw'
    rw [asrUpdateSmoothedMetrics_missRateEwma] at hm0
    rw [targetAggressiveness, computePressure_of_two_mul_le hcfg.qstar_pos hq',
      computePressure_of_two_mul_le hcfg.wstar_pos hw', hm0, computePressure,
      if_pos hcfg.rstar_pos.le, weightedAggressiveness_eq, missFreeCap, mul_one, mul_one, mul_zero,
      add_zero, max_eq_left (le_min (add_nonneg hcfg.wq_nonneg hcfg.ww_nonneg) zero_le_one)]

/-- **Sustained overload drives the aggressiveness to its cap.** Under a well-formed configuration,
from a record with the smoother invariant and an aggressiveness in `[0, 1]`: if every tick sees a
replay rate of at least `rq` and a WAL rate of at least `rw`, and `is` is long enough for the EWMAs
to pass twice their references (`2·QSTAR ≤ rq·(1 − 0.7^|is|)`, likewise for the WAL), then
`⌈1/MAX_STEP⌉` more ticks bring the aggressiveness to `min (WQ + WW) 1`, the most it can reach
(`reachable_aggressiveness_capped`). -/
theorem runTicks_saturates {cfg : ASRConfig} (hcfg : cfg.WellFormed) {rq rw : ℚ}
    {m : ASRMetricsInternal} (hsm : SmootherInv m) (h0 : 0 ≤ m.currentAggressiveness)
    (h1 : m.currentAggressiveness ≤ 1) {is js : List TickInput}
    (hload : LoadAtLeast cfg rq rw m (is ++ js))
    (hq : 2 * cfg.QSTAR ≤ rq * (1 - (7 / 10) ^ is.length))
    (hw : 2 * cfg.WSTAR ≤ rw * (1 - (7 / 10) ^ is.length))
    (hjs : ⌈1 / cfg.MAX_STEP⌉ ≤ js.length) :
    (runTicks cfg m (is ++ js)).currentAggressiveness = missFreeCap cfg := by
  obtain ⟨hl₁, hl₂⟩ := LoadAtLeast.append.mp hload
  obtain ⟨hgq, hgw⟩ := runTicks_ewma_gap m is hl₁
  have hp0 : (0 : ℚ) ≤ (7 / 10) ^ is.length := by positivity
  have hp1 : (7 / 10 : ℚ) ^ is.length ≤ 1 := pow_le_one₀ (by norm_num) (by norm_num)
  -- the rates are at least twice the references, and after `is` so are both EWMAs
  obtain ⟨hrq, heq⟩ := saturation_bounds hcfg.qstar_pos hp0 hp1 hsm.queue_nonneg hgq hq
  obtain ⟨hrw, hew⟩ := saturation_bounds hcfg.wstar_pos hp0 hp1 hsm.walBps_nonneg hgw hw
  have hT := targetStays_of_saturated hcfg hrq hrw _ js (hsm.runTicks is) heq hew hl₂
  have hA := runTicks_aggressiveness_mem hcfg.maxStep_pos.le is h0 h1
  have hdist : |missFreeCap cfg - (runTicks cfg m is).currentAggressiveness| ≤ 1 :=
    abs_sub_le_of_nonneg_of_le (le_min (add_nonneg hcfg.wq_nonneg hcfg.ww_nonneg) zero_le_one)
      (min_le_right _ _) hA.1 hA.2
  rw [runTicks_append]
  refine runTicks_reaches hcfg.maxStep_pos hT (le_trans (Int.ceil_mono ?_) hjs)
  exact div_le_div_of_nonneg_right hdist hcfg.maxStep_pos.le

/-- After `ASR_Init`, ticks one second apart that each see 1000 replayed records and 100 MB of WAL:
one tick lifts both EWMAs past twice their references, and five more bring the aggressiveness to
`0.3 + 0.1`. -/
theorem runTicks_saturates_at_init :
    LoadAtLeast asrDefaultConfig 1000 100000000 (asrInit AsrState.static).metrics
        ([⟨1, 1000, 0, 100000000⟩] ++ [⟨2, 2000, 0, 200000000⟩, ⟨3, 3000, 0, 300000000⟩,
          ⟨4, 4000, 0, 400000000⟩, ⟨5, 5000, 0, 500000000⟩, ⟨6, 6000, 0, 600000000⟩]) ∧
      2 * asrDefaultConfig.QSTAR ≤ 1000 * (1 - (7 / 10) ^ [(⟨1, 1000, 0, 100000000⟩ : TickInput)].length) ∧
      2 * asrDefaultConfig.WSTAR ≤
        100000000 * (1 - (7 / 10) ^ [(⟨1, 1000, 0, 100000000⟩ : TickInput)].length) ∧
      ⌈1 / asrDefaultConfig.MAX_STEP⌉ ≤ ([⟨2, 2000, 0, 200000000⟩, ⟨3, 3000, 0, 300000000⟩,
          ⟨4, 4000, 0, 400000000⟩, ⟨5, 5000, 0, 500000000⟩, ⟨6, 6000, 0, 600000000⟩] :
            List TickInput).length ∧
      (runTicks asrDefaultConfig (asrInit AsrState.static).metrics
        ([⟨1, 1000, 0, 100000000⟩] ++ [⟨2, 2000, 0, 200000000⟩, ⟨3, 3000, 0, 300000000⟩,
          ⟨4, 4000, 0, 400000000⟩, ⟨5, 5000, 0, 500000000⟩, ⟨6, 6000, 0, 600000000⟩])).currentAggressiveness =
        missFreeCap asrDefaultConfig := by
  have hload : LoadAtLeast asrDefaultConfig 1000 100000000 (asrInit AsrState.static).metrics
      ([⟨1, 1000, 0, 100000000⟩] ++ [⟨2, 2000, 0, 200000000⟩, ⟨3, 3000, 0, 300000000⟩,
        ⟨4, 4000, 0, 400000000⟩, ⟨5, 5000, 0, 500000000⟩, ⟨6, 6000, 0, 600000000⟩]) := by
    simp only [List.cons_append, List.nil_append, LoadAtLeast, tickWith,
      asrUpdateSmoothedMetrics_lastTotalTasks, asrUpdateSmoothedMetrics_lastWalBytes,
      asrUpdateSmoothedMetrics_lastMeasurement, asrInit_metrics, AsrState.static, asrMetricsStatic]
    simp [measurementInterval]
    norm_num
  have hq : 2 * asrDefaultConfig.QSTAR ≤
      1000 * (1 - (7 / 10) ^ [(⟨1, 1000, 0, 100000000⟩ : TickInput)].length) := by
    norm_num [asrDefaultConfig]
  have hw : 2 * asrDefaultConfig.WSTAR ≤
      100000000 * (1 - (7 / 10) ^ [(⟨1, 1000, 0, 100000000⟩ : TickInput)].length) := by
    norm_num [asrDefaultConfig]
  have hjs : ⌈1 / asrDefaultConfig.MAX_STEP⌉ ≤ ([⟨2, 2000, 0, 200000000⟩, ⟨3, 3000, 0, 300000000⟩,
      ⟨4, 4000, 0, 400000000⟩, ⟨5, 5000, 0, 500000000⟩, ⟨6, 6000, 0, 600000000⟩] :
        List TickInput).length := by
    norm_num [asrDefaultConfig, Int.ceil_le]
  exact ⟨hload, hq, hw, hjs, runTicks_saturates asrDefaultConfig_wellFormed
    (reachable_smootherInv Reachable.init) le_rfl zero_le_one hload hq hw hjs⟩

/-! ## §3 — the budget under a steady target -/

/-- A tick at the target it computes keeps the aggressiveness there and moves the budget by the
hysteresis toward the budget the target maps to. -/
theorem tickWith_at_target {cfg : ASRConfig} (hm : 0 ≤ cfg.MAX_STEP) {T : ℚ}
    {m : ASRMetricsInternal} {i : TickInput} (hA : m.currentAggressiveness = T)
    (hT : TargetStays cfg T m [i]) :
    (tickWith cfg m i).currentAggressiveness = T ∧
      (tickWith cfg m i).currentBudget =
        applyHysteresis (budgetFromAggressiveness T cfg) m.currentBudget cfg.HYST := by
  have hA' : (tickWith cfg m i).currentAggressiveness = T := by
    rw [tickWith, asrUpdateSmoothedMetrics_currentAggressiveness, hT.1, hA,
      stepLimit_of_abs_le (by rwa [sub_self, abs_zero])]
  exact ⟨hA', by rw [tickWith, asrUpdateSmoothedMetrics_currentBudget, ← tickWith, hA']⟩

/-- **At the target, the first tick fixes the budget.** From aggressiveness `T`, while the target
stays `T`, every run of at least one tick ends with the budget the first tick published. -/
theorem runTicks_at_target {cfg : ASRConfig} (hm : 0 ≤ cfg.MAX_STEP) {T : ℚ} :
    ∀ (m : ASRMetricsInternal) (i : TickInput) (is : List TickInput),
      m.currentAggressiveness = T → TargetStays cfg T m (i :: is) →
      (runTicks cfg m (i :: is)).currentAggressiveness = T ∧
        (runTicks cfg m (i :: is)).currentBudget =
          applyHysteresis (budgetFromAggressiveness T cfg) m.currentBudget cfg.HYST
  | m, i, [], hA, hT => tickWith_at_target hm hA hT
  | m, i, i' :: is, hA, ⟨hT, hrest⟩ => by
    obtain ⟨hA₁, hb₁⟩ := tickWith_at_target hm hA ⟨hT, trivial⟩
    obtain ⟨hA', hb'⟩ := runTicks_at_target hm _ i' is hA₁ hrest
    rw [runTicks_cons, hb', hb₁, applyHysteresis_idem]
    exact ⟨hA', rfl⟩

/-- **A steady load settles the budget.** While every tick's target is `T`, once
`⌈|T − A|/MAX_STEP⌉` ticks `is` have brought the aggressiveness to `T`, the next tick `i` fixes the
budget for good: no later tick of the stretch changes it, and it is the budget `T` maps to or lies
within `HYST − 1` of it, where the hysteresis holds it. -/
theorem runTicks_budget_settles {cfg : ASRConfig} (hcfg : cfg.WellFormed) {T : ℚ}
    {m : ASRMetricsInternal} {is : List TickInput} (i : TickInput) (js : List TickInput)
    (hT : TargetStays cfg T m (is ++ i :: js))
    (hn : ⌈|T - m.currentAggressiveness| / cfg.MAX_STEP⌉ ≤ is.length) :
    (runTicks cfg m (is ++ i :: js)).currentBudget = (runTicks cfg m (is ++ [i])).currentBudget ∧
      ((runTicks cfg m (is ++ [i])).currentBudget = budgetFromAggressiveness T cfg ∨
        |budgetFromAggressiveness T cfg - (runTicks cfg m (is ++ [i])).currentBudget| <
          cfg.HYST) := by
  obtain ⟨hTis, hTrest⟩ := TargetStays.append.mp hT
  have hA := runTicks_reaches hcfg.maxStep_pos hTis hn
  have hm := hcfg.maxStep_pos.le
  rw [runTicks_append, runTicks_append, (runTicks_at_target hm _ i js hA hTrest).2,
    (runTicks_at_target hm _ i [] hA ⟨hTrest.1, trivial⟩).2]
  refine ⟨rfl, ?_⟩
  rcases applyHysteresis_cases (budgetFromAggressiveness T cfg)
    (runTicks cfg m is).currentBudget cfg.HYST with ⟨h, hlt⟩ | ⟨h, -⟩ <;> rw [h]
  · exact .inr hlt
  · exact .inl rfl

/-- Under a sustained load of 1000 replayed records and 100 MB of WAL a second, from the record the
first tick after `ASR_Init` leaves (both EWMAs past twice their references): the target is the cap
`0.3 + 0.1` at every tick, three ticks bring the aggressiveness there from anywhere in `[0, 1]`, and
the fourth fixes the budget for the rest of the stretch. -/
theorem runTicks_budget_settles_saturated :
    let m₁ := tickWith asrDefaultConfig (asrInit AsrState.static).metrics ⟨1, 1000, 0, 100000000⟩
    let is : List TickInput :=
      [⟨2, 2000, 0, 200000000⟩, ⟨3, 3000, 0, 300000000⟩, ⟨4, 4000, 0, 400000000⟩]
    let i : TickInput := ⟨5, 5000, 0, 500000000⟩
    let js : List TickInput := [⟨6, 6000, 0, 600000000⟩]
    TargetStays asrDefaultConfig (missFreeCap asrDefaultConfig) m₁ (is ++ i :: js) ∧
      ⌈|missFreeCap asrDefaultConfig - m₁.currentAggressiveness| / asrDefaultConfig.MAX_STEP⌉ ≤
        is.length ∧
      (runTicks asrDefaultConfig m₁ (is ++ i :: js)).currentBudget =
          (runTicks asrDefaultConfig m₁ (is ++ [i])).currentBudget ∧
        ((runTicks asrDefaultConfig m₁ (is ++ [i])).currentBudget =
            budgetFromAggressiveness (missFreeCap asrDefaultConfig) asrDefaultConfig ∨
          |budgetFromAggressiveness (missFreeCap asrDefaultConfig) asrDefaultConfig -
            (runTicks asrDefaultConfig m₁ (is ++ [i])).currentBudget| < asrDefaultConfig.HYST) := by
  intro m₁ is i js
  have hcfg := asrDefaultConfig_wellFormed
  have hsm : SmootherInv m₁ := (reachable_smootherInv Reachable.init).tick _ _ _ _ _
  have hq : 2 * asrDefaultConfig.QSTAR ≤ m₁.queueEwma := by
    simp only [m₁, tickWith, asrUpdateSmoothedMetrics_queueEwma, smoothMetrics_queueEwma,
      asrInit_metrics, AsrState.static, asrMetricsStatic]
    norm_num [asrDefaultConfig, ewmaUpdate_eq, measurementInterval,
      show ((UInt64.toNat 1000 : ℕ) : ℚ) = 1000 from rfl]
  have hw : 2 * asrDefaultConfig.WSTAR ≤ m₁.walBpsEwma := by
    simp only [m₁, tickWith, asrUpdateSmoothedMetrics_walBpsEwma, smoothMetrics_walBpsEwma,
      asrInit_metrics, AsrState.static, asrMetricsStatic]
    norm_num [asrDefaultConfig, ewmaUpdate_eq, measurementInterval,
      show ((UInt64.toNat 100000000 : ℕ) : ℚ) = 100000000 from rfl]
  have hload : LoadAtLeast asrDefaultConfig 1000 100000000 m₁ (is ++ i :: js) := by
    simp only [m₁, is, i, js, List.cons_append, List.nil_append, LoadAtLeast, tickWith,
      asrUpdateSmoothedMetrics_lastTotalTasks, asrUpdateSmoothedMetrics_lastWalBytes,
      asrUpdateSmoothedMetrics_lastMeasurement]
    simp [measurementInterval]
    norm_num
  have hT := targetStays_of_saturated hcfg (by norm_num [asrDefaultConfig])
    (by norm_num [asrDefaultConfig]) m₁ _ hsm hq hw hload
  -- from anywhere in `[0, 1]` the cap `0.4` is at most `0.6 = 3·MAX_STEP` away
  have hA : 0 ≤ m₁.currentAggressiveness ∧ m₁.currentAggressiveness ≤ 1 :=
    tick_aggressiveness_mem 1 1000 0 100000000 hcfg.maxStep_pos.le le_rfl zero_le_one
  have hn : ⌈|missFreeCap asrDefaultConfig - m₁.currentAggressiveness| /
      asrDefaultConfig.MAX_STEP⌉ ≤ is.length := by
    have hcap : missFreeCap asrDefaultConfig = 2 / 5 := by norm_num [missFreeCap, asrDefaultConfig]
    have hd : |missFreeCap asrDefaultConfig - m₁.currentAggressiveness| ≤ 3 / 5 := by
      rw [hcap, abs_le]; constructor <;> linarith [hA.1, hA.2]
    rw [Int.ceil_le, div_le_iff₀ hcfg.maxStep_pos]
    norm_num [is, asrDefaultConfig] at hd ⊢
    linarith
  exact ⟨hT, hn, runTicks_budget_settles hcfg i js hT hn⟩

end AdaptiveSR
