import AdaptiveSR.System

/-!
# `AdaptiveSR.Budget` — where the published budget can go.

Three facts about the budget a tick publishes.

* **Range.** A tick publishes the mapped budget `⌊BMIN + A·(BMAX − BMIN)⌋`, which lies in
  `[BMIN, BMAX]`, or keeps the budget it found, which it does only when that budget is within `HYST`
  of the mapped one. So the budget stays in range while the range stays put, but a configuration
  update that moves the range by less than `HYST` past the budget leaves it outside
  (`budget_below_bmin_after_config_update`); in every case it stays within `HYST − 1` of the range.
* **Tracking.** Under one configuration, from `current_budget = BMIN` and aggressiveness `0`, the
  budget never drifts from the aggressiveness by `max HYST 1` or more, so each change is `0` or between
  `HYST` and `⌈MAX_STEP·(BMAX − BMIN)⌉ + max (HYST − 1) 0`. Any single tick establishes the
  invariant, whatever the budget before it (`tracksAggressiveness_of_tick`).
* **Validation.** `ASR_UpdateConfig` validates nothing. The guarantees hold for runs whose updates are
  well formed: such a run only ever ticks under a well-formed configuration and publishes budgets `≥ 1`.
-/

namespace AdaptiveSR

/-- The budget lies in the range of `cfg`. -/
def BudgetInRange (cfg : ASRConfig) (b : Int) : Prop := cfg.BMIN ≤ b ∧ b ≤ cfg.BMAX

instance (cfg : ASRConfig) (b : Int) : Decidable (BudgetInRange cfg b) :=
  inferInstanceAs (Decidable (_ ∧ _))

/-! ## §1 — range -/

section Range

variable {cfg : ASRConfig} (now : Int) (t q w : UInt64) {m : ASRMetricsInternal}

/-- **One tick**: the budget ends within `HYST − 1` of the range, and inside it if it started inside. -/
theorem tick_budget_within (hB : cfg.BMIN ≤ cfg.BMAX) :
    (cfg.BMIN - max (cfg.HYST - 1) 0 ≤ (asrUpdateSmoothedMetrics cfg now t q w m).currentBudget ∧
      (asrUpdateSmoothedMetrics cfg now t q w m).currentBudget ≤ cfg.BMAX + max (cfg.HYST - 1) 0) ∧
    (BudgetInRange cfg m.currentBudget →
      BudgetInRange cfg (asrUpdateSmoothedMetrics cfg now t q w m).currentBudget) := by
  rw [asrUpdateSmoothedMetrics_currentBudget]
  have hn := budgetFromAggressiveness_mem
    (asrUpdateSmoothedMetrics cfg now t q w m).currentAggressiveness hB
  rcases applyHysteresis_cases
    (budgetFromAggressiveness (asrUpdateSmoothedMetrics cfg now t q w m).currentAggressiveness cfg)
    m.currentBudget cfg.HYST with ⟨h, hlt⟩ | ⟨h, -⟩ <;> rw [h]
  · rw [abs_lt] at hlt
    exact ⟨⟨by omega, by omega⟩, id⟩
  · exact ⟨⟨by omega, by omega⟩, fun _ => hn⟩

end Range

/-- The runs whose configuration updates are well formed and keep the budget in force inside the
new range. -/
def RangeKeeping : AsrState → List AsrOp → Prop
  | _, [] => True
  | s, op :: ops => op.WellFormed ∧
      (∀ c, op = .updateConfig (some c) → BudgetInRange c s.metrics.currentBudget) ∧
      RangeKeeping (s.step op) ops

theorem budgetInRange_step {s : AsrState} (hs : Inv s)
    (hr : BudgetInRange s.config s.metrics.currentBudget) (op : AsrOp)
    (hc : ∀ c, op = .updateConfig (some c) → BudgetInRange c s.metrics.currentBudget) :
    BudgetInRange (s.step op).config (s.step op).metrics.currentBudget := by
  cases op with
  | init => exact ⟨le_rfl, asrDefaultConfig_wellFormed.bmin_le_bmax⟩
  | recordReplayTask _ | recordHotMiss | recordWalIngest _ =>
    simp only [AsrState.step, asrRecordReplayTask, asrRecordHotMiss, asrRecordWalIngest]
    split_ifs <;> exact hr
  | tick now t q w => exact (tick_budget_within now t q w hs.config_wf.bmin_le_bmax).2 hr
  | updateConfig c =>
    cases c with
    | none => exact hr
    | some c => exact hc c rfl

theorem budgetInRange_run {s : AsrState} (hs : Reachable s)
    (hr : BudgetInRange s.config s.metrics.currentBudget) :
    ∀ {ops : List AsrOp}, RangeKeeping s ops →
      BudgetInRange (s.run ops).config (s.run ops).metrics.currentBudget
  | [], _ => hr
  | op :: _, ⟨hop, hc, hrest⟩ =>
    budgetInRange_run (hs.step op hop) (budgetInRange_step (reachable_inv hs) hr op hc) hrest

/-- **Budget range, as the code has it.** Every tick of a run from `ASR_Init` with well-formed
updates publishes either the budget its aggressiveness maps to, or the budget in force when that one is
less than `HYST` away from it; so it publishes a budget within `HYST − 1` of the range of the
configuration it read, and inside that range when the budget before it was. Along every run whose
updates keep the budget in force inside the new range, `ASR_GetCurrentBudget` stays inside the range
in force. -/
theorem reachable_tick_budget_range :
    (∀ s : AsrState, Reachable s → ∀ (now : Int) (t q w : UInt64),
      (asrGetCurrentBudget (s.step (.tick now t q w)).metrics =
          budgetFromAggressiveness (s.step (.tick now t q w)).metrics.currentAggressiveness s.config ∨
        asrGetCurrentBudget (s.step (.tick now t q w)).metrics = s.metrics.currentBudget ∧
          |budgetFromAggressiveness (s.step (.tick now t q w)).metrics.currentAggressiveness s.config -
            s.metrics.currentBudget| < s.config.HYST) ∧
      (s.config.BMIN - max (s.config.HYST - 1) 0 ≤
          asrGetCurrentBudget (s.step (.tick now t q w)).metrics ∧
        asrGetCurrentBudget (s.step (.tick now t q w)).metrics ≤
          s.config.BMAX + max (s.config.HYST - 1) 0) ∧
      (BudgetInRange s.config s.metrics.currentBudget →
        BudgetInRange s.config (asrGetCurrentBudget (s.step (.tick now t q w)).metrics))) ∧
    ∀ ops : List AsrOp, RangeKeeping (asrInit AsrState.static) ops →
      BudgetInRange ((asrInit AsrState.static).run ops).config
        (asrGetCurrentBudget ((asrInit AsrState.static).run ops).metrics) := by
  refine ⟨fun s hs now t q w => ⟨?_, tick_budget_within now t q w
    (reachable_inv hs).config_wf.bmin_le_bmax⟩, fun _ hops =>
      budgetInRange_run Reachable.init ⟨le_rfl, asrDefaultConfig_wellFormed.bmin_le_bmax⟩ hops⟩
  rcases applyHysteresis_cases
    (budgetFromAggressiveness (s.step (.tick now t q w)).metrics.currentAggressiveness s.config)
    s.metrics.currentBudget s.config.HYST with ⟨h, hlt⟩ | ⟨h, -⟩
  · exact .inr ⟨h, hlt⟩
  · exact .inl h

/-- Both parts at `ASR_Init`: its first tick with no load, and the run with no operation. -/
theorem reachable_tick_budget_range_at_init :
    Reachable (asrInit AsrState.static) ∧
    (let s := asrInit AsrState.static;
      (asrGetCurrentBudget (s.step (.tick 1 0 0 0)).metrics =
          budgetFromAggressiveness (s.step (.tick 1 0 0 0)).metrics.currentAggressiveness s.config ∨
        asrGetCurrentBudget (s.step (.tick 1 0 0 0)).metrics = s.metrics.currentBudget ∧
          |budgetFromAggressiveness (s.step (.tick 1 0 0 0)).metrics.currentAggressiveness s.config -
            s.metrics.currentBudget| < s.config.HYST) ∧
      (s.config.BMIN - max (s.config.HYST - 1) 0 ≤
          asrGetCurrentBudget (s.step (.tick 1 0 0 0)).metrics ∧
        asrGetCurrentBudget (s.step (.tick 1 0 0 0)).metrics ≤
          s.config.BMAX + max (s.config.HYST - 1) 0) ∧
      (BudgetInRange s.config s.metrics.currentBudget →
        BudgetInRange s.config (asrGetCurrentBudget (s.step (.tick 1 0 0 0)).metrics))) ∧
    RangeKeeping (asrInit AsrState.static) [] ∧
    BudgetInRange ((asrInit AsrState.static).run []).config
      (asrGetCurrentBudget ((asrInit AsrState.static).run []).metrics) :=
  ⟨Reachable.init, reachable_tick_budget_range.1 _ Reachable.init 1 0 0 0, trivial,
    reachable_tick_budget_range.2 [] trivial⟩

/-- **The range does not hold across an update.** After `ASR_Init`, an update to the defaults with
`BMIN = 20` (well formed) and one tick with no load: the mapped budget `20` is within `HYST = 20` of the
budget `10` in force, so `10` stays, below the new `BMIN`. -/
theorem budget_below_bmin_after_config_update :
    Reachable ((asrInit AsrState.static).step (.updateConfig (some { asrDefaultConfig with BMIN := 20 }))) ∧
      asrGetCurrentBudget (((asrInit AsrState.static).step
          (.updateConfig (some { asrDefaultConfig with BMIN := 20 }))).step (.tick 1 0 0 0)).metrics <
        ((asrInit AsrState.static).step
          (.updateConfig (some { asrDefaultConfig with BMIN := 20 }))).config.BMIN := by
  refine ⟨Reachable.init.step _ ?_, ?_⟩
  · show ASRConfig.WellFormed _
    rw [ASRConfig.wellFormed_iff]; norm_num [asrDefaultConfig]
  · norm_num [AsrState.step, asrGetCurrentBudget, asrInit, asrUpdateConfig, AsrState.static,
      asrMetricsStatic, asrDefaultConfig, asrUpdateSmoothedMetrics, controlStep, smoothMetrics,
      targetAggressiveness, weightedAggressiveness, computePressure, ewmaUpdate, stepLimit,
      budgetFromAggressiveness, applyHysteresis, measurementInterval]

/-! ## §2 — tracking -/

/-- **The budget-tracking invariant**: the aggressiveness is in `[0, 1]` and the published budget is
less than `max HYST 1` away from the budget the aggressiveness maps to. -/
def TracksAggressiveness (cfg : ASRConfig) (m : ASRMetricsInternal) : Prop :=
  0 ≤ m.currentAggressiveness ∧ m.currentAggressiveness ≤ 1 ∧
    |m.currentBudget -
        ⌊(cfg.BMIN : ℚ) + m.currentAggressiveness * ((cfg.BMAX - cfg.BMIN : Int) : ℚ)⌋| <
      max cfg.HYST 1

theorem tracksAggressiveness_start (cfg : ASRConfig) {m : ASRMetricsInternal}
    (hb : m.currentBudget = cfg.BMIN) (ha : m.currentAggressiveness = 0) :
    TracksAggressiveness cfg m := by
  refine ⟨ha.ge, ha.le.trans zero_le_one, ?_⟩
  rw [ha, hb, zero_mul, add_zero, Int.floor_intCast, sub_self, abs_zero]
  exact lt_max_of_lt_right zero_lt_one

section Tracking

variable {cfg : ASRConfig} (now : Int) (t q w : UInt64) {m : ASRMetricsInternal}

/-- **Any tick establishes the tracking invariant**, from any budget: it publishes the mapped budget,
or keeps one that is within `HYST` of it. -/
theorem tracksAggressiveness_of_tick (hm : 0 ≤ cfg.MAX_STEP) (h0 : 0 ≤ m.currentAggressiveness)
    (h1 : m.currentAggressiveness ≤ 1) :
    TracksAggressiveness cfg (asrUpdateSmoothedMetrics cfg now t q w m) := by
  have hA' := tick_aggressiveness_mem now t q w hm h0 h1
  refine ⟨hA'.1, hA'.2, ?_⟩
  rw [asrUpdateSmoothedMetrics_currentBudget, ← budgetFromAggressiveness_of_mem hA'.1 hA'.2]
  rcases applyHysteresis_cases
    (budgetFromAggressiveness (asrUpdateSmoothedMetrics cfg now t q w m).currentAggressiveness cfg)
    m.currentBudget cfg.HYST with ⟨h, hlt⟩ | ⟨h, -⟩ <;> rw [h]
  · rw [abs_sub_comm]; exact lt_max_of_lt_left hlt
  · rw [sub_self, abs_zero]; exact lt_max_of_lt_right zero_lt_one

/-- **One tick keeps the tracking invariant**, and moves the budget by `0` or by a `d` with
`HYST ≤ |d| ≤ ⌈MAX_STEP·(BMAX − BMIN)⌉ + max (HYST − 1) 0`. -/
theorem tracksAggressiveness_tick (hcfg : cfg.WellFormed) (h : TracksAggressiveness cfg m) :
    TracksAggressiveness cfg (asrUpdateSmoothedMetrics cfg now t q w m) ∧
      ((asrUpdateSmoothedMetrics cfg now t q w m).currentBudget = m.currentBudget ∨
        (cfg.HYST ≤ |(asrUpdateSmoothedMetrics cfg now t q w m).currentBudget - m.currentBudget| ∧
          |(asrUpdateSmoothedMetrics cfg now t q w m).currentBudget - m.currentBudget| ≤
            ⌈cfg.MAX_STEP * ((cfg.BMAX - cfg.BMIN : Int) : ℚ)⌉ + max (cfg.HYST - 1) 0)) := by
  obtain ⟨h0, h1, hgap⟩ := h
  refine ⟨tracksAggressiveness_of_tick now t q w hcfg.maxStep_pos.le h0 h1, ?_⟩
  have hA' := tick_aggressiveness_mem now t q w hcfg.maxStep_pos.le h0 h1
  have hstep : |(asrUpdateSmoothedMetrics cfg now t q w m).currentAggressiveness -
      m.currentAggressiveness| ≤ cfg.MAX_STEP := abs_stepLimit_sub_le _ _ hcfg.maxStep_pos.le
  rw [asrUpdateSmoothedMetrics_currentBudget]
  generalize (asrUpdateSmoothedMetrics cfg now t q w m).currentAggressiveness = A' at hA' hstep ⊢
  have hmove := abs_budgetFromAggressiveness_sub_le hcfg.bmin_le_bmax ⟨h0, h1⟩ hA' hstep
  rw [← budgetFromAggressiveness_of_mem h0 h1] at hgap
  rcases applyHysteresis_cases (budgetFromAggressiveness A' cfg) m.currentBudget cfg.HYST with
    ⟨h, -⟩ | ⟨h, hge⟩ <;> rw [h]
  · exact .inl rfl
  · -- published: the jump is the mapped move plus the old gap
    refine .inr ⟨hge, ?_⟩
    have := abs_sub_le (budgetFromAggressiveness A' cfg)
      (budgetFromAggressiveness m.currentAggressiveness cfg) m.currentBudget
    rw [abs_sub_comm (budgetFromAggressiveness m.currentAggressiveness cfg)] at this
    omega

/-- The tracking invariant holds along every run of ticks that starts in it. -/
theorem TickRun.tracks (hcfg : cfg.WellFormed) {m₀ : ASRMetricsInternal}
    (h₀ : TracksAggressiveness cfg m₀) (hrun : TickRun cfg m₀ m) : TracksAggressiveness cfg m := by
  induction hrun with
  | start => exact h₀
  | tick now t q w _ ih => exact (tracksAggressiveness_tick now t q w hcfg ih).1

end Tracking

/-- **Budget tracking.** Under a well-formed configuration that stays in force, every run of ticks
from `current_budget = BMIN` and aggressiveness `0` (with any loads and clock readings) keeps the
published budget less than `max HYST 1` away from `⌊BMIN + A·(BMAX − BMIN)⌋`, and every tick moves
the budget by `0` or by `d` with `HYST ≤ |d| ≤ ⌈MAX_STEP·(BMAX − BMIN)⌉ + max (HYST − 1) 0`. -/
theorem tickRun_budget_tracking {cfg : ASRConfig} (hcfg : cfg.WellFormed)
    {m₀ m : ASRMetricsInternal} (hb : m₀.currentBudget = cfg.BMIN)
    (ha : m₀.currentAggressiveness = 0) (hrun : TickRun cfg m₀ m) (now : Int) (t q w : UInt64) :
    |m.currentBudget -
        ⌊(cfg.BMIN : ℚ) + m.currentAggressiveness * ((cfg.BMAX - cfg.BMIN : Int) : ℚ)⌋| <
      max cfg.HYST 1 ∧
    (asrGetCurrentBudget (asrUpdateSmoothedMetrics cfg now t q w m) = asrGetCurrentBudget m ∨
      (cfg.HYST ≤ |asrGetCurrentBudget (asrUpdateSmoothedMetrics cfg now t q w m) -
          asrGetCurrentBudget m| ∧
        |asrGetCurrentBudget (asrUpdateSmoothedMetrics cfg now t q w m) - asrGetCurrentBudget m| ≤
          ⌈cfg.MAX_STEP * ((cfg.BMAX - cfg.BMIN : Int) : ℚ)⌉ + max (cfg.HYST - 1) 0)) := by
  have hinv := hrun.tracks hcfg (tracksAggressiveness_start cfg hb ha)
  exact ⟨hinv.2.2, (tracksAggressiveness_tick now t q w hcfg hinv).2⟩

/-- The tracking theorem at the defaults, after `ASR_Init` and a first tick that sees 50 tasks, 25
misses and 20 MiB of WAL, for a second tick that sees twice each. -/
theorem tickRun_budget_tracking_at_init :
    let m₁ := asrUpdateSmoothedMetrics asrDefaultConfig 1 50 25 (20 * 2 ^ 20)
      (asrInit AsrState.static).metrics
    asrDefaultConfig.WellFormed ∧
      (asrInit AsrState.static).metrics.currentBudget = asrDefaultConfig.BMIN ∧
      (asrInit AsrState.static).metrics.currentAggressiveness = 0 ∧
      TickRun asrDefaultConfig (asrInit AsrState.static).metrics m₁ ∧
      |m₁.currentBudget - ⌊(asrDefaultConfig.BMIN : ℚ) + m₁.currentAggressiveness *
          ((asrDefaultConfig.BMAX - asrDefaultConfig.BMIN : Int) : ℚ)⌋| <
        max asrDefaultConfig.HYST 1 ∧
      (asrGetCurrentBudget (asrUpdateSmoothedMetrics asrDefaultConfig 2 100 50 (40 * 2 ^ 20) m₁) =
          asrGetCurrentBudget m₁ ∨
        (asrDefaultConfig.HYST ≤
            |asrGetCurrentBudget (asrUpdateSmoothedMetrics asrDefaultConfig 2 100 50 (40 * 2 ^ 20) m₁) -
              asrGetCurrentBudget m₁| ∧
          |asrGetCurrentBudget (asrUpdateSmoothedMetrics asrDefaultConfig 2 100 50 (40 * 2 ^ 20) m₁) -
              asrGetCurrentBudget m₁| ≤
            ⌈asrDefaultConfig.MAX_STEP *
                ((asrDefaultConfig.BMAX - asrDefaultConfig.BMIN : Int) : ℚ)⌉ +
              max (asrDefaultConfig.HYST - 1) 0)) :=
  have hrun : TickRun asrDefaultConfig (asrInit AsrState.static).metrics
      (asrUpdateSmoothedMetrics asrDefaultConfig 1 50 25 (20 * 2 ^ 20)
        (asrInit AsrState.static).metrics) := .tick 1 50 25 _ .start
  ⟨asrDefaultConfig_wellFormed, rfl, rfl, hrun,
    tickRun_budget_tracking asrDefaultConfig_wellFormed rfl rfl hrun 2 100 50 (40 * 2 ^ 20)⟩

/-! ## §3 — validation -/

/-- **No validation, and what well-formed updates buy.** `ASR_UpdateConfig` installs every non-NULL
configuration exactly as given, well formed or not, and touches no metric. In a run from `ASR_Init`
whose updates are all well formed, every tick reads a well-formed configuration, computes
`BMAX − BMIN` and a mapped budget that are C `int`s whenever the configuration's bounds are, and
publishes a budget `≥ 1`. -/
theorem updateConfig_unchecked_tick_safe :
    (∀ (c : ASRConfig) (s : AsrState), (s.step (.updateConfig (some c))).config = c ∧
      (s.step (.updateConfig (some c))).metrics = s.metrics) ∧
    ∀ s : AsrState, Reachable s → ∀ (now : Int) (t q w : UInt64),
      s.config.WellFormed ∧
      (CInt s.config.BMIN → CInt s.config.BMAX →
        CInt (s.config.BMAX - s.config.BMIN) ∧
        CInt (budgetFromAggressiveness (s.step (.tick now t q w)).metrics.currentAggressiveness
          s.config)) ∧
      1 ≤ asrGetCurrentBudget (s.step (.tick now t q w)).metrics := by
  refine ⟨fun _ _ => ⟨rfl, rfl⟩, fun s hs now t q w => ?_⟩
  have hwf := (reachable_inv hs).config_wf
  have hn := budgetFromAggressiveness_mem
    (s.step (.tick now t q w)).metrics.currentAggressiveness hwf.bmin_le_bmax
  refine ⟨hwf, fun hmin hmax => ?_, (reachable_inv (hs.step (.tick now t q w) trivial)).budget_pos⟩
  have := hwf.bmin_pos
  unfold CInt at *
  omega

/-- **A malformed configuration goes through.** After `ASR_Init`, an update to the defaults with
`BMIN = -100` is installed, and the next tick with no load publishes `-100`. -/
theorem malformed_config_installed :
    ¬ ({ asrDefaultConfig with BMIN := -100 } : ASRConfig).WellFormed ∧
      ((asrInit AsrState.static).step
          (.updateConfig (some { asrDefaultConfig with BMIN := -100 }))).config =
        { asrDefaultConfig with BMIN := -100 } ∧
      asrGetCurrentBudget (((asrInit AsrState.static).step
          (.updateConfig (some { asrDefaultConfig with BMIN := -100 }))).step (.tick 1 0 0 0)).metrics =
        -100 := by
  refine ⟨fun h => (by decide : ¬ (1 : Int) ≤ -100) h.bmin_pos, rfl, ?_⟩
  norm_num [AsrState.step, asrGetCurrentBudget, asrInit, asrUpdateConfig, AsrState.static,
    asrMetricsStatic, asrDefaultConfig, asrUpdateSmoothedMetrics, controlStep, smoothMetrics,
    targetAggressiveness, weightedAggressiveness, computePressure, ewmaUpdate, stepLimit,
    budgetFromAggressiveness, applyHysteresis, measurementInterval]

end AdaptiveSR
