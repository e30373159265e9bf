import AdaptiveSR.Budget

/-!
# `AdaptiveSR.Reinit` — `ASR_Init` on a state that has run.

`ASR_Init` (lines 393–405) copies the defaults into `asr_config` and sets `current_budget = BMIN`,
and nothing else. On the process image, where static initialisation has zeroed the counters, the
smoother state and `last_measurement`, that is the fresh start. On a state that has run, the
counters, the `last_*` fields, the three EWMAs, the aggressiveness and `last_measurement` carry
over: the budget `BMIN` can be far from the budget the kept aggressiveness maps to, and the next
tick can then jump by more than a fresh run ever does (`reinit_keeps_smoother_state`).

What holds is idempotence, and recovery after one tick: a single tick establishes the tracking
invariant from any budget (`tracksAggressiveness_of_tick`), and every later tick keeps it with the
step and hysteresis bound (`asrInit_reinit_tracking`).
-/

namespace AdaptiveSR

/-- **Re-initialisation, as the code has it.** `ASR_Init` installs the defaults and sets
`current_budget = BMIN`, keeping every other field of `asr_metrics`; a second call changes nothing.
From any reachable state, the first tick after it re-establishes the budget-tracking invariant, and
along every run of ticks under the defaults from there the invariant holds and each tick moves the
budget by `0` or by `d` with `HYST ≤ |d| ≤ ⌈MAX_STEP·(BMAX − BMIN)⌉ + max (HYST − 1) 0`. -/
theorem asrInit_reinit_tracking :
    (∀ s : AsrState, (asrInit s).config = asrDefaultConfig ∧
      (asrInit s).metrics = { s.metrics with currentBudget := asrDefaultConfig.BMIN } ∧
      asrInit (asrInit s) = asrInit s) ∧
    ∀ s : AsrState, Reachable s → ∀ (now : Int) (t q w : UInt64) (m : ASRMetricsInternal),
      TickRun asrDefaultConfig
          (asrUpdateSmoothedMetrics asrDefaultConfig now t q w (asrInit s).metrics) m →
      TracksAggressiveness asrDefaultConfig m ∧
      ∀ (now' : Int) (t' q' w' : UInt64),
        asrGetCurrentBudget (asrUpdateSmoothedMetrics asrDefaultConfig now' t' q' w' m) =
            asrGetCurrentBudget m ∨
          (asrDefaultConfig.HYST ≤
              |asrGetCurrentBudget (asrUpdateSmoothedMetrics asrDefaultConfig now' t' q' w' m) -
                asrGetCurrentBudget m| ∧
            |asrGetCurrentBudget (asrUpdateSmoothedMetrics asrDefaultConfig now' t' q' w' m) -
                asrGetCurrentBudget m| ≤
              ⌈asrDefaultConfig.MAX_STEP *
                  ((asrDefaultConfig.BMAX - asrDefaultConfig.BMIN : Int) : ℚ)⌉ +
                max (asrDefaultConfig.HYST - 1) 0) := by
  refine ⟨fun s => ⟨rfl, rfl, asrInit_asrInit s⟩, fun s hs now t q w m hrun => ?_⟩
  have hi := reachable_inv hs
  -- the first tick re-establishes the invariant, whatever budget `ASR_Init` left
  have h₁ : TracksAggressiveness asrDefaultConfig
      (asrUpdateSmoothedMetrics asrDefaultConfig now t q w (asrInit s).metrics) :=
    tracksAggressiveness_of_tick now t q w asrDefaultConfig_wellFormed.maxStep_pos.le
      hi.agg_nonneg hi.agg_le_one
  have hinv := hrun.tracks asrDefaultConfig_wellFormed h₁
  exact ⟨hinv, fun now' t' q' w' =>
    (tracksAggressiveness_tick now' t' q' w' asrDefaultConfig_wellFormed hinv).2⟩

/-- **A re-initialised state is not the fresh one.** Enable, record 1000 replayed records and tick
(aggressiveness `0.2`, budget `408`, `queue_ewma = 300`); then `ASR_Init`. The aggressiveness stays
`0.2` while the budget is `10`, `398` away from the `408` it maps to, so the tracking invariant fails;
the next tick at clock `2` loading the same totals publishes `607`, a jump of `597` past the bound
`⌈0.2·1990⌉ + 19 = 417`, where the same tick after the first `ASR_Init` publishes `408`. -/
theorem reinit_keeps_smoother_state :
    Reachable ((((asrInit AsrState.static).step
          (.updateConfig (some { asrDefaultConfig with enableAdaptiveSr := true }))).step
          (.recordReplayTask 1000)).step (.tick 1 1000 0 0)) ∧
    (asrInit ((((asrInit AsrState.static).step
          (.updateConfig (some { asrDefaultConfig with enableAdaptiveSr := true }))).step
          (.recordReplayTask 1000)).step (.tick 1 1000 0 0))).metrics.currentAggressiveness = 1 / 5 ∧
    ¬ TracksAggressiveness asrDefaultConfig (asrInit ((((asrInit AsrState.static).step
          (.updateConfig (some { asrDefaultConfig with enableAdaptiveSr := true }))).step
          (.recordReplayTask 1000)).step (.tick 1 1000 0 0))).metrics ∧
    asrGetCurrentBudget ((asrInit ((((asrInit AsrState.static).step
          (.updateConfig (some { asrDefaultConfig with enableAdaptiveSr := true }))).step
          (.recordReplayTask 1000)).step (.tick 1 1000 0 0))).step (.tick 2 1000 0 0)).metrics = 607 ∧
    ⌈asrDefaultConfig.MAX_STEP * ((asrDefaultConfig.BMAX - asrDefaultConfig.BMIN : Int) : ℚ)⌉ +
        max (asrDefaultConfig.HYST - 1) 0 < |607 - asrDefaultConfig.BMIN| ∧
    asrGetCurrentBudget ((asrInit AsrState.static).step (.tick 2 1000 0 0)).metrics = 408 := by
  have h1000 : (1000 : UInt64).toNat = 1000 := rfl
  refine ⟨((Reachable.init.step
    (.updateConfig (some { asrDefaultConfig with enableAdaptiveSr := true }))
    (asrDefaultConfig_wellFormed.setEnable true)).step (.recordReplayTask 1000) trivial).step
    (.tick 1 1000 0 0) trivial, ?_, ?_, ?_, by norm_num [asrDefaultConfig, Int.ceil_eq_iff], ?_⟩
  all_goals
    simp only [AsrState.step, asrInit_metrics, asrInit_config, asrUpdateConfig, AsrState.static,
      asrMetricsStatic, asrRecordReplayTask, asrGetCurrentBudget,
      asrUpdateSmoothedMetrics_currentBudget, asrUpdateSmoothedMetrics_currentAggressiveness,
      asrUpdateSmoothedMetrics_queueEwma, asrUpdateSmoothedMetrics_missRateEwma,
      asrUpdateSmoothedMetrics_walBpsEwma, asrUpdateSmoothedMetrics_lastTotalTasks,
      asrUpdateSmoothedMetrics_lastWalBytes, asrUpdateSmoothedMetrics_lastMeasurement,
      targetAggressiveness, smoothMetrics_queueEwma, smoothMetrics_missRateEwma,
      smoothMetrics_walBpsEwma, TracksAggressiveness]
    norm_num [asrDefaultConfig, ewmaUpdate_eq, measurementInterval, computePressure,
      weightedAggressiveness, stepLimit, budgetFromAggressiveness, applyHysteresis, abs_of_pos,
      Int.floor_eq_iff, h1000]

end AdaptiveSR
