import AdaptiveSR.System

/-!
# `AdaptiveSR.Disabled` — what `enable_adaptive_sr = false` switches off.

Three places read the flag: the three ingest hooks (which return at once when it is clear) and
`ASR_StartController` (which then does not start the thread). The tick does not: once a controller
thread runs, clearing the flag with `ASR_UpdateConfig` stops the counters but not the controller, whose
ticks keep smoothing, stepping the aggressiveness and publishing budgets
(`disabled_tick_moves_budget`). What holds is a frame law for the ingest hooks, the fact that a tick is
blind to the flag, and constancy of the counters across a disabled stretch.
-/

namespace AdaptiveSR

/-- The ingest hooks. -/
def AsrOp.IsIngest : AsrOp → Prop
  | .recordReplayTask _ | .recordHotMiss | .recordWalIngest _ => True
  | _ => False

/-- The controller ticks. -/
def AsrOp.IsTick : AsrOp → Prop
  | .tick .. => True
  | _ => False

/-- **Ingest frame**: with the flag clear, an ingest call changes nothing. -/
theorem step_ingest_of_disabled {s : AsrState} (h : s.config.enableAdaptiveSr = false)
    {op : AsrOp} (hop : op.IsIngest) : s.step op = s := by
  cases op with
  | recordReplayTask _ => simp [AsrState.step, asrRecordReplayTask, h]
  | recordHotMiss => simp [AsrState.step, asrRecordHotMiss, h]
  | recordWalIngest _ => simp [AsrState.step, asrRecordWalIngest, h]
  | _ => exact hop.elim

/-- **The tick never reads the flag.** -/
theorem asrUpdateSmoothedMetrics_enable (cfg : ASRConfig) (b : Bool) (now : Int) (t q w : UInt64)
    (m : ASRMetricsInternal) :
    asrUpdateSmoothedMetrics { cfg with enableAdaptiveSr := b } now t q w m =
      asrUpdateSmoothedMetrics cfg now t q w m := rfl

/-- One step of a disabled stretch keeps the configuration and the counters, and an ingest step keeps
everything. -/
theorem step_disabled {s : AsrState} (h : s.config.enableAdaptiveSr = false) {op : AsrOp}
    (hop : op.IsIngest ∨ op.IsTick) :
    (s.step op).config = s.config ∧ ∀ c, (s.step op).metrics.counter c = s.metrics.counter c := by
  rcases hop with hop | hop
  · rw [step_ingest_of_disabled h hop]; exact ⟨rfl, fun _ => rfl⟩
  · cases op <;> simp only [AsrOp.IsTick] at hop
    exact ⟨rfl, asrUpdateSmoothedMetrics_counter _ _ _ _ _ _⟩

theorem run_disabled {s : AsrState} (h : s.config.enableAdaptiveSr = false) :
    ∀ {ops : List AsrOp}, (∀ op ∈ ops, op.IsIngest ∨ op.IsTick) →
      (s.run ops).config = s.config ∧ ∀ c, (s.run ops).metrics.counter c = s.metrics.counter c
  | [], _ => ⟨rfl, fun _ => rfl⟩
  | op :: _, hops => by
    obtain ⟨hc, hk⟩ := step_disabled h (hops op (List.mem_cons_self _ _))
    obtain ⟨hc', hk'⟩ := run_disabled (hc ▸ h) fun op' h' => hops op' (List.mem_cons_of_mem _ h')
    exact ⟨hc'.trans hc, fun c => (hk' c).trans (hk c)⟩

theorem run_ingest_of_disabled {s : AsrState} (h : s.config.enableAdaptiveSr = false) :
    ∀ {ops : List AsrOp}, (∀ op ∈ ops, op.IsIngest) → s.run ops = s
  | [], _ => rfl
  | op :: _, hops => by
    rw [AsrState.run_cons, step_ingest_of_disabled h (hops op (List.mem_cons_self _ _))]
    exact run_ingest_of_disabled h fun op' h' => hops op' (List.mem_cons_of_mem _ h')

/-- **Disabled, as the code has it.** With the flag clear every ingest call is a no-op; a tick computes
exactly what it computes with the flag set; across any stretch of ingest calls and ticks the
configuration and the three counters stay as they are; and across a stretch of ingest calls alone,
`ASR_GetCurrentBudget` does not change. -/
theorem disabled_stretch :
    (∀ s : AsrState, s.config.enableAdaptiveSr = false → ∀ op : AsrOp, op.IsIngest →
      s.step op = s) ∧
    (∀ (s : AsrState) (b : Bool) (now : Int) (t q w : UInt64),
      (AsrState.step ⟨{ s.config with enableAdaptiveSr := b }, s.metrics⟩ (.tick now t q w)).metrics =
        (s.step (.tick now t q w)).metrics) ∧
    ∀ s : AsrState, s.config.enableAdaptiveSr = false → ∀ ops : List AsrOp,
      (∀ op ∈ ops, op.IsIngest ∨ op.IsTick) →
      (s.run ops).config = s.config ∧ (∀ c, (s.run ops).metrics.counter c = s.metrics.counter c) ∧
      ((∀ op ∈ ops, op.IsIngest) →
        asrGetCurrentBudget (s.run ops).metrics = asrGetCurrentBudget s.metrics) :=
  ⟨fun _ h _ hop => step_ingest_of_disabled h hop,
   fun s b now t q w => asrUpdateSmoothedMetrics_enable s.config b now t q w s.metrics,
   fun _ h _ hops => ⟨(run_disabled h hops).1, (run_disabled h hops).2,
     fun hi => by rw [run_ingest_of_disabled h hi]⟩⟩

/-- **A disabled controller still moves the budget.** Enable, record 1000 replayed records, tick (the
budget goes to `408`), then restore the disabled defaults: the next tick, loading the same totals,
publishes `607`. -/
theorem disabled_tick_moves_budget :
    Reachable ((((asrInit AsrState.static).step
        (.updateConfig (some { asrDefaultConfig with enableAdaptiveSr := true }))).step
        (.recordReplayTask 1000)).step (.tick 1 1000 0 0) |>.step
        (.updateConfig (some asrDefaultConfig))) ∧
    asrGetCurrentBudget ((((asrInit AsrState.static).step
        (.updateConfig (some { asrDefaultConfig with enableAdaptiveSr := true }))).step
        (.recordReplayTask 1000)).step (.tick 1 1000 0 0) |>.step
        (.updateConfig (some asrDefaultConfig))).metrics = 408 ∧
    asrGetCurrentBudget (((((asrInit AsrState.static).step
        (.updateConfig (some { asrDefaultConfig with enableAdaptiveSr := true }))).step
        (.recordReplayTask 1000)).step (.tick 1 1000 0 0) |>.step
        (.updateConfig (some asrDefaultConfig))).step (.tick 2 1000 0 0)).metrics = 607 := by
  have h1000 : (1000 : UInt64).toNat = 1000 := rfl
  refine ⟨(((Reachable.init.step
    (.updateConfig (some { asrDefaultConfig with enableAdaptiveSr := true }))
    (asrDefaultConfig_wellFormed.setEnable true)).step (.recordReplayTask 1000) trivial).step
    (.tick 1 1000 0 0) trivial).step _ asrDefaultConfig_wellFormed, ?_, ?_⟩
  all_goals
    simp only [AsrState.step, asrInit, asrUpdateConfig, AsrState.static, asrMetricsStatic,
      asrRecordReplayTask, asrGetCurrentBudget, asrUpdateSmoothedMetrics_currentBudget,
      asrUpdateSmoothedMetrics_currentAggressiveness, asrUpdateSmoothedMetrics_queueEwma,
      asrUpdateSmoothedMetrics_missRateEwma, asrUpdateSmoothedMetrics_walBpsEwma,
      asrUpdateSmoothedMetrics_lastTotalTasks, asrUpdateSmoothedMetrics_lastWalBytes,
      asrUpdateSmoothedMetrics_lastMeasurement, targetAggressiveness, smoothMetrics_queueEwma,
      smoothMetrics_missRateEwma, smoothMetrics_walBpsEwma]
    norm_num [asrDefaultConfig, ewmaUpdate_eq, measurementInterval, computePressure,
      weightedAggressiveness, stepLimit, budgetFromAggressiveness, applyHysteresis, abs_of_pos,
      Int.floor_eq_iff, h1000]

end AdaptiveSR
