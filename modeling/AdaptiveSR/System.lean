import AdaptiveSR.Metrics

/-!
# `AdaptiveSR.System` — the subsystem as a state machine over its public operations.

`AsrState` is the process-wide state (`asr_config`, `asr_metrics`); `AsrState.step` runs one public
operation on it, each operation as one atomic step (every one of them holds its lock, or is a single
atomic add, for its whole effect). `Reachable` is the set of states of the runs studied here:
start from the process image with `ASR_Init`, then any ingest calls, controller ticks (any loads, any
clock) and configuration updates whose configuration is well formed.

`Inv` is what every such state satisfies: the configuration in force is well formed, the stored
aggressiveness is in `[0, 1]`, and the published budget is at least `1`. `reachable_inv` lifts the
one-step lemmas to every reachable state.
-/

namespace AdaptiveSR

/-- The subsystem's process-wide state. -/
structure AsrState where
  config : ASRConfig
  metrics : ASRMetricsInternal
  deriving DecidableEq, Repr

/-- The process image before `ASR_Init`. -/
def AsrState.static : AsrState := ⟨asrConfigStatic, asrMetricsStatic⟩

/-- **`ASR_Init`**: install the defaults, then `current_budget = asr_config.BMIN`. The counters, the
smoothed values, the aggressiveness and the `last_*` fields are left as they are. -/
def asrInit (s : AsrState) : AsrState :=
  let config := asrDefaultConfig
  ⟨config, { s.metrics with currentBudget := config.BMIN }⟩

@[simp] theorem asrInit_config (s : AsrState) : (asrInit s).config = asrDefaultConfig := rfl

@[simp] theorem asrInit_metrics (s : AsrState) :
    (asrInit s).metrics = { s.metrics with currentBudget := asrDefaultConfig.BMIN } := rfl

/-- `ASR_Init` writes constants only, so a second call changes nothing. -/
theorem asrInit_asrInit (s : AsrState) : asrInit (asrInit s) = asrInit s := rfl

/-- **`ASR_UpdateConfig`**: `none` is a NULL argument; anything else is copied in, unchecked. -/
def asrUpdateConfig (newConfig : Option ASRConfig) (s : AsrState) : AsrState :=
  match newConfig with
  | none => s
  | some c => { s with config := c }

/-- The operations of a run: the three ingest hooks, a controller tick with the clock reading and the
three counter values it loaded, `ASR_Init` and `ASR_UpdateConfig`. -/
inductive AsrOp
  | init
  | recordReplayTask (count : Int)
  | recordHotMiss
  | recordWalIngest (bytes : UInt64)
  | tick (now : Int) (totalTasks totalMisses totalWalBytes : UInt64)
  | updateConfig (newConfig : Option ASRConfig)
  deriving DecidableEq, Repr

/-- One operation. The ingest hooks read the flag of the configuration in force; the tick reads all of
it. -/
def AsrState.step (s : AsrState) : AsrOp → AsrState
  | .init => asrInit s
  | .recordReplayTask count => { s with metrics := asrRecordReplayTask s.config count s.metrics }
  | .recordHotMiss => { s with metrics := asrRecordHotMiss s.config s.metrics }
  | .recordWalIngest bytes => { s with metrics := asrRecordWalIngest s.config bytes s.metrics }
  | .tick now t q w => { s with metrics := asrUpdateSmoothedMetrics s.config now t q w s.metrics }
  | .updateConfig c => asrUpdateConfig c s

/-- A run of operations. -/
def AsrState.run (s : AsrState) : List AsrOp → AsrState
  | [] => s
  | op :: ops => (s.step op).run ops

@[simp] theorem AsrState.run_nil (s : AsrState) : s.run [] = s := rfl

@[simp] theorem AsrState.run_cons (s : AsrState) (op : AsrOp) (ops : List AsrOp) :
    s.run (op :: ops) = (s.step op).run ops := rfl

/-- The operations of the runs studied here: a configuration update must be well formed. -/
def AsrOp.WellFormed : AsrOp → Prop
  | .updateConfig (some c) => c.WellFormed
  | _ => True

/-- The states of the runs that start with `ASR_Init` and continue with well-formed operations. -/
inductive Reachable : AsrState → Prop
  | init : Reachable (asrInit AsrState.static)
  | step {s : AsrState} (op : AsrOp) : Reachable s → op.WellFormed → Reachable (s.step op)

theorem Reachable.run {s : AsrState} (hs : Reachable s) :
    ∀ {ops : List AsrOp}, (∀ op ∈ ops, op.WellFormed) → Reachable (s.run ops)
  | [], _ => hs
  | op :: _, h => (hs.step op (h op (List.mem_cons_self _ _))).run
      fun op' h' => h op' (List.mem_cons_of_mem _ h')

/-- The records a run of ticks under a configuration that stays in force reaches from `m₀`, with any
loads and clock readings. -/
inductive TickRun (cfg : ASRConfig) (m₀ : ASRMetricsInternal) : ASRMetricsInternal → Prop
  | start : TickRun cfg m₀ m₀
  | tick {m : ASRMetricsInternal} (now : Int) (t q w : UInt64) :
      TickRun cfg m₀ m → TickRun cfg m₀ (asrUpdateSmoothedMetrics cfg now t q w m)

/-- What one tick reads besides the state: the clock and the three counter loads. -/
structure TickInput where
  now : Int
  totalTasks : UInt64
  totalMisses : UInt64
  totalWalBytes : UInt64
  deriving DecidableEq, Repr

/-- The tick on one input. -/
def tickWith (cfg : ASRConfig) (m : ASRMetricsInternal) (i : TickInput) : ASRMetricsInternal :=
  asrUpdateSmoothedMetrics cfg i.now i.totalTasks i.totalMisses i.totalWalBytes m

/-- A run of ticks under `cfg`. -/
def runTicks (cfg : ASRConfig) : ASRMetricsInternal → List TickInput → ASRMetricsInternal
  | m, [] => m
  | m, i :: is => runTicks cfg (tickWith cfg m i) is

@[simp] theorem runTicks_nil (cfg : ASRConfig) (m : ASRMetricsInternal) : runTicks cfg m [] = m :=
  rfl

@[simp] theorem runTicks_cons (cfg : ASRConfig) (m : ASRMetricsInternal) (i : TickInput)
    (is : List TickInput) : runTicks cfg m (i :: is) = runTicks cfg (tickWith cfg m i) is := rfl

/-- The same run, as operations on the whole state. -/
theorem run_ticks (s : AsrState) (is : List TickInput) :
    s.run (is.map fun i => .tick i.now i.totalTasks i.totalMisses i.totalWalBytes) =
      ⟨s.config, runTicks s.config s.metrics is⟩ := by
  induction is generalizing s with
  | nil => rfl
  | cons i is ih => exact ih _

/-! ## §1 — the run invariant -/

/-- What every reachable state satisfies. -/
structure Inv (s : AsrState) : Prop where
  config_wf : s.config.WellFormed
  agg_nonneg : 0 ≤ s.metrics.currentAggressiveness
  agg_le_one : s.metrics.currentAggressiveness ≤ 1
  budget_pos : 1 ≤ s.metrics.currentBudget

section TickFacts

variable {cfg : ASRConfig} (now : Int) (t q w : UInt64) {m : ASRMetricsInternal}

/-- The tick's target is in `[0, 1]`, whatever the configuration. -/
theorem targetAggressiveness_mem (cfg : ASRConfig) (m : ASRMetricsInternal) :
    0 ≤ targetAggressiveness cfg m ∧ targetAggressiveness cfg m ≤ 1 :=
  weightedAggressiveness_mem cfg _ _ _

/-- A tick keeps the aggressiveness in `[0, 1]` (for a nonnegative step). -/
theorem tick_aggressiveness_mem (hm : 0 ≤ cfg.MAX_STEP) (h0 : 0 ≤ m.currentAggressiveness)
    (h1 : m.currentAggressiveness ≤ 1) :
    0 ≤ (asrUpdateSmoothedMetrics cfg now t q w m).currentAggressiveness ∧
      (asrUpdateSmoothedMetrics cfg now t q w m).currentAggressiveness ≤ 1 := by
  have hT := targetAggressiveness_mem cfg (smoothMetrics now t q w m)
  have hb := stepLimit_between m.currentAggressiveness
    (targetAggressiveness cfg (smoothMetrics now t q w m)) hm
  rw [asrUpdateSmoothedMetrics_currentAggressiveness]
  exact ⟨le_trans (le_min h0 hT.1) hb.1, hb.2.trans (max_le h1 hT.2)⟩

/-- The budget a tick publishes is the mapped budget, or the one it found. -/
theorem tick_budget_cases (cfg : ASRConfig) (now : Int) (t q w : UInt64) (m : ASRMetricsInternal) :
    (asrUpdateSmoothedMetrics cfg now t q w m).currentBudget =
        budgetFromAggressiveness (asrUpdateSmoothedMetrics cfg now t q w m).currentAggressiveness cfg ∨
      (asrUpdateSmoothedMetrics cfg now t q w m).currentBudget = m.currentBudget := by
  rw [asrUpdateSmoothedMetrics_currentBudget]
  rcases applyHysteresis_cases
    (budgetFromAggressiveness (asrUpdateSmoothedMetrics cfg now t q w m).currentAggressiveness cfg)
    m.currentBudget cfg.HYST with ⟨h, -⟩ | ⟨h, -⟩
  · exact .inr h
  · exact .inl h

end TickFacts

theorem inv_init : Inv (asrInit AsrState.static) where
  config_wf := asrDefaultConfig_wellFormed
  agg_nonneg := le_rfl
  agg_le_one := zero_le_one
  budget_pos := asrDefaultConfig_wellFormed.bmin_pos

/-- **One step keeps the invariant.** -/
theorem Inv.step {s : AsrState} (hs : Inv s) (op : AsrOp) (hop : op.WellFormed) :
    Inv (s.step op) := by
  cases op with
  | init => exact ⟨asrDefaultConfig_wellFormed, hs.2, hs.3, asrDefaultConfig_wellFormed.bmin_pos⟩
  | recordReplayTask _ | recordHotMiss | recordWalIngest _ =>
    -- the hooks touch the counters only
    simp only [AsrState.step, asrRecordReplayTask, asrRecordHotMiss, asrRecordWalIngest]
    split_ifs <;> exact ⟨hs.1, hs.2, hs.3, hs.4⟩
  | tick now t q w =>
    have hA := tick_aggressiveness_mem now t q w hs.config_wf.maxStep_pos.le hs.agg_nonneg
      hs.agg_le_one
    refine ⟨hs.config_wf, hA.1, hA.2, ?_⟩
    rcases tick_budget_cases s.config now t q w s.metrics with h | h
    · exact hs.config_wf.bmin_pos.trans
        (h ▸ budgetFromAggressiveness_mem _ hs.config_wf.bmin_le_bmax).1
    · exact h ▸ hs.budget_pos
  | updateConfig c =>
    cases c with
    | none => exact hs
    | some c => exact ⟨hop, hs.2, hs.3, hs.4⟩

theorem reachable_inv {s : AsrState} (h : Reachable s) : Inv s := by
  induction h with
  | init => exact inv_init
  | step op _ hop ih => exact ih.step op hop

end AdaptiveSR
