import AdaptiveSR.System

/-!
# `AdaptiveSR.Clock` — the tick's `dt` against real time.

The controller ticks once per `usleep(200 ms)` cycle (lines 374–383), and each tick reads the clock
with `time(NULL)`: whole seconds, `⌊τ⌋` at real time `τ`. Line 262 takes `dt` as the difference of two
such readings and line 264 raises it to at least `0.1`. So after the first tick `dt` is
`max (⌊τ'⌋ − ⌊τ⌋) 0.1` (`measurementInterval_time`); for a cycle shorter than a second it is `0.1`
or `1` (`measurementInterval_subsecond`) and never the `0.2 s` that passed. The rate samples
`Δ / dt` of lines 276 and 299 are then twice the true rate within a second and a fifth of it across
a second boundary, and no tick at the 200 ms cadence with a nonzero delta folds the true rate into
`queue_ewma` or `wal_bps_ewma` (`tick_rate_not_true_rate`).
-/

namespace AdaptiveSR

/-- `time(NULL)` at real time `τ`, in seconds since the epoch: the whole seconds. -/
def time (τ : ℚ) : Int := ⌊τ⌋

/-- Two readings less than a second apart differ by `0` or `1`. -/
theorem time_sub_time_of_lt {τ τ' : ℚ} (h0 : τ ≤ τ') (h1 : τ' < τ + 1) :
    time τ' - time τ = 0 ∨ time τ' - time τ = 1 := by
  have hle : ⌊τ⌋ ≤ ⌊τ'⌋ := Int.floor_mono h0
  have hlt : ⌊τ'⌋ < ⌊τ⌋ + 2 := by
    rw [Int.floor_lt]
    push_cast
    linarith [Int.lt_floor_add_one τ]
  unfold time
  omega

/-- After the first tick (`last_measurement ≠ 0`), `dt` is the clock difference raised to `0.1`. -/
theorem measurementInterval_of_ne_zero {lastMeasurement : Int} (now : Int)
    (h : lastMeasurement ≠ 0) :
    measurementInterval lastMeasurement now = max ((now - lastMeasurement : Int) : ℚ) (1 / 10) := by
  simp only [measurementInterval, h, if_false]
  split_ifs with hlt
  · rw [max_eq_right (by norm_num at hlt ⊢; linarith)]; norm_num
  · rw [max_eq_left (by norm_num at hlt ⊢; linarith)]

/-- The `dt` of a tick at real time `τ'` after one at `τ` (whose reading is not `0`). -/
theorem measurementInterval_time {τ : ℚ} (τ' : ℚ) (h : time τ ≠ 0) :
    measurementInterval (time τ) (time τ') = max ((time τ' - time τ : Int) : ℚ) (1 / 10) :=
  measurementInterval_of_ne_zero _ h

/-- **For a cycle shorter than a second, `dt` is `0.1` or `1`.** -/
theorem measurementInterval_subsecond {τ τ' : ℚ} (h : time τ ≠ 0) (h0 : τ ≤ τ') (h1 : τ' < τ + 1) :
    measurementInterval (time τ) (time τ') = 1 / 10 ∨ measurementInterval (time τ) (time τ') = 1 := by
  rw [measurementInterval_time τ' h]
  rcases time_sub_time_of_lt h0 h1 with hd | hd <;> rw [hd]
  · exact .inl (by norm_num)
  · exact .inr (by norm_num)

/-- **A cycle between `0.1 s` and `1 s` never yields the true rate**: the code divides a nonzero
delta by `0.1` or `1`, not by the time that passed. -/
theorem rateSample_ne_true_rate {τ τ' : ℚ} (h1 : 1 ≤ τ) (hlo : 1 / 10 < τ' - τ) (hhi : τ' - τ < 1)
    {Δ : ℚ} (hΔ : Δ ≠ 0) : Δ / measurementInterval (time τ) (time τ') ≠ Δ / (τ' - τ) := by
  have h0 : time τ ≠ 0 := by
    have : (1 : Int) ≤ time τ := Int.le_floor.mpr (by exact_mod_cast h1)
    omega
  intro heq
  rw [div_eq_mul_inv, div_eq_mul_inv, mul_right_inj' hΔ, inv_inj] at heq
  rcases measurementInterval_subsecond h0 (show τ ≤ τ' by linarith) (show τ' < τ + 1 by linarith)
    with hd | hd <;>
    rw [hd] at heq <;> linarith

/-- **The tick's rates are per clock second, not per second.** For every two consecutive ticks at
real times `τ < τ'` with `τ ≥ 1 s` and a cycle `τ' − τ` between `0.1 s` and `1 s` (the
`usleep(200 ms)` cadence), a nonzero task or WAL delta is not folded into `queue_ewma` or
`wal_bps_ewma` as the rate `Δ / (τ' − τ)`. At the failing input, ticks at `1 s` and `1.2 s` after
`ASR_Init` and an update that sets the flag, with 20 replayed records and 40 WAL bytes recorded in
between, the second tick takes `dt = 0.1` and stores `queue_ewma = 60` and `wal_bps_ewma = 120`,
where the true rates `100` and `200` give `30` and `60`. -/
theorem tick_rate_uses_clock_seconds :
    (∀ (cfg : ASRConfig) (m : ASRMetricsInternal) (τ τ' : ℚ), 1 ≤ τ → 1 / 10 < τ' - τ →
      τ' - τ < 1 → ∀ (t₀ q₀ w₀ t q w : UInt64),
        ((t - t₀).toNat ≠ 0 →
          (asrUpdateSmoothedMetrics cfg (time τ') t q w
              (asrUpdateSmoothedMetrics cfg (time τ) t₀ q₀ w₀ m)).queueEwma ≠
            ewmaUpdate (asrUpdateSmoothedMetrics cfg (time τ) t₀ q₀ w₀ m).queueEwma
              (((t - t₀).toNat : ℚ) / (τ' - τ))) ∧
        ((w - w₀).toNat ≠ 0 →
          (asrUpdateSmoothedMetrics cfg (time τ') t q w
              (asrUpdateSmoothedMetrics cfg (time τ) t₀ q₀ w₀ m)).walBpsEwma ≠
            ewmaUpdate (asrUpdateSmoothedMetrics cfg (time τ) t₀ q₀ w₀ m).walBpsEwma
              (((w - w₀).toNat : ℚ) / (τ' - τ)))) ∧
    let cfg := { asrDefaultConfig with enableAdaptiveSr := true }
    let m₁ := asrUpdateSmoothedMetrics cfg (time 1) 0 0 0 (asrInit AsrState.static).metrics
    let m₂ := asrUpdateSmoothedMetrics cfg (time (6 / 5)) 20 0 40 m₁
    m₂.queueEwma = 60 ∧ m₂.walBpsEwma = 120 ∧
      ewmaUpdate m₁.queueEwma (20 / (6 / 5 - 1)) = 30 ∧
      ewmaUpdate m₁.walBpsEwma (40 / (6 / 5 - 1)) = 60 := by
  refine ⟨fun cfg m τ τ' h1 hlo hhi t₀ q₀ w₀ t q w => ⟨fun hΔ => ?_, fun hΔ => ?_⟩, ?_⟩
  · rw [asrUpdateSmoothedMetrics_queueEwma, smoothMetrics_queueEwma, Ne, ewmaUpdate_right_inj,
      asrUpdateSmoothedMetrics_lastMeasurement, asrUpdateSmoothedMetrics_lastTotalTasks]
    exact rateSample_ne_true_rate h1 hlo hhi (Nat.cast_ne_zero.mpr hΔ)
  · rw [asrUpdateSmoothedMetrics_walBpsEwma, smoothMetrics_walBpsEwma, Ne, ewmaUpdate_right_inj,
      asrUpdateSmoothedMetrics_lastMeasurement, asrUpdateSmoothedMetrics_lastWalBytes]
    exact rateSample_ne_true_rate h1 hlo hhi (Nat.cast_ne_zero.mpr hΔ)
  · have h20 : (20 : UInt64).toNat = 20 := rfl
    have h40 : (40 : UInt64).toNat = 40 := rfl
    simp only [asrUpdateSmoothedMetrics_queueEwma, asrUpdateSmoothedMetrics_walBpsEwma,
      smoothMetrics_queueEwma, smoothMetrics_walBpsEwma, asrUpdateSmoothedMetrics_lastMeasurement,
      asrUpdateSmoothedMetrics_lastTotalTasks, asrUpdateSmoothedMetrics_lastWalBytes]
    norm_num [time, measurementInterval, ewmaUpdate_eq, asrInit, AsrState.static, asrMetricsStatic,
      Int.floor_eq_iff, h20, h40]

end AdaptiveSR
