import Mathlib.Data.Rat.Floor
import Mathlib.Tactic.NormNum
import Mathlib.Tactic.Linarith

/-!
# `AdaptiveSR.Config` — the controller configuration `ASRConfig` and when it is well formed.

`ASRConfig` is the C struct of `adaptive_sr.h`, field for field. A `double` is an exact rational: every
finite double is one, and the controller only adds, multiplies, divides, compares and floors them, so
the model computes what the C code computes in exact arithmetic. An `int` is an integer; `CInt` is the
range a C `int` can hold, used where overflow is in question.

`WellFormed` collects the side conditions under which the controller is meant to run
(`1 ≤ BMIN < BMAX`, `HYST ≥ 0`, `0 < MAX_STEP ≤ 1`, nonnegative weights, positive references). No
function of `adaptive_sr.c` checks them: `ASR_UpdateConfig` installs whatever it is given.
-/

namespace AdaptiveSR

/-- **`ASRConfig`** (`adaptive_sr.h`). -/
structure ASRConfig where
  /-- expected healthy queue length -/
  QSTAR : ℚ
  /-- expected healthy hot-miss rate -/
  RSTAR : ℚ
  /-- expected healthy WAL ingest rate (bytes per second) -/
  WSTAR : ℚ
  BMIN : Int
  BMAX : Int
  WQ : ℚ
  WM : ℚ
  WW : ℚ
  HYST : Int
  MAX_STEP : ℚ
  enableAdaptiveSr : Bool
  verboseMetrics : Bool
  deriving DecidableEq, Repr

/-- **`asr_default_config`**. -/
def asrDefaultConfig : ASRConfig where
  QSTAR := 100.0
  RSTAR := 0.05
  WSTAR := 10 * 1024 * 1024
  BMIN := 10
  BMAX := 2000
  WQ := 0.3
  WM := 0.6
  WW := 0.1
  HYST := 20
  MAX_STEP := 0.2
  enableAdaptiveSr := false
  verboseMetrics := false

/-- `static ASRConfig asr_config;` as the process image holds it before `ASR_Init`: C zero-initialises
a static object. -/
def asrConfigStatic : ASRConfig := ⟨0, 0, 0, 0, 0, 0, 0, 0, 0, 0, false, false⟩

/-- The values of a C `int` (`INT_MIN ≤ x ≤ INT_MAX`, 32-bit). -/
def CInt (x : Int) : Prop := -2 ^ 31 ≤ x ∧ x < 2 ^ 31

instance : DecidablePred CInt := fun _ => inferInstanceAs (Decidable (_ ∧ _))

/-- The configurations the controller is designed for. -/
structure ASRConfig.WellFormed (c : ASRConfig) : Prop where
  bmin_pos : 1 ≤ c.BMIN
  bmin_lt_bmax : c.BMIN < c.BMAX
  hyst_nonneg : 0 ≤ c.HYST
  maxStep_pos : 0 < c.MAX_STEP
  maxStep_le_one : c.MAX_STEP ≤ 1
  wq_nonneg : 0 ≤ c.WQ
  wm_nonneg : 0 ≤ c.WM
  ww_nonneg : 0 ≤ c.WW
  qstar_pos : 0 < c.QSTAR
  rstar_pos : 0 < c.RSTAR
  wstar_pos : 0 < c.WSTAR

theorem ASRConfig.wellFormed_iff (c : ASRConfig) :
    c.WellFormed ↔ 1 ≤ c.BMIN ∧ c.BMIN < c.BMAX ∧ 0 ≤ c.HYST ∧ 0 < c.MAX_STEP ∧
      c.MAX_STEP ≤ 1 ∧ 0 ≤ c.WQ ∧ 0 ≤ c.WM ∧ 0 ≤ c.WW ∧ 0 < c.QSTAR ∧ 0 < c.RSTAR ∧
      0 < c.WSTAR :=
  ⟨fun h => ⟨h.1, h.2, h.3, h.4, h.5, h.6, h.7, h.8, h.9, h.10, h.11⟩,
   fun ⟨h1, h2, h3, h4, h5, h6, h7, h8, h9, h10, h11⟩ =>
     ⟨h1, h2, h3, h4, h5, h6, h7, h8, h9, h10, h11⟩⟩

instance (c : ASRConfig) : Decidable c.WellFormed :=
  decidable_of_iff' _ (ASRConfig.wellFormed_iff c)

theorem ASRConfig.WellFormed.bmin_le_bmax {c : ASRConfig} (h : c.WellFormed) : c.BMIN ≤ c.BMAX :=
  h.bmin_lt_bmax.le

/-- Well-formedness does not read the enable flag. -/
theorem ASRConfig.WellFormed.setEnable {c : ASRConfig} (h : c.WellFormed) (b : Bool) :
    ({ c with enableAdaptiveSr := b } : ASRConfig).WellFormed :=
  ⟨h.1, h.2, h.3, h.4, h.5, h.6, h.7, h.8, h.9, h.10, h.11⟩

/-- The shipped defaults are a configuration the controller is designed for. -/
theorem asrDefaultConfig_wellFormed : asrDefaultConfig.WellFormed := by
  rw [ASRConfig.wellFormed_iff]; norm_num [asrDefaultConfig]

end AdaptiveSR
