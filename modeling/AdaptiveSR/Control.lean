import AdaptiveSR.Config

/-!
# `AdaptiveSR.Control` — the control law of `asr_update_smoothed_metrics`, stage by stage.

The controller tick (`asr_update_smoothed_metrics`, lines 241–363) is one C function. Its arithmetic is
cut here into the stages the code itself separates by comments, each a function of its inputs only:

* `ewmaUpdate`, `computePressure`, `budgetFromAggressiveness` — the three static helpers of the file;
* `weightedAggressiveness` — lines 315–317, the weighted pressure sum clamped to `[0, 1]`;
* `stepLimit` — lines 320–327, the per-tick cap on the aggressiveness change;
* `applyHysteresis` — lines 337–340, the minimum change before the budget moves.

`Metrics` composes them into the tick. Each stage gets its range, its monotonicity, and (for
`stepLimit`) its closed form `max (A - MAX_STEP) (min T (A + MAX_STEP))`: a median of three. The C
literals `0.0` and `1.0` are written `0` and `1`.
-/

namespace AdaptiveSR

/-! ## §1 — the static helpers -/

/-- `#define EWMA_ALPHA 0.3`. -/
def EWMA_ALPHA : ℚ := 0.3

theorem EWMA_ALPHA_eq : EWMA_ALPHA = 3 / 10 := by norm_num [EWMA_ALPHA]

/-- **`ewma_update`**: `alpha * new + (1 - alpha) * old`. -/
def ewmaUpdate (oldVal newVal : ℚ) : ℚ :=
  EWMA_ALPHA * newVal + (1 - EWMA_ALPHA) * oldVal

theorem ewmaUpdate_eq (oldVal newVal : ℚ) :
    ewmaUpdate oldVal newVal = 3 / 10 * newVal + 7 / 10 * oldVal := by
  rw [ewmaUpdate, EWMA_ALPHA_eq]; ring

theorem ewmaUpdate_mono {o o' n n' : ℚ} (ho : o ≤ o') (hn : n ≤ n') :
    ewmaUpdate o n ≤ ewmaUpdate o' n' := by
  rw [ewmaUpdate_eq, ewmaUpdate_eq]
  exact add_le_add (mul_le_mul_of_nonneg_left hn (by norm_num))
    (mul_le_mul_of_nonneg_left ho (by norm_num))

/-- The sample can be read back from the new smoothed value: `α ≠ 0`. -/
theorem ewmaUpdate_right_inj (o : ℚ) {n n' : ℚ} : ewmaUpdate o n = ewmaUpdate o n' ↔ n = n' := by
  rw [ewmaUpdate_eq, ewmaUpdate_eq]
  constructor
  · intro h; linarith
  · rintro rfl; rfl

/-- **`compute_pressure`**: `0` up to `expected`, then `raw / expected - 1` capped at `1`. -/
def computePressure (raw expected : ℚ) : ℚ :=
  if raw ≤ expected then 0
  else
    let e := raw / expected - 1
    if e > 1 then 1 else e

/-- For a positive reference, `compute_pressure` is `raw / expected − 1` clamped to `[0, 1]`. -/
theorem computePressure_eq (raw : ℚ) {expected : ℚ} (he : 0 < expected) :
    computePressure raw expected = max (min (raw / expected - 1) 1) 0 := by
  dsimp only [computePressure]
  split_ifs with h1 h2
  · have : raw / expected ≤ 1 := (div_le_one he).mpr h1
    rw [max_eq_right (min_le_of_left_le (by linarith))]
  · rw [min_eq_right h2.le, max_eq_left zero_le_one]
  · have : 1 < raw / expected := (one_lt_div he).mpr (not_le.mp h1)
    rw [min_eq_left (not_lt.mp h2), max_eq_left (by linarith)]

theorem computePressure_mem (raw : ℚ) {expected : ℚ} (he : 0 < expected) :
    0 ≤ computePressure raw expected ∧ computePressure raw expected ≤ 1 := by
  rw [computePressure_eq raw he]
  exact ⟨le_max_right _ _, max_le (min_le_right _ _) zero_le_one⟩

/-- Pressure never falls as its raw signal grows (for a positive reference). -/
theorem computePressure_mono {raw raw' expected : ℚ} (he : 0 < expected) (h : raw ≤ raw') :
    computePressure raw expected ≤ computePressure raw' expected := by
  rw [computePressure_eq raw he, computePressure_eq raw' he]
  exact max_le_max (min_le_min_right _ (sub_le_sub_right (div_le_div_of_nonneg_right h he.le) 1))
    le_rfl

/-! ## §2 — aggressiveness: weighting and the step limit -/

/-- Lines 315–317: `WQ·eq + WM·em + WW·ew`, clamped to `[0, 1]`. -/
def weightedAggressiveness (cfg : ASRConfig) (eq em ew : ℚ) : ℚ :=
  let a := cfg.WQ * eq + cfg.WM * em + cfg.WW * ew
  let a := if a > 1 then 1 else a
  if a < 0 then 0 else a

/-- The two clamps of lines 316–317 are `max (min a 1) 0`. -/
theorem weightedAggressiveness_eq (cfg : ASRConfig) (eq em ew : ℚ) :
    weightedAggressiveness cfg eq em ew =
      max (min (cfg.WQ * eq + cfg.WM * em + cfg.WW * ew) 1) 0 := by
  dsimp only [weightedAggressiveness]
  generalize cfg.WQ * eq + cfg.WM * em + cfg.WW * ew = a
  split_ifs with h1 h2 h2
  · norm_num at h2
  · rw [min_eq_right h1.le, max_eq_left zero_le_one]
  · rw [min_eq_left (not_lt.mp h1), max_eq_right h2.le]
  · rw [min_eq_left (not_lt.mp h1), max_eq_left (not_lt.mp h2)]

theorem weightedAggressiveness_mem (cfg : ASRConfig) (eq em ew : ℚ) :
    0 ≤ weightedAggressiveness cfg eq em ew ∧ weightedAggressiveness cfg eq em ew ≤ 1 := by
  rw [weightedAggressiveness_eq]
  exact ⟨le_max_right _ _, max_le (min_le_right _ _) zero_le_one⟩

theorem weightedAggressiveness_mono {cfg : ASRConfig} (hq : 0 ≤ cfg.WQ) (hm : 0 ≤ cfg.WM)
    (hw : 0 ≤ cfg.WW) {eq em ew eq' em' ew' : ℚ} (h1 : eq ≤ eq') (h2 : em ≤ em') (h3 : ew ≤ ew') :
    weightedAggressiveness cfg eq em ew ≤ weightedAggressiveness cfg eq' em' ew' := by
  rw [weightedAggressiveness_eq, weightedAggressiveness_eq]
  exact max_le_max (min_le_min_right _ (add_le_add (add_le_add (mul_le_mul_of_nonneg_left h1 hq)
    (mul_le_mul_of_nonneg_left h2 hm)) (mul_le_mul_of_nonneg_left h3 hw))) le_rfl

/-- Lines 320–327: move from `current` toward `target`, by at most `maxStep`. -/
def stepLimit (current target maxStep : ℚ) : ℚ :=
  let deltaA := target - current
  if |deltaA| > maxStep then
    if deltaA > 0 then current + maxStep else current - maxStep
  else target

/-- **The step limit is a median of three**: `target` clamped to `[current - m, current + m]`. -/
theorem stepLimit_eq_clamp (current target : ℚ) {m : ℚ} (hm : 0 ≤ m) :
    stepLimit current target m = max (current - m) (min target (current + m)) := by
  dsimp only [stepLimit]
  split_ifs with h1 h2
  · rw [abs_of_pos h2] at h1
    rw [min_eq_right (by linarith), max_eq_right (by linarith)]
  · rw [abs_of_nonpos (not_lt.mp h2)] at h1
    rw [min_eq_left (by linarith), max_eq_left (by linarith)]
  · rw [not_lt, abs_sub_le_iff] at h1
    rw [min_eq_left (by linarith), max_eq_right (by linarith)]

theorem stepLimit_of_abs_le {current target m : ℚ} (h : |target - current| ≤ m) :
    stepLimit current target m = target := by
  dsimp only [stepLimit]; rw [if_neg (not_lt.mpr h)]

theorem abs_stepLimit_sub_le (current target : ℚ) {m : ℚ} (hm : 0 ≤ m) :
    |stepLimit current target m - current| ≤ m := by
  rw [stepLimit_eq_clamp _ _ hm, abs_sub_le_iff]
  constructor
  · exact sub_le_iff_le_add'.mpr (max_le (by linarith) (min_le_right _ _))
  · have := le_max_left (current - m) (min target (current + m)); linarith

/-- The limited value lies between the old value and the target. -/
theorem stepLimit_between (current target : ℚ) {m : ℚ} (hm : 0 ≤ m) :
    min current target ≤ stepLimit current target m ∧
      stepLimit current target m ≤ max current target := by
  rw [stepLimit_eq_clamp _ _ hm]
  constructor
  · rcases le_total current target with h | h
    · rw [min_eq_left h]; exact le_max_of_le_right (le_min h (by linarith))
    · rw [min_eq_right h]; exact le_max_of_le_right (le_min le_rfl (by linarith))
  · exact max_le (by linarith [le_max_left current target])
      ((min_le_left _ _).trans (le_max_right _ _))

theorem stepLimit_mono {c c' t t' m : ℚ} (hm : 0 ≤ m) (hc : c ≤ c') (ht : t ≤ t') :
    stepLimit c t m ≤ stepLimit c' t' m := by
  rw [stepLimit_eq_clamp _ _ hm, stepLimit_eq_clamp _ _ hm]
  exact max_le_max (by linarith) (min_le_min ht (by linarith))

/-- The remaining distance to the target shrinks by exactly `m`, or to zero. -/
theorem abs_sub_stepLimit (current target m : ℚ) :
    |target - stepLimit current target m| = max (|target - current| - m) 0 := by
  dsimp only [stepLimit]
  split_ifs with h1 h2
  · rw [abs_of_pos h2] at h1 ⊢
    rw [abs_of_pos (by linarith), max_eq_left (by linarith)]; ring
  · rw [abs_of_nonpos (not_lt.mp h2)] at h1 ⊢
    rw [abs_of_neg (by linarith), max_eq_left (by linarith)]; ring
  · rw [sub_self, abs_zero, max_eq_right (by linarith)]

/-! ## §3 — budget: the mapping and the hysteresis -/

/-- **`budget_from_aggressiveness`**: clamp `A` to `[0, 1]`, then `⌊BMIN + A·(BMAX − BMIN)⌋`. -/
def budgetFromAggressiveness (A : ℚ) (cfg : ASRConfig) : Int :=
  let A := if A < 0 then 0 else A
  let A := if A > 1 then 1 else A
  ⌊(cfg.BMIN : ℚ) + A * ((cfg.BMAX - cfg.BMIN : Int) : ℚ)⌋

/-- The two clamps of `budget_from_aggressiveness` are `min (max A 0) 1`. -/
theorem budgetFromAggressiveness_eq (A : ℚ) (cfg : ASRConfig) :
    budgetFromAggressiveness A cfg =
      ⌊(cfg.BMIN : ℚ) + min (max A 0) 1 * ((cfg.BMAX - cfg.BMIN : Int) : ℚ)⌋ := by
  dsimp only [budgetFromAggressiveness]
  congr 3
  split_ifs with h1 h2 h2
  · norm_num at h2
  · rw [max_eq_right h1.le, min_eq_left zero_le_one]
  · rw [max_eq_left (not_lt.mp h1), min_eq_right h2.le]
  · rw [max_eq_left (not_lt.mp h1), min_eq_left (not_lt.mp h2)]

theorem budgetFromAggressiveness_of_mem {A : ℚ} (h0 : 0 ≤ A) (h1 : A ≤ 1) (cfg : ASRConfig) :
    budgetFromAggressiveness A cfg = ⌊(cfg.BMIN : ℚ) + A * ((cfg.BMAX - cfg.BMIN : Int) : ℚ)⌋ := by
  rw [budgetFromAggressiveness_eq, max_eq_left h0, min_eq_left h1]

/-- The budget the mapping produces lies in `[BMIN, BMAX]`. -/
theorem budgetFromAggressiveness_mem (A : ℚ) {cfg : ASRConfig} (h : cfg.BMIN ≤ cfg.BMAX) :
    cfg.BMIN ≤ budgetFromAggressiveness A cfg ∧ budgetFromAggressiveness A cfg ≤ cfg.BMAX := by
  have hD : (0 : ℚ) ≤ (cfg.BMAX : ℚ) - cfg.BMIN := by exact_mod_cast sub_nonneg.mpr h
  have h0 : 0 ≤ min (max A 0) 1 := le_min (le_max_right _ _) zero_le_one
  have h1 : min (max A 0) 1 * ((cfg.BMAX : ℚ) - cfg.BMIN) ≤ (cfg.BMAX : ℚ) - cfg.BMIN :=
    mul_le_of_le_one_left hD (min_le_right _ _)
  rw [budgetFromAggressiveness_eq]
  push_cast
  exact ⟨Int.le_floor.mpr (le_add_of_nonneg_right (mul_nonneg h0 hD)),
    Int.floor_le_iff.mpr (by linarith)⟩

theorem budgetFromAggressiveness_mono {A A' : ℚ} {cfg : ASRConfig} (h : cfg.BMIN ≤ cfg.BMAX)
    (hA : A ≤ A') : budgetFromAggressiveness A cfg ≤ budgetFromAggressiveness A' cfg := by
  have hD : (0 : ℚ) ≤ ((cfg.BMAX - cfg.BMIN : Int) : ℚ) := by exact_mod_cast sub_nonneg.mpr h
  rw [budgetFromAggressiveness_eq, budgetFromAggressiveness_eq]
  exact Int.floor_mono (add_le_add_left
    (mul_le_mul_of_nonneg_right (min_le_min_right _ (max_le_max hA le_rfl)) hD) _)

/-- Two floors differ by at most the ceiling of the distance between their arguments. -/
theorem floor_sub_floor_le_ceil (x y : ℚ) : ⌊x⌋ - ⌊y⌋ ≤ ⌈|x - y|⌉ := by
  have h1 := Int.floor_le x
  have h2 := Int.lt_floor_add_one y
  have h3 := Int.le_ceil |x - y|
  have h4 := le_abs_self (x - y)
  have : ((⌊x⌋ - ⌊y⌋ : Int) : ℚ) < ⌈|x - y|⌉ + 1 := by push_cast; linarith
  exact Int.lt_add_one_iff.mp (by exact_mod_cast this)

theorem abs_floor_sub_floor_le_ceil (x y : ℚ) : |⌊x⌋ - ⌊y⌋| ≤ ⌈|x - y|⌉ := by
  have := floor_sub_floor_le_ceil y x
  rw [abs_sub_comm] at this
  exact abs_le.mpr ⟨by linarith, floor_sub_floor_le_ceil x y⟩

/-- Moving the aggressiveness by at most `m` inside `[0, 1]` moves the mapped budget by at most
`⌈m·(BMAX − BMIN)⌉`. -/
theorem abs_budgetFromAggressiveness_sub_le {A A' m : ℚ} {cfg : ASRConfig}
    (hB : cfg.BMIN ≤ cfg.BMAX) (hA : 0 ≤ A ∧ A ≤ 1) (hA' : 0 ≤ A' ∧ A' ≤ 1) (h : |A' - A| ≤ m) :
    |budgetFromAggressiveness A' cfg - budgetFromAggressiveness A cfg| ≤
      ⌈m * ((cfg.BMAX - cfg.BMIN : Int) : ℚ)⌉ := by
  have hD : (0 : ℚ) ≤ ((cfg.BMAX - cfg.BMIN : Int) : ℚ) := by exact_mod_cast sub_nonneg.mpr hB
  rw [budgetFromAggressiveness_of_mem hA.1 hA.2, budgetFromAggressiveness_of_mem hA'.1 hA'.2]
  refine (abs_floor_sub_floor_le_ceil _ _).trans (Int.ceil_mono ?_)
  calc |(cfg.BMIN : ℚ) + A' * ((cfg.BMAX - cfg.BMIN : Int) : ℚ) -
          ((cfg.BMIN : ℚ) + A * ((cfg.BMAX - cfg.BMIN : Int) : ℚ))|
      = |A' - A| * ((cfg.BMAX - cfg.BMIN : Int) : ℚ) := by
        rw [← abs_of_nonneg hD, ← abs_mul, abs_of_nonneg hD]; ring_nf
    _ ≤ m * ((cfg.BMAX - cfg.BMIN : Int) : ℚ) := mul_le_mul_of_nonneg_right h hD

/-- Lines 337–340: keep `lastBudget` unless the new budget differs from it by at least `hyst`. -/
def applyHysteresis (newBudget lastBudget hyst : Int) : Int :=
  let delta := newBudget - lastBudget
  let delta := if delta < 0 then -delta else delta
  if delta < hyst then lastBudget else newBudget

theorem applyHysteresis_eq (newBudget lastBudget hyst : Int) :
    applyHysteresis newBudget lastBudget hyst =
      if |newBudget - lastBudget| < hyst then lastBudget else newBudget := by
  dsimp only [applyHysteresis]
  congr 2
  split_ifs with h
  · rw [abs_of_neg h]
  · rw [abs_of_nonneg (not_lt.mp h)]

/-- What the hysteresis can do: keep the old budget when the new one is within `hyst` of it, or
publish the new one when it is at least `hyst` away. -/
theorem applyHysteresis_cases (newBudget lastBudget hyst : Int) :
    (applyHysteresis newBudget lastBudget hyst = lastBudget ∧ |newBudget - lastBudget| < hyst) ∨
      (applyHysteresis newBudget lastBudget hyst = newBudget ∧ hyst ≤ |newBudget - lastBudget|) := by
  rw [applyHysteresis_eq]
  by_cases h : |newBudget - lastBudget| < hyst
  · exact .inl ⟨if_pos h, h⟩
  · exact .inr ⟨if_neg h, not_lt.mp h⟩

/-- Applying the hysteresis twice toward the same proposed budget changes nothing the second time:
either the old budget was kept, and is still within `hyst`, or the proposal was published. -/
theorem applyHysteresis_idem (newBudget lastBudget hyst : Int) :
    applyHysteresis newBudget (applyHysteresis newBudget lastBudget hyst) hyst =
      applyHysteresis newBudget lastBudget hyst := by
  rcases applyHysteresis_cases newBudget lastBudget hyst with ⟨h, hlt⟩ | ⟨h, -⟩ <;> rw [h]
  · rw [applyHysteresis_eq, if_pos hlt]
  · rw [applyHysteresis_eq, sub_self, abs_zero]; split_ifs <;> rfl

/-- For a fixed published budget, the hysteresis is monotone in the proposed budget. -/
theorem applyHysteresis_mono {n n' : Int} (b hyst : Int) (h : n ≤ n') :
    applyHysteresis n b hyst ≤ applyHysteresis n' b hyst := by
  rw [applyHysteresis_eq, applyHysteresis_eq]
  split_ifs with h1 h2 h2
  · exact le_rfl
  · rw [abs_lt] at h1; rw [not_lt, le_abs'] at h2; omega
  · rw [abs_lt] at h2; rw [not_lt, le_abs'] at h1; omega
  · exact h

end AdaptiveSR
