import Mathlib.Data.Int.Log
import Mathlib.Data.Rat.Floor
import Mathlib.Tactic.Linarith

/-!
# `AdaptiveSR.Binary64` — what a C `double` operation returns.

The controller computes in C `double`s: IEEE 754 binary64, rounding to nearest with ties to even, the
default of every C compiler for the target. An operation returns its exact result rounded, and a
decimal literal is read as its exact value rounded. `roundDouble` is that rounding on the exact
values (`ℚ`); a double is `m·2^e` with `|m| < 2^53` and `e ≥ -1074`.

`Rounding` collects the laws the proofs about the controller use: monotone, odd, the identity on its
own results and on the integers up to `2^53`. Both `Rounding.exact` (the identity, the model of the
other modules) and `Rounding.binary64` satisfy them, so a stage of the tick written once with a
rounding parameter has the exact model and the binary64 code as instances.

Values beyond the largest double round to `±∞` in C; nothing the controller computes under a
configuration of ordinary magnitudes comes near `2^1024`, and the model leaves overflow out.
-/

namespace AdaptiveSR

/-! ## §1 — the nearest integer, ties to even -/

/-- The integer nearest `x`; a halfway case goes to the even one. -/
def roundHalfEven (x : ℚ) : ℤ :=
  if x - ⌊x⌋ < 1 / 2 then ⌊x⌋
  else if 1 / 2 < x - ⌊x⌋ then ⌊x⌋ + 1
  else if ⌊x⌋ % 2 = 0 then ⌊x⌋ else ⌊x⌋ + 1

theorem roundHalfEven_cases (x : ℚ) :
    (roundHalfEven x = ⌊x⌋ ∧ (x - ⌊x⌋ < 1 / 2 ∨ x - ⌊x⌋ = 1 / 2 ∧ ⌊x⌋ % 2 = 0)) ∨
      (roundHalfEven x = ⌊x⌋ + 1 ∧ (1 / 2 < x - ⌊x⌋ ∨ x - ⌊x⌋ = 1 / 2 ∧ ⌊x⌋ % 2 ≠ 0)) := by
  unfold roundHalfEven
  split_ifs with h1 h2 h3
  · exact .inl ⟨rfl, .inl h1⟩
  · exact .inr ⟨rfl, .inl h2⟩
  · exact .inl ⟨rfl, .inr ⟨by linarith, h3⟩⟩
  · exact .inr ⟨rfl, .inr ⟨by linarith, h3⟩⟩

theorem floor_le_roundHalfEven (x : ℚ) : ⌊x⌋ ≤ roundHalfEven x := by
  rcases roundHalfEven_cases x with ⟨h, -⟩ | ⟨h, -⟩ <;> omega

theorem roundHalfEven_le_floor_add_one (x : ℚ) : roundHalfEven x ≤ ⌊x⌋ + 1 := by
  rcases roundHalfEven_cases x with ⟨h, -⟩ | ⟨h, -⟩ <;> omega

@[simp] theorem roundHalfEven_intCast (n : ℤ) : roundHalfEven n = n := by
  simp [roundHalfEven]

/-- A value within less than a half of `n` rounds to `n`. -/
theorem roundHalfEven_eq_of_abs_lt {x : ℚ} {n : ℤ} (h : |x - n| < 1 / 2) : roundHalfEven x = n := by
  rw [abs_lt] at h
  rcases le_or_lt (n : ℚ) x with hn | hn
  · have hf : ⌊x⌋ = n := Int.floor_eq_iff.mpr ⟨hn, by linarith⟩
    rw [roundHalfEven, hf, if_pos (by linarith)]
  · have hf : ⌊x⌋ = n - 1 := Int.floor_eq_iff.mpr ⟨by push_cast; linarith, by push_cast; linarith⟩
    rw [roundHalfEven, hf, if_neg (by push_cast; linarith), if_pos (by push_cast; linarith)]
    ring

/-- A halfway value rounds to the even neighbour. -/
theorem roundHalfEven_add_half (n : ℤ) :
    roundHalfEven (n + 1 / 2) = if n % 2 = 0 then n else n + 1 := by
  have hf : ⌊(n : ℚ) + 1 / 2⌋ = n := Int.floor_eq_iff.mpr ⟨by linarith, by linarith⟩
  rw [roundHalfEven, hf, if_neg (by norm_num), if_neg (by norm_num)]

theorem roundHalfEven_mono {x y : ℚ} (h : x ≤ y) : roundHalfEven x ≤ roundHalfEven y := by
  rcases (Int.floor_mono h).lt_or_eq with hlt | heq
  · exact (roundHalfEven_le_floor_add_one x).trans ((Int.add_one_le_iff.mpr hlt).trans
      (floor_le_roundHalfEven y))
  · rcases roundHalfEven_cases x with ⟨hx, -⟩ | ⟨hx, hx'⟩
    · exact hx ▸ heq ▸ floor_le_roundHalfEven y
    · rcases roundHalfEven_cases y with ⟨hy, hy'⟩ | ⟨hy, -⟩
      · rw [← heq] at hy'
        rcases hx' with hx' | ⟨hx', hodd⟩ <;> rcases hy' with hy' | ⟨hy', hev⟩
        · linarith
        · linarith
        · linarith
        · exact absurd hev hodd
      · omega

/-! ## §2 — rounding to a double -/

/-- The exponent of the last mantissa bit of the doubles next to `x > 0`: `⌊log₂ x⌋ - 52`, and
`-1074` among the subnormals. -/
def ulpExp (x : ℚ) : ℤ := max (Int.log 2 x - 52) (-1074)

/-- A nonnegative `x` rounded to the nearest multiple of `2 ^ ulpExp x`, ties to an even multiple. -/
def roundNonneg (x : ℚ) : ℚ := roundHalfEven (x / 2 ^ ulpExp x) * 2 ^ ulpExp x

/-- **`roundDouble`**: the double a C operation returns for the exact result `x`; a negative value is
rounded as its magnitude. -/
def roundDouble (x : ℚ) : ℚ := if x < 0 then -roundNonneg (-x) else roundNonneg x

theorem two_zpow_pos (e : ℤ) : (0 : ℚ) < 2 ^ e := zpow_pos two_pos e

@[simp] theorem roundNonneg_zero : roundNonneg 0 = 0 := by
  rw [roundNonneg, zero_div, ← Int.cast_zero, roundHalfEven_intCast, Int.cast_zero, zero_mul]

theorem roundNonneg_nonneg {x : ℚ} (hx : 0 ≤ x) : 0 ≤ roundNonneg x := by
  have := floor_le_roundHalfEven (x / 2 ^ ulpExp x)
  have : 0 ≤ ⌊x / 2 ^ ulpExp x⌋ := Int.floor_nonneg.mpr (div_nonneg hx (two_zpow_pos _).le)
  exact mul_nonneg (by exact_mod_cast (by omega : (0 : ℤ) ≤ _)) (two_zpow_pos _).le

/-- Below the next binade: `x < 2 ^ (ulpExp x + 53)`. -/
theorem lt_two_zpow_ulpExp (x : ℚ) : x < 2 ^ (ulpExp x + 53) := by
  have h := Int.lt_zpow_succ_log_self (b := 2) one_lt_two x
  push_cast at h
  exact h.trans_le (zpow_le_zpow_right₀ one_le_two (by unfold ulpExp; omega))

/-- Above the bottom of a normal binade: `2 ^ (ulpExp x + 52) ≤ x`. -/
theorem two_zpow_ulpExp_le {x : ℚ} (hx : 0 < x) (h : -1074 < ulpExp x) :
    2 ^ (ulpExp x + 52) ≤ x := by
  have hu : ulpExp x + 52 = Int.log 2 x := by unfold ulpExp at h ⊢; omega
  rw [hu]
  exact_mod_cast Int.zpow_log_le_self (b := 2) one_lt_two hx

theorem ulpExp_mono {x y : ℚ} (hx : 0 < x) (h : x ≤ y) : ulpExp x ≤ ulpExp y :=
  max_le_max (by have := Int.log_mono_right (b := 2) hx h; omega) le_rfl

/-- The mantissa of a rounded value is at most `2 ^ 53`. -/
theorem roundHalfEven_le_two_pow (x : ℚ) : roundHalfEven (x / 2 ^ ulpExp x) ≤ 2 ^ 53 := by
  have h : x / 2 ^ ulpExp x ≤ ((2 ^ 53 : ℤ) : ℚ) := by
    rw [div_le_iff₀ (two_zpow_pos _)]
    push_cast
    have := lt_two_zpow_ulpExp x
    rw [zpow_add₀ two_ne_zero] at this
    linarith
  exact (roundHalfEven_mono h).trans_eq (roundHalfEven_intCast _)

theorem roundNonneg_le (x : ℚ) : roundNonneg x ≤ 2 ^ (ulpExp x + 53) := by
  rw [roundNonneg, zpow_add₀ two_ne_zero, mul_comm (2 ^ ulpExp x : ℚ)]
  exact mul_le_mul_of_nonneg_right (by exact_mod_cast roundHalfEven_le_two_pow x)
    (two_zpow_pos _).le

theorem le_roundNonneg {x : ℚ} (hx : 0 < x) (h : -1074 < ulpExp x) :
    2 ^ (ulpExp x + 52) ≤ roundNonneg x := by
  have h52 : ((2 ^ 52 : ℤ) : ℚ) ≤ x / 2 ^ ulpExp x := by
    rw [le_div_iff₀ (two_zpow_pos _)]
    push_cast
    have := two_zpow_ulpExp_le hx h
    rw [zpow_add₀ two_ne_zero] at this
    linarith
  have hm : (2 : ℤ) ^ 52 ≤ roundHalfEven (x / 2 ^ ulpExp x) :=
    (roundHalfEven_intCast _).symm.trans_le (roundHalfEven_mono h52)
  rw [roundNonneg, zpow_add₀ two_ne_zero, mul_comm (2 ^ ulpExp x : ℚ)]
  exact mul_le_mul_of_nonneg_right (by exact_mod_cast hm) (two_zpow_pos _).le

theorem roundNonneg_mono {x y : ℚ} (hx : 0 ≤ x) (h : x ≤ y) : roundNonneg x ≤ roundNonneg y := by
  rcases hx.lt_or_eq with hx | rfl
  · rcases (ulpExp_mono hx h).lt_or_eq with hlt | heq
    · -- `x` lies in a lower binade than `y`
      calc roundNonneg x ≤ 2 ^ (ulpExp x + 53) := roundNonneg_le x
        _ ≤ 2 ^ (ulpExp y + 52) := zpow_le_zpow_right₀ one_le_two (by omega)
        _ ≤ roundNonneg y :=
          le_roundNonneg (hx.trans_le h) (lt_of_le_of_lt (le_max_right _ _) hlt)
    · have hr := roundHalfEven_mono (div_le_div_of_nonneg_right h (two_zpow_pos (ulpExp y)).le)
      rw [roundNonneg, roundNonneg, heq]
      exact mul_le_mul_of_nonneg_right (by exact_mod_cast hr) (two_zpow_pos _).le
  · rw [roundNonneg_zero]; exact roundNonneg_nonneg h

/-- **A double rounds to itself**: `m·2^e` with `0 ≤ m < 2^53` and `e ≥ -1074`. -/
theorem roundNonneg_mul_zpow {m : ℤ} (hm : 0 ≤ m) (hm' : m < 2 ^ 53) {e : ℤ} (he : -1074 ≤ e) :
    roundNonneg (m * 2 ^ e) = m * 2 ^ e := by
  rcases hm.lt_or_eq with hm | rfl
  · have hx : (0 : ℚ) < m * 2 ^ e := mul_pos (by exact_mod_cast hm) (two_zpow_pos e)
    have hE : ulpExp (m * 2 ^ e) ≤ e := by
      have hlt : (m : ℚ) * 2 ^ e < (2 : ℚ) ^ (e + 53) := by
        rw [zpow_add₀ two_ne_zero, mul_comm ((2 : ℚ) ^ e)]
        exact mul_lt_mul_of_pos_right (by exact_mod_cast hm') (two_zpow_pos e)
      have := (Int.lt_zpow_iff_log_lt (b := 2) one_lt_two hx).mp (by exact_mod_cast hlt)
      unfold ulpExp; omega
    obtain ⟨k, hk⟩ : ∃ k : ℕ, e - ulpExp (m * 2 ^ e) = k := ⟨_, (Int.toNat_of_nonneg
      (by omega)).symm⟩
    have hq : (m : ℚ) * 2 ^ e / 2 ^ ulpExp (m * 2 ^ e) = ((m * 2 ^ k : ℤ) : ℚ) := by
      rw [mul_div_assoc, ← zpow_sub₀ two_ne_zero, hk, zpow_natCast]; push_cast; rfl
    rw [roundNonneg, hq, roundHalfEven_intCast, ← hq, div_mul_cancel₀ _ (two_zpow_pos _).ne']
  · simp

theorem roundNonneg_roundNonneg {x : ℚ} (hx : 0 ≤ x) : roundNonneg (roundNonneg x) = roundNonneg x := by
  rcases hx.lt_or_eq with hx | rfl
  · have h0 : 0 ≤ roundHalfEven (x / 2 ^ ulpExp x) :=
      (Int.floor_nonneg.mpr (div_nonneg hx.le (two_zpow_pos _).le)).trans
        (floor_le_roundHalfEven _)
    have he : -1074 ≤ ulpExp x := le_max_right _ _
    rcases (roundHalfEven_le_two_pow x).lt_or_eq with hlt | heq
    · exact roundNonneg_mul_zpow h0 hlt he
    · -- the carry into the next binade: `2^53·2^e = 2^52·2^(e+1)`
      have h2 : roundNonneg x = ((2 ^ 52 : ℤ) : ℚ) * 2 ^ (ulpExp x + 1) := by
        rw [roundNonneg, heq, zpow_add_one₀ two_ne_zero]; push_cast; ring
      rw [h2]
      exact roundNonneg_mul_zpow (by norm_num) (by norm_num) (by omega)
  · simp

/-! ## §3 — `roundDouble` -/

@[simp] theorem roundDouble_zero : roundDouble 0 = 0 := by simp [roundDouble]

theorem roundDouble_of_nonneg {x : ℚ} (hx : 0 ≤ x) : roundDouble x = roundNonneg x :=
  if_neg (not_lt.mpr hx)

theorem roundDouble_neg (x : ℚ) : roundDouble (-x) = -roundDouble x := by
  rcases lt_trichotomy x 0 with h | rfl | h
  · rw [roundDouble_of_nonneg (by linarith), roundDouble, if_pos h, neg_neg]
  · simp
  · rw [roundDouble, if_pos (by linarith), neg_neg, roundDouble_of_nonneg h.le]

theorem roundDouble_mono : Monotone roundDouble := by
  intro x y h
  rcases le_or_lt 0 x with hx | hx
  · rw [roundDouble_of_nonneg hx, roundDouble_of_nonneg (hx.trans h)]
    exact roundNonneg_mono hx h
  · rw [roundDouble, if_pos hx]
    rcases le_or_lt 0 y with hy | hy
    · rw [roundDouble_of_nonneg hy]
      linarith [roundNonneg_nonneg hy, roundNonneg_nonneg (neg_nonneg.mpr hx.le)]
    · rw [roundDouble, if_pos hy, neg_le_neg_iff]
      exact roundNonneg_mono (by linarith) (by linarith)

/-- **A double rounds to itself**: `m·2^e` with `|m| < 2^53` and `e ≥ -1074`. -/
theorem roundDouble_mul_zpow {m : ℤ} (hm : |m| < 2 ^ 53) {e : ℤ} (he : -1074 ≤ e) :
    roundDouble (m * 2 ^ e) = m * 2 ^ e := by
  rw [abs_lt] at hm
  rcases le_or_lt 0 m with h | h
  · rw [roundDouble_of_nonneg (mul_nonneg (by exact_mod_cast h) (two_zpow_pos e).le)]
    exact roundNonneg_mul_zpow h hm.2 he
  · have h' := roundNonneg_mul_zpow (m := -m) (by omega) (by omega) he
    push_cast at h'
    rw [show (m : ℚ) * 2 ^ e = -(-(m : ℚ) * 2 ^ e) by ring, roundDouble_neg,
      roundDouble_of_nonneg (mul_nonneg (by exact_mod_cast (by omega : (0 : ℤ) ≤ -m))
        (two_zpow_pos e).le), h']

/-- A value written as `m·2^e` with a short mantissa is a double. -/
theorem roundDouble_eq_self {x : ℚ} (m e : ℤ) (hx : x = m * 2 ^ e) (hm : |m| < 2 ^ 53)
    (he : -1074 ≤ e) : roundDouble x = x := by
  rw [hx]; exact roundDouble_mul_zpow hm he

theorem roundDouble_roundDouble (x : ℚ) : roundDouble (roundDouble x) = roundDouble x := by
  rcases le_or_lt 0 x with hx | hx
  · rw [roundDouble_of_nonneg hx, roundDouble_of_nonneg (roundNonneg_nonneg hx),
      roundNonneg_roundNonneg hx]
  · have h := roundNonneg_nonneg (neg_nonneg.mpr hx.le)
    have hneg : roundDouble x = -roundNonneg (-x) := if_pos hx
    rw [hneg, roundDouble_neg, roundDouble_of_nonneg h, roundNonneg_roundNonneg (neg_nonneg.mpr hx.le)]

/-- The integers up to `2 ^ 53` are doubles. -/
theorem roundDouble_intCast {n : ℤ} (h : |n| ≤ 2 ^ 53) : roundDouble n = n := by
  rcases h.lt_or_eq with h | h
  · simpa using roundDouble_mul_zpow h (le_of_lt (by norm_num : (-1074 : ℤ) < 0))
  · -- `±2^53 = ±2^52·2^1`
    have h2 := roundDouble_mul_zpow (m := 2 ^ 52) (by norm_num) (show (-1074 : ℤ) ≤ 1 by norm_num)
    norm_num at h2
    rcases (abs_eq (by norm_num : (0 : ℤ) ≤ 2 ^ 53)).mp h with rfl | rfl
    · norm_num [h2]
    · push_cast; rw [roundDouble_neg]; norm_num [h2]

theorem roundDouble_natCast {n : ℕ} (h : n ≤ 2 ^ 53) : roundDouble n = n := by
  have := roundDouble_intCast (n := n) (by rw [abs_of_nonneg (by positivity)]; exact_mod_cast h)
  exact_mod_cast this

theorem roundDouble_ofNat (n : ℕ) [n.AtLeastTwo] (h : n ≤ 2 ^ 53) :
    roundDouble (OfNat.ofNat n : ℚ) = OfNat.ofNat n :=
  roundDouble_natCast h

/-- **Evaluating `roundDouble`**: in the normal binade `[2^k, 2^(k+1))`, the mantissa of the result is
the nearest integer to `x / 2^(k-52)`. -/
theorem roundDouble_of_binade {x : ℚ} (k : ℤ) (hk : -1022 ≤ k) (h1 : 2 ^ k ≤ x) (h2 : x < 2 ^ (k + 1)) :
    roundDouble x = roundHalfEven (x / 2 ^ (k - 52)) * 2 ^ (k - 52) := by
  have hx : 0 < x := (two_zpow_pos k).trans_le h1
  have hlog : Int.log 2 x = k := le_antisymm
    (Int.lt_add_one_iff.mp ((Int.lt_zpow_iff_log_lt (b := 2) one_lt_two hx).mp (by exact_mod_cast h2)))
    ((Int.zpow_le_iff_le_log (b := 2) one_lt_two hx).mp (by exact_mod_cast h1))
  have hu : ulpExp x = k - 52 := by unfold ulpExp; rw [hlog]; omega
  rw [roundDouble_of_nonneg hx.le, roundNonneg, hu]

theorem roundDouble_eq_of_near {x : ℚ} (k n : ℤ) (hk : -1022 ≤ k) (h1 : 2 ^ k ≤ x)
    (h2 : x < 2 ^ (k + 1)) (hn : |x / 2 ^ (k - 52) - n| < 1 / 2) : roundDouble x = n * 2 ^ (k - 52) := by
  rw [roundDouble_of_binade k hk h1 h2, roundHalfEven_eq_of_abs_lt hn]

/-- A tie rounds to the even mantissa. -/
theorem roundDouble_eq_of_tie {x : ℚ} (k n : ℤ) (hk : -1022 ≤ k) (h1 : 2 ^ k ≤ x)
    (h2 : x < 2 ^ (k + 1)) (hn : x / 2 ^ (k - 52) = n + 1 / 2) :
    roundDouble x = (if n % 2 = 0 then n else n + 1 : ℤ) * 2 ^ (k - 52) := by
  rw [roundDouble_of_binade k hk h1 h2, hn, roundHalfEven_add_half]

/-! ## §4 — roundings -/

/-- How C evaluates a `double` expression: every operation's exact result passes through `fl`. The
laws are those of a rounding to nearest: monotone, odd, the identity on its own results, and exact on
the integers up to `2 ^ 53`. -/
structure Rounding where
  fl : ℚ → ℚ
  mono : Monotone fl
  neg : ∀ x, fl (-x) = -fl x
  idem : ∀ x, fl (fl x) = fl x
  intCast : ∀ n : ℤ, |n| ≤ 2 ^ 53 → fl n = n

/-- Exact arithmetic: the model of the other modules. -/
def Rounding.exact : Rounding := ⟨id, monotone_id, fun _ => rfl, fun _ => rfl, fun _ _ => rfl⟩

/-- IEEE 754 binary64, round to nearest, ties to even: what the C code computes. -/
def Rounding.binary64 : Rounding :=
  ⟨roundDouble, roundDouble_mono, roundDouble_neg, roundDouble_roundDouble,
    fun _ => roundDouble_intCast⟩

@[simp] theorem Rounding.exact_fl (x : ℚ) : Rounding.exact.fl x = x := rfl

@[simp] theorem Rounding.binary64_fl (x : ℚ) : Rounding.binary64.fl x = roundDouble x := rfl

namespace Rounding

variable (ρ : Rounding)

@[simp] theorem fl_zero : ρ.fl 0 = 0 := by simpa using ρ.intCast 0 (by norm_num)

@[simp] theorem fl_one : ρ.fl 1 = 1 := by simpa using ρ.intCast 1 (by norm_num)

@[simp] theorem fl_two : ρ.fl 2 = 2 := by simpa using ρ.intCast 2 (by norm_num)

@[simp] theorem fl_fl (x : ℚ) : ρ.fl (ρ.fl x) = ρ.fl x := ρ.idem x

variable {ρ}

theorem fl_nonneg {x : ℚ} (h : 0 ≤ x) : 0 ≤ ρ.fl x := by simpa using ρ.mono h

/-- Above a value the rounding fixes, the rounding stays above it. -/
theorem le_fl {a x : ℚ} (ha : ρ.fl a = a) (h : a ≤ x) : a ≤ ρ.fl x := ha ▸ ρ.mono h

theorem fl_le {a x : ℚ} (ha : ρ.fl a = a) (h : x ≤ a) : ρ.fl x ≤ a := ha ▸ ρ.mono h

/-- A rounded value beyond a fixed value came from beyond it. -/
theorem lt_of_lt_fl {a x : ℚ} (ha : ρ.fl a = a) (h : a < ρ.fl x) : a < x :=
  lt_of_not_le fun h' => absurd (fl_le ha h') (not_le.mpr h)

theorem lt_of_fl_lt {a x : ℚ} (ha : ρ.fl a = a) (h : ρ.fl x < a) : x < a :=
  lt_of_not_le fun h' => absurd (le_fl ha h') (not_le.mpr h)

end Rounding

end AdaptiveSR
