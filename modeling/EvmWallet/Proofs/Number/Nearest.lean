import EvmWallet.Number.Round
import Mathlib.Algebra.Order.Round
import Mathlib.Data.Rat.Floor
import Mathlib.Tactic.FieldSimp
import Mathlib.Tactic.Linarith

/-!
# Nearest integers

What rounding to the nearest integer, and from halfway to the even one, means (`Nearest`): there is
one such integer of each rational (`Nearest.unique`), larger rationals have no smaller ones
(`Nearest.mono`), and that of a quotient is what `divideHalfEven` computes.
-/

namespace EvmWallet.Number

/-- No integer is nearer to `q` than `m`, and `m` is even if another one is as near. -/
structure Nearest (q : ℚ) (m : ℤ) : Prop where
  le : ∀ k : ℤ, |q - m| ≤ |q - k|
  even : ∀ k : ℤ, k ≠ m → |q - k| = |q - m| → Even m

theorem one_le_abs_sub_add_abs_sub {q : ℚ} {m k : ℤ} (other : k ≠ m) :
    1 ≤ |q - k| + |q - m| := by
  have step : (1 : ℚ) ≤ |(k : ℚ) - m| := by
    exact_mod_cast Int.one_le_abs (sub_ne_zero.mpr other)
  have triangle : |(k : ℚ) - m| ≤ |k - q| + |q - m| := abs_sub_le (k : ℚ) q m
  rw [abs_sub_comm (k : ℚ) q] at triangle
  exact step.trans triangle

/-- The integers that are nearest are those at most a half away, and even if it is a half. -/
theorem nearest_iff {q : ℚ} {m : ℤ} :
    Nearest q m ↔ |q - m| ≤ 1 / 2 ∧ (|q - m| = 1 / 2 → Even m) := by
  constructor
  · intro h
    refine ⟨(h.le (round q)).trans (abs_sub_round q), fun half => ?_⟩
    -- The integer on the other side of `q` is as near.
    rcases abs_cases (q - m) with ⟨side, -⟩ | ⟨side, -⟩
    · refine h.even (m + 1) (by omega) ?_
      have other : q - (m + 1 : ℤ) = -(1 / 2) := by push_cast; linarith
      rw [half, other, abs_neg, abs_of_pos (by norm_num)]
    · refine h.even (m - 1) (by omega) ?_
      have other : q - (m - 1 : ℤ) = 1 / 2 := by push_cast; linarith
      rw [half, other, abs_of_pos (by norm_num)]
  · rintro ⟨close, even⟩
    refine ⟨fun k => ?_, fun k other tie => even ?_⟩
    · by_cases same : k = m
      · rw [same]
      · linarith [one_le_abs_sub_add_abs_sub (q := q) same]
    · linarith [one_le_abs_sub_add_abs_sub (q := q) other]

variable {q q' : ℚ} {m m' : ℤ}

theorem Nearest.unique (h : Nearest q m) (h' : Nearest q m') : m = m' := by
  by_contra other
  have tie : |q - m| = |q - m'| := le_antisymm (h.le m') (h'.le m)
  obtain ⟨i, two⟩ := h.even m' (Ne.symm other) tie.symm
  obtain ⟨j, two'⟩ := h'.even m other tie
  -- Both are within a half of `q`, which is too close for two even integers.
  have close := abs_le.mp (nearest_iff.mp h).1
  have close' := abs_le.mp (nearest_iff.mp h').1
  have up : (m : ℚ) ≤ (m' + 1 : ℤ) := by push_cast; linarith
  have down : (m' : ℚ) ≤ (m + 1 : ℤ) := by push_cast; linarith
  have up' : m ≤ m' + 1 := Int.cast_le.mp up
  have down' : m' ≤ m + 1 := Int.cast_le.mp down
  omega

theorem Nearest.mono (h : Nearest q m) (h' : Nearest q' m') (le : q ≤ q') : m ≤ m' := by
  by_contra less
  have below : (m' : ℚ) + 1 ≤ m := by exact_mod_cast Int.add_one_le_iff.mpr (not_le.mp less)
  have close := abs_le.mp (nearest_iff.mp h).1
  have close' := abs_le.mp (nearest_iff.mp h').1
  obtain rfl : q = q' := by linarith
  exact less (h.unique h').le

/-- Whether an integer is nearest to a quotient shows in the numerator it leaves over. -/
theorem nearest_div_iff (n : ℕ) {d : ℕ} (pos : 0 < d) :
    Nearest ((n : ℚ) / d) m ↔
      2 * |(n : ℤ) - d * m| ≤ d ∧ (2 * |(n : ℤ) - d * m| = d → Even m) := by
  have pos' : (0 : ℚ) < d := by exact_mod_cast pos
  have left : |(n : ℚ) / d - m| = (|(n : ℤ) - d * m| : ℤ) / d := by
    have : (n : ℚ) / d - m = ((n : ℤ) - d * m : ℤ) / d := by push_cast; field_simp
    rw [this, abs_div, abs_of_pos pos', Int.cast_abs]
  have twice : ∀ a : ℤ, (a : ℚ) / d ≤ 1 / 2 ↔ 2 * a ≤ d := by
    intro a
    rw [div_le_div_iff₀ pos' two_pos, one_mul, mul_comm]
    exact_mod_cast Iff.rfl
  have half : ∀ a : ℤ, (a : ℚ) / d = 1 / 2 ↔ 2 * a = d := by
    intro a
    rw [div_eq_div_iff pos'.ne' two_ne_zero, one_mul, mul_comm]
    exact_mod_cast Iff.rfl
  rw [nearest_iff, left, twice, half]

/-- Division with the remainder against the half computes the nearest integer. -/
theorem nearest_divideHalfEven (n : ℕ) {d : ℕ} (pos : 0 < d) :
    Nearest ((n : ℚ) / d) (divideHalfEven n d : ℕ) := by
  rw [nearest_div_iff n pos]
  have parts : (n : ℤ) = d * (n / d : ℕ) + (n % d : ℕ) := by exact_mod_cast (Nat.div_add_mod n d).symm
  have less : n % d < d := Nat.mod_lt n pos
  unfold divideHalfEven
  split
  · rename_i up
    have rest : (n : ℤ) - d * (n / d + 1 : ℕ) = -(d - (n % d : ℕ)) := by
      push_cast at *
      linarith
    rw [rest, abs_neg, abs_of_nonneg (by omega), Int.even_iff]
    omega
  · rename_i down
    have rest : (n : ℤ) - d * (n / d : ℕ) = (n % d : ℕ) := by linarith
    rw [rest, abs_of_nonneg (by omega), Int.even_iff]
    omega

end EvmWallet.Number
