import EvmWallet.Proofs.Token.Amounts

/-!
# Numbers without an amount

An integer part of more than 96 bits has no amount. Nor has one of 96 bits if rounding the fraction
carries it beyond them: the search for a scale comes to whole numbers, and looks at the width after
rounding. There are such numbers for one to 48 decimals, and for those decimals the integer part alone
does not tell whether there is an amount. The main statement is `overflow_iff_integer_part`.
-/

namespace EvmWallet.Token

open Number (Nearest)

/-- The integer part of `n / 10 ^ decimals` is the largest of 96 bits, and the fraction is a half or
more. -/
def RoundsOver (n decimals : ℕ) : Prop :=
  n / 10 ^ decimals = 2 ^ 96 - 1 ∧ 10 ^ decimals ≤ 2 * (n % 10 ^ decimals)

/-- In whole numbers, a number of base units is its rounded quotient for all decimals. -/
theorem mantissaAt_zero (raw : Bytes.Word) (decimals : ℕ) :
    mantissaAt raw decimals 0 = Number.divideHalfEven raw.toNat (10 ^ decimals) := by
  have pos : 0 < 10 ^ decimals := Nat.pow_pos (by decide)
  have power : ((10 ^ decimals : ℕ) : ℚ) = 10 ^ (decimals - 0) := Nat.cast_pow 10 decimals
  have rounded := Number.nearest_divideHalfEven raw.toNat pos
  rw [power] at rounded
  exact (Int.ofNat_inj.mp (nearest_mantissaAt_iff.mp rounded)).symm

/-- The quotient is rounded to a number of more than 96 bits if its integer part is one, or becomes
one: the largest of 96 bits is odd, so that a half is rounded upwards. -/
theorem le_divideHalfEven_iff (n decimals : ℕ) :
    2 ^ 96 ≤ Number.divideHalfEven n (10 ^ decimals) ↔
      2 ^ 96 ≤ n / 10 ^ decimals ∨ RoundsOver n decimals := by
  unfold Number.divideHalfEven RoundsOver
  generalize 10 ^ decimals = d
  split <;> omega

/-! ## Which decimals are concerned -/

theorem RoundsOver.decimals {raw : Bytes.Word} {decimals : ℕ} (h : RoundsOver raw.toNat decimals) :
    0 < decimals ∧ decimals ≤ 48 := by
  obtain ⟨part, rest⟩ := h
  constructor
  · -- Without decimals nothing is left over.
    by_contra none
    obtain rfl : decimals = 0 := by omega
    rw [pow_zero, Nat.mod_one] at rest
    omega
  · by_contra many
    have power : 10 ^ 49 ≤ 10 ^ decimals := Nat.pow_le_pow_right (by decide) (by omega)
    have least : (2 ^ 96 - 1) * 10 ^ decimals ≤ raw.toNat := part ▸ Nat.div_mul_le_self _ _
    have word : raw.toNat < 2 ^ 256 := raw.isLt
    have wide : 2 ^ 256 < (2 ^ 96 - 1) * 10 ^ 49 := by decide
    have larger : (2 ^ 96 - 1) * 10 ^ 49 ≤ (2 ^ 96 - 1) * 10 ^ decimals := Nat.mul_le_mul_left _ power
    omega

/-- One base unit less than `2 ^ 96` tokens. -/
theorem roundsOver_largest {decimals : ℕ} (pos : 0 < decimals) :
    RoundsOver (2 ^ 96 * 10 ^ decimals - 1) decimals := by
  have two : 2 ≤ 10 ^ decimals := by
    calc 2 ≤ 10 ^ 1 := by decide
      _ ≤ 10 ^ decimals := Nat.pow_le_pow_right (by decide) pos
  unfold RoundsOver
  generalize 10 ^ decimals = d at two
  have split : 2 ^ 96 * d - 1 = (d - 1) + d * (2 ^ 96 - 1) := by omega
  have less : d - 1 < d := by omega
  rw [split, Nat.add_mul_div_left _ _ (by omega), Nat.add_mul_mod_self_left, Nat.div_eq_of_lt less,
    Nat.mod_eq_of_lt less]
  omega

theorem exists_roundsOver_iff {decimals : ℕ} :
    (∃ raw : Bytes.Word, RoundsOver raw.toNat decimals) ↔ 0 < decimals ∧ decimals ≤ 48 := by
  constructor
  · rintro ⟨raw, beyond⟩
    exact beyond.decimals
  · rintro ⟨pos, few⟩
    have power : 10 ^ decimals ≤ 10 ^ 48 := Nat.pow_le_pow_right (by decide) few
    have word : 2 ^ 96 * 10 ^ decimals - 1 < 2 ^ 256 := by
      have wide : 2 ^ 96 * 10 ^ 48 ≤ 2 ^ 256 := by decide
      have larger : 2 ^ 96 * 10 ^ decimals ≤ 2 ^ 96 * 10 ^ 48 := Nat.mul_le_mul_left _ power
      omega
    refine ⟨BitVec.ofNat 256 (2 ^ 96 * 10 ^ decimals - 1), ?_⟩
    rw [BitVec.toNat_ofNat, Nat.mod_eq_of_lt word]
    exact roundsOver_largest pos

/-! ## Overflow -/

/-- For every word and every number of decimals: there is no amount, and the error is an overflow,
exactly if the integer part has more than 96 bits or rounding carries it beyond them. So the integer
part alone tells an overflow exactly where the number does not round over, and there are words that do
for one to 48 decimals. -/
theorem overflow_iff_integer_part (raw : Bytes.Word) (decimals : UInt32) :
    (∀ e, ofBaseUnits raw decimals = .error e ↔ e = .balanceOverflow ∧
      (2 ^ 96 ≤ raw.toNat / 10 ^ decimals.toNat ∨ RoundsOver raw.toNat decimals.toNat)) ∧
    ((ofBaseUnits raw decimals = .error .balanceOverflow ↔
      2 ^ 96 ≤ raw.toNat / 10 ^ decimals.toNat) ↔ ¬RoundsOver raw.toNat decimals.toNat) ∧
    ((∃ raw' : Bytes.Word, RoundsOver raw'.toNat decimals.toNat) ↔
      0 < decimals.toNat ∧ decimals.toNat ≤ 48) := by
  have overflows (e : Error) : ofBaseUnits raw decimals = .error e ↔ e = .balanceOverflow ∧
      (2 ^ 96 ≤ raw.toNat / 10 ^ decimals.toNat ∨ RoundsOver raw.toNat decimals.toNat) := by
    rw [ofBaseUnits_eq_error_iff, mantissaAt_zero, le_divideHalfEven_iff]
  refine ⟨overflows, ?_, exists_roundsOver_iff⟩
  rw [overflows, eq_self, true_and]
  constructor
  · intro integer beyond
    -- A number that rounds over has an integer part of 96 bits.
    have wide := integer.mp (.inr beyond)
    have part := beyond.1
    omega
  · intro fits
    exact or_iff_left fits

/-- A number of tokens whose integer part has 96 bits, and a half, has no amount. -/
theorem overflow_of_half :
    ¬∀ (raw : Bytes.Word) (decimals : UInt32), ofBaseUnits raw decimals = .error .balanceOverflow ↔
      2 ^ 96 ≤ raw.toNat / 10 ^ decimals.toNat := by
  intro right
  have wide := (right 792281625142643375935439503355#256 1).mp rfl
  exact absurd wide (by decide)

end EvmWallet.Token
