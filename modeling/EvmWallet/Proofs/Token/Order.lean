import EvmWallet.Proofs.Token.Amounts

/-!
# The order of amounts

Of two numbers of base units the larger one never has the smaller amount, though it may lose fraction
digits that the other keeps, and then the two are rounded at different scales. It does not fall below
the other there, since a mantissa that gives up its last digit stays above `2 ^ 96` in the units that
it had (`lt_ten_mul_mantissaAt`). The main statement is `ofBaseUnits_mono`.
-/

namespace EvmWallet

theorem Decimal.value_of_unsigned {d : Decimal} (unsigned : d.negative = false) :
    d.value = d.mantissa / 10 ^ d.scale := by
  simp [Decimal.value, unsigned]

namespace Token

open Number (Nearest)

variable {raw raw' : Bytes.Word} {decimals scale : ℕ} {d d' : Decimal}

/-! ## Mantissas -/

theorem mantissaAt_mono (le : raw.toNat ≤ raw'.toNat) (decimals scale : ℕ) :
    mantissaAt raw decimals scale ≤ mantissaAt raw' decimals scale := by
  have quotients : (raw.toNat : ℚ) / 10 ^ (decimals - scale) ≤ raw'.toNat / 10 ^ (decimals - scale) := by
    gcongr
  exact Int.ofNat_le.mp
    ((nearest_mantissaAt raw decimals scale).mono (nearest_mantissaAt raw' decimals scale) quotients)

/-- A mantissa that is too large is still above `2 ^ 96` of its units when its last digit is rounded
off. That holds because `2 ^ 96` ends in a six, so that what is left of it is rounded upwards. -/
theorem lt_ten_mul_mantissaAt (within : scale < decimals)
    (large : 2 ^ 96 ≤ mantissaAt raw decimals (scale + 1)) :
    2 ^ 96 < 10 * mantissaAt raw decimals scale := by
  have finer := abs_le.mp (Number.nearest_iff.mp (nearest_mantissaAt raw decimals (scale + 1))).1
  have coarser := abs_le.mp (Number.nearest_iff.mp (nearest_mantissaAt raw decimals scale)).1
  have step : (10 : ℚ) ^ (decimals - scale) = 10 * 10 ^ (decimals - (scale + 1)) := by
    rw [← pow_succ']
    congr 1
    omega
  have quotient : (raw.toNat : ℚ) / 10 ^ (decimals - (scale + 1)) =
      10 * (raw.toNat / 10 ^ (decimals - scale)) := by
    rw [step]
    field_simp
  rw [quotient] at finer
  generalize (raw.toNat : ℚ) / 10 ^ (decimals - scale) = q at finer coarser
  generalize mantissaAt raw decimals (scale + 1) = m at finer large
  generalize mantissaAt raw decimals scale = n at coarser ⊢
  have large' : (2 ^ 96 : ℚ) ≤ m := by exact_mod_cast large
  -- Both roundings together lose at most five and a half of the finer units.
  have bound : (2 * 2 ^ 96 : ℚ) ≤ 20 * n + 11 := by
    push_cast at finer coarser
    linarith
  have bound' : 2 * 2 ^ 96 ≤ 20 * n + 11 := by exact_mod_cast bound
  omega

/-! ## Amounts -/

/-- A smaller number of base units has no smaller scale. -/
theorem Scaled.scale_le (le : raw.toNat ≤ raw'.toNat) (h : Scaled raw.toNat decimals d)
    (h' : Scaled raw'.toNat decimals d') : d'.scale ≤ d.scale := by
  obtain ⟨-, -, greatest⟩ := scaled_iff.mp h
  obtain ⟨-, -, greatest'⟩ := scaled_iff.mp h'
  refine greatest'.mono greatest fun s ⟨within, fits⟩ => ⟨within, ?_⟩
  exact (mantissaAt_mono le decimals s).trans_lt fits

/-- At one scale the smaller number has the smaller amount. -/
theorem Scaled.value_le (le : raw.toNat ≤ raw'.toNat) (h : Scaled raw.toNat decimals d)
    (h' : Scaled raw'.toNat decimals d') (same : d'.scale = d.scale) : d.value ≤ d'.value := by
  obtain ⟨unsigned, mantissa, -⟩ := scaled_iff.mp h
  obtain ⟨unsigned', mantissa', -⟩ := scaled_iff.mp h'
  have mantissas : d.mantissa ≤ d'.mantissa := by
    rw [mantissa, mantissa', same]
    exact mantissaAt_mono le decimals d.scale
  rw [Decimal.value_of_unsigned unsigned, Decimal.value_of_unsigned unsigned', same]
  gcongr

/-- An amount with more fraction digits than another is smaller. -/
theorem Scaled.value_lt (h : Scaled raw.toNat decimals d) (h' : Scaled raw'.toNat decimals d')
    (more : d'.scale < d.scale) : d.value < d'.value := by
  obtain ⟨unsigned, -, ⟨within, -⟩, -⟩ := scaled_iff.mp h
  obtain ⟨unsigned', mantissa', -, largest⟩ := scaled_iff.mp h'
  have next : d'.scale + 1 ≤ min decimals 28 := Nat.le_trans more within
  -- With one digit more the larger amount did not fit.
  have large : 2 ^ 96 ≤ mantissaAt raw' decimals (d'.scale + 1) := by
    by_contra fits
    exact absurd (largest ⟨next, not_le.mp fits⟩) (by omega)
  have above : 2 ^ 96 < 10 * d'.mantissa := by
    rw [mantissa']
    exact lt_ten_mul_mantissaAt (Nat.lt_of_lt_of_le next (min_le_left _ _)) large
  have above' : (2 ^ 96 : ℚ) < 10 * d'.mantissa := by exact_mod_cast above
  have below : (d.mantissa : ℚ) < 2 ^ 96 := by exact_mod_cast d.mantissa_lt
  have units : (10 : ℚ) ^ (d'.scale + 1) ≤ 10 ^ d.scale := pow_le_pow_right₀ (by norm_num) more
  rw [Decimal.value_of_unsigned unsigned, Decimal.value_of_unsigned unsigned']
  calc (d.mantissa : ℚ) / 10 ^ d.scale < 2 ^ 96 / 10 ^ d.scale := by gcongr
    _ ≤ 2 ^ 96 / 10 ^ (d'.scale + 1) := by gcongr
    _ < 10 * d'.mantissa / 10 ^ (d'.scale + 1) := by gcongr
    _ = d'.mantissa / 10 ^ d'.scale := by rw [pow_succ']; field_simp

/-- Whatever fits, a smaller number fits too. -/
theorem ofBaseUnits_of_le (le : raw.toNat ≤ raw'.toNat) {decimals : UInt32}
    (ok : ofBaseUnits raw' decimals = .ok d') : ∃ d, ofBaseUnits raw decimals = .ok d := by
  cases result : ofBaseUnits raw decimals with
  | ok d => exact ⟨d, rfl⟩
  | error e =>
    obtain ⟨-, large⟩ := ofBaseUnits_eq_error_iff.mp result
    have large' : 2 ^ 96 ≤ mantissaAt raw' decimals.toNat 0 :=
      large.trans (mantissaAt_mono le decimals.toNat 0)
    have failed := ofBaseUnits_eq_error_iff.mpr ⟨rfl, large'⟩
    exact absurd (failed.symm.trans ok) (by simp)

/-- Amounts keep the order of base units: if the larger of two numbers has an amount, so has the
smaller one, with at least as many fraction digits; its amount is not the larger one, and with more
fraction digits it is strictly the smaller one. -/
theorem ofBaseUnits_mono (le : raw.toNat ≤ raw'.toNat) (decimals : UInt32)
    (ok : ofBaseUnits raw' decimals = .ok d') :
    ∃ d, ofBaseUnits raw decimals = .ok d ∧ d'.scale ≤ d.scale ∧ d.value ≤ d'.value ∧
      (d'.scale < d.scale → d.value < d'.value) := by
  obtain ⟨d, ok'⟩ := ofBaseUnits_of_le le ok
  have scaled := ofBaseUnits_eq_ok_iff.mp ok'
  have scaled' := ofBaseUnits_eq_ok_iff.mp ok
  have scales := scaled.scale_le le scaled'
  refine ⟨d, ok', scales, ?_, scaled.value_lt scaled'⟩
  rcases scales.eq_or_lt with same | more
  · exact scaled.value_le le scaled' same
  · exact (scaled.value_lt scaled' more).le

/-- The largest number that keeps its digit behind the point, and the next one, which loses it and is
rounded upwards. -/
theorem ofBaseUnits_mono_digit_lost :
    (79228162514264337593543950335#256).toNat ≤ (79228162514264337593543950336#256).toNat ∧
      ∃ d d', ofBaseUnits 79228162514264337593543950335#256 1 = .ok d ∧
        ofBaseUnits 79228162514264337593543950336#256 1 = .ok d' ∧
        d'.scale < d.scale ∧ d.value < d'.value := by
  have le : (79228162514264337593543950335#256).toNat ≤
      (79228162514264337593543950336#256).toNat := by decide
  have ok : ofBaseUnits 79228162514264337593543950335#256 1 =
      .ok ⟨false, 79228162514264337593543950335, 1, by decide, by decide⟩ := rfl
  have ok' : ofBaseUnits 79228162514264337593543950336#256 1 =
      .ok ⟨false, 7922816251426433759354395034, 0, by decide, by decide⟩ := rfl
  obtain ⟨d, found, -, -, smaller⟩ := ofBaseUnits_mono le 1 ok'
  obtain rfl := Except.ok.inj (ok.symm.trans found)
  exact ⟨le, _, _, ok, ok', by decide, smaller (by decide)⟩

end Token

end EvmWallet
