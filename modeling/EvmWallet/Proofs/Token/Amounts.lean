import EvmWallet.Proofs.Number.Nearest
import EvmWallet.Proofs.Token.Search
import Mathlib.Order.Bounds.Defs

/-!
# Amounts of base units

Which amount a number of base units is (`Scaled`): the largest scale at which the nearest mantissa
fits, and that mantissa, which is rounded once. The main statement is `amount_of_base_units`.
-/

namespace EvmWallet

/-- The number that an amount stands for. -/
def Decimal.value (d : Decimal) : ℚ := (if d.negative then -1 else 1) * d.mantissa / 10 ^ d.scale

namespace Token

open Number (Nearest)

/-- An amount is `n / 10 ^ decimals` as closely as amounts can be. -/
structure Scaled (n decimals : ℕ) (d : Decimal) : Prop where
  unsigned : d.negative = false
  /-- At no larger scale does the nearest mantissa fit. -/
  scale : IsGreatest
    {s | s ≤ min decimals 28 ∧ ∃ m < 2 ^ 96, Nearest ((n : ℚ) / 10 ^ (decimals - s)) m} d.scale
  mantissa : Nearest ((n : ℚ) / 10 ^ (decimals - d.scale)) d.mantissa

variable {raw : Bytes.Word} {decimals scale : ℕ} {d : Decimal}

theorem nearest_mantissaAt (raw : Bytes.Word) (decimals scale : ℕ) :
    Nearest ((raw.toNat : ℚ) / 10 ^ (decimals - scale)) (mantissaAt raw decimals scale : ℕ) := by
  have pos : 0 < 10 ^ (decimals - scale) := Nat.pow_pos (by decide)
  have power : (10 : ℚ) ^ (decimals - scale) = (10 ^ (decimals - scale) : ℕ) := by push_cast; rfl
  rw [power]
  unfold mantissaAt
  split
  · -- A word is less than half of the power.
    rename_i long
    have word : raw.toNat < 2 ^ 256 := raw.isLt
    have least : 10 ^ 78 ≤ 10 ^ (decimals - scale) := Nat.pow_le_pow_right (by decide) long
    have half : 2 * 2 ^ 256 < 10 ^ 78 := by decide
    rw [Number.nearest_div_iff _ pos, Nat.cast_zero, mul_zero, sub_zero, abs_of_nonneg (by omega)]
    exact ⟨by omega, fun _ => Even.zero⟩
  · exact Number.nearest_divideHalfEven _ pos

theorem nearest_mantissaAt_iff {m : ℤ} :
    Nearest ((raw.toNat : ℚ) / 10 ^ (decimals - scale)) m ↔ m = mantissaAt raw decimals scale := by
  constructor
  · intro h
    exact h.unique (nearest_mantissaAt raw decimals scale)
  · rintro rfl
    exact nearest_mantissaAt raw decimals scale

/-- Smaller scales have smaller mantissas. -/
theorem mantissaAt_zero_le (raw : Bytes.Word) (decimals scale : ℕ) :
    mantissaAt raw decimals 0 ≤ mantissaAt raw decimals scale := by
  have powers : (10 : ℚ) ^ (decimals - scale) ≤ 10 ^ (decimals - 0) :=
    pow_le_pow_right₀ (by norm_num) (Nat.sub_le_sub_left (Nat.zero_le scale) decimals)
  have quotients : (raw.toNat : ℚ) / 10 ^ (decimals - 0) ≤ raw.toNat / 10 ^ (decimals - scale) := by
    gcongr
  exact Int.ofNat_le.mp
    ((nearest_mantissaAt raw decimals 0).mono (nearest_mantissaAt raw decimals scale) quotients)

/-- What was found is at the first scale, from above, at which it fits. -/
theorem of_fitFrom_eq_some {small : scale ≤ 28} (found : fitFrom raw decimals scale small = some d) :
    d.negative = false ∧ d.scale ≤ scale ∧ d.mantissa = mantissaAt raw decimals d.scale ∧
      ∀ s, s ≤ scale → mantissaAt raw decimals s < 2 ^ 96 → s ≤ d.scale := by
  induction scale with
  | zero =>
    rw [fitFrom] at found
    split at found
    · obtain rfl := Option.some.inj found
      exact ⟨rfl, le_rfl, rfl, fun s within _ => within⟩
    · exact absurd found (by simp)
  | succ scale ih =>
    rw [fitFrom] at found
    split at found
    · obtain rfl := Option.some.inj found
      exact ⟨rfl, le_rfl, rfl, fun s within _ => within⟩
    · rename_i large
      obtain ⟨unsigned, within, mantissa, largest⟩ := ih found
      refine ⟨unsigned, within.trans (Nat.le_succ scale), mantissa, fun s within fits => ?_⟩
      rcases Nat.le_succ_iff.mp within with below | rfl
      · exact largest s below fits
      · exact absurd fits large

theorem of_fitFrom_eq_none {small : scale ≤ 28} (missed : fitFrom raw decimals scale small = none) :
    2 ^ 96 ≤ mantissaAt raw decimals 0 := by
  induction scale with
  | zero =>
    rw [fitFrom] at missed
    split at missed
    · exact absurd missed (by simp)
    · rename_i large
      exact not_lt.mp large
  | succ scale ih =>
    rw [fitFrom] at missed
    split at missed
    · exact absurd missed (by simp)
    · exact ih missed

theorem scaled_iff : Scaled raw.toNat decimals d ↔
    d.negative = false ∧ d.mantissa = mantissaAt raw decimals d.scale ∧
      IsGreatest {s | s ≤ min decimals 28 ∧ mantissaAt raw decimals s < 2 ^ 96} d.scale := by
  have fits : ∀ s, (∃ m < (2 : ℤ) ^ 96, Nearest ((raw.toNat : ℚ) / 10 ^ (decimals - s)) m) ↔
      mantissaAt raw decimals s < 2 ^ 96 := by
    intro s
    simp only [nearest_mantissaAt_iff, exists_eq_right]
    exact_mod_cast Iff.rfl
  constructor
  · rintro ⟨unsigned, scale, mantissa⟩
    simp only [fits] at scale
    exact ⟨unsigned, Int.ofNat_inj.mp (nearest_mantissaAt_iff.mp mantissa), scale⟩
  · rintro ⟨unsigned, mantissa, scale⟩
    refine ⟨unsigned, ?_, nearest_mantissaAt_iff.mpr (congrArg _ mantissa)⟩
    simp only [fits]
    exact scale

theorem Scaled.unique {d' : Decimal} (h : Scaled raw.toNat decimals d)
    (h' : Scaled raw.toNat decimals d') : d = d' := by
  obtain ⟨unsigned, mantissa, scale⟩ := scaled_iff.mp h
  obtain ⟨unsigned', mantissa', scale'⟩ := scaled_iff.mp h'
  have sameScale : d.scale = d'.scale := scale.unique scale'
  have sameMantissa : d.mantissa = d'.mantissa := by rw [mantissa, mantissa', sameScale]
  have sameSign : d.negative = d'.negative := unsigned.trans unsigned'.symm
  cases d
  cases d'
  subst sameScale sameMantissa sameSign
  rfl

variable {decimals : UInt32}

theorem ofBaseUnits_eq_ok_iff :
    ofBaseUnits raw decimals = .ok d ↔ Scaled raw.toNat decimals.toNat d := by
  unfold ofBaseUnits
  split
  · rename_i d' found
    obtain ⟨unsigned, within, mantissa, largest⟩ := of_fitFrom_eq_some found
    have fits : mantissaAt raw decimals.toNat d'.scale < 2 ^ 96 := mantissa ▸ d'.mantissa_lt
    have scaled : Scaled raw.toNat decimals.toNat d' :=
      scaled_iff.mpr ⟨unsigned, mantissa, ⟨within, fits⟩, fun s h => largest s h.1 h.2⟩
    constructor
    · intro same
      exact Except.ok.inj same ▸ scaled
    · intro h
      exact congrArg Except.ok (scaled.unique h)
  · rename_i missed
    have large := of_fitFrom_eq_none missed
    refine ⟨fun same => absurd same (by simp), fun h => ?_⟩
    obtain ⟨-, -, ⟨-, fits⟩, -⟩ := scaled_iff.mp h
    have least := mantissaAt_zero_le raw decimals.toNat d.scale
    exact absurd (least.trans_lt fits) (not_lt.mpr large)

theorem ofBaseUnits_eq_error_iff {e : Error} :
    ofBaseUnits raw decimals = .error e ↔
      e = .balanceOverflow ∧ 2 ^ 96 ≤ mantissaAt raw decimals.toNat 0 := by
  constructor
  · unfold ofBaseUnits
    split
    · intro same
      exact absurd same (by simp)
    · rename_i missed
      intro same
      exact ⟨(Except.error.inj same).symm, of_fitFrom_eq_none missed⟩
  · rintro ⟨rfl, large⟩
    unfold ofBaseUnits
    split
    · rename_i d found
      obtain ⟨-, -, mantissa, -⟩ := of_fitFrom_eq_some found
      have least := mantissaAt_zero_le raw decimals.toNat d.scale
      exact absurd (large.trans (least.trans mantissa.ge)) (not_le.mpr d.mantissa_lt)
    · rfl

/-- An amount that fits with all its fraction digits is exact. -/
theorem exact_ofBaseUnits (short : decimals.toNat ≤ 28) (small : raw.toNat < 2 ^ 96) :
    ∃ d, ofBaseUnits raw decimals = .ok d ∧ d.value = raw.toNat / 10 ^ decimals.toNat := by
  refine ⟨⟨false, raw.toNat, decimals.toNat, small, short⟩, ?_, ?_⟩
  · rw [ofBaseUnits_eq_ok_iff, scaled_iff]
    refine ⟨rfl, (mantissaAt_self raw _).symm, ⟨le_min le_rfl short, ?_⟩, fun s h => ?_⟩
    · rw [mantissaAt_self]
      exact small
    · exact h.1.trans (min_le_left _ _)
  · simp [Decimal.value]

/-- For every word and every number of decimals: the search for a scale ends, with no operation out
of range, in `ofBaseUnits`; that is an amount exactly if one is `Scaled`; it is exact if the word has
96 bits and there are at most 28 decimals; and it fails, with an overflow, exactly if not even the
nearest integer has 96 bits. -/
theorem amount_of_base_units (raw : Bytes.Word) (decimals : UInt32) :
    (∀ result, Ends raw decimals (min decimals.toNat 28) result ↔
      result = ofBaseUnits raw decimals) ∧
    (∀ d, ofBaseUnits raw decimals = .ok d ↔ Scaled raw.toNat decimals.toNat d) ∧
    (decimals.toNat ≤ 28 → raw.toNat < 2 ^ 96 →
      ∃ d, ofBaseUnits raw decimals = .ok d ∧ d.value = raw.toNat / 10 ^ decimals.toNat) ∧
    (∀ e, ofBaseUnits raw decimals = .error e ↔ e = .balanceOverflow ∧
      ∃ m ≥ 2 ^ 96, Nearest ((raw.toNat : ℚ) / 10 ^ decimals.toNat) m) := by
  refine ⟨fun result => ends_iff, fun d => ofBaseUnits_eq_ok_iff, exact_ofBaseUnits, fun e => ?_⟩
  have large : (∃ m ≥ 2 ^ 96, Nearest ((raw.toNat : ℚ) / 10 ^ decimals.toNat) m) ↔
      2 ^ 96 ≤ mantissaAt raw decimals.toNat 0 := by
    conv_lhs => rw [← Nat.sub_zero decimals.toNat]
    simp only [nearest_mantissaAt_iff, exists_eq_right]
    exact_mod_cast Iff.rfl
  rw [ofBaseUnits_eq_error_iff, large]

/-- Of a hundred billion tokens and a few of their `10 ^ 18` parts, one digit is rounded off; what
fits is exact. -/
theorem amount_of_base_units_digit_lost :
    Scaled (10 ^ 29 + 15) 18 ⟨false, 10 ^ 28 + 2, 17, by decide, by decide⟩ ∧
      ∃ d, ofBaseUnits 123456 6 = .ok d ∧ d.value = 123456 / 10 ^ 6 := by
  obtain ⟨-, scaled, -⟩ := amount_of_base_units (10 ^ 29 + 15) 18
  obtain ⟨-, -, exact, -⟩ := amount_of_base_units 123456 6
  refine ⟨(scaled _).mp rfl, ?_⟩
  obtain ⟨d, ok, value⟩ := exact (by decide) (by decide)
  exact ⟨d, ok, value⟩

end Token

end EvmWallet
