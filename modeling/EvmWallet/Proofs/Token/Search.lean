import EvmWallet.Token.Amount
import Mathlib.Algebra.Group.Nat.Defs
import Mathlib.Data.Nat.Size

/-!
# The search for a scale, one operation at a time

`ofBaseUnits` as numbers of limited width compute it: what is out of range stops the search, which
tries one scale in a turn. It never is, and the search comes to its end by scale zero with what
`ofBaseUnits` says (`ends_iff`).
-/

namespace EvmWallet.Token

/-! ## Operations -/

/-- A number, if it has no more than so many bits. -/
def fits? (bits n : Nat) : Option Nat := if n < 2 ^ bits then some n else none

/-- A difference, if it is not negative. -/
def minus? (a b : Nat) : Option Nat := if b ≤ a then some (a - b) else none

/-- Quotient and remainder, unless the divisor is zero. -/
def divide? (n d : Nat) : Option (Nat × Nat) := if d = 0 then none else some (n / d, n % d)

/-- A power of ten, by one multiplication after the other. -/
def powerOfTen? : Nat → Option Nat
  | 0 => some 1
  | e + 1 => (powerOfTen? e).bind fun p => fits? 256 (10 * p)

/-- `n / 10 ^ e`, rounded to the nearest number, from halfway to the even one. -/
def roundHalfEven? (n e : Nat) : Option Nat :=
  if wordDigits < e then some 0
  else do
    let divisor ← powerOfTen? e
    let (quotient, remainder) ← divide? n divisor
    let rest ← minus? divisor remainder
    if rest < remainder ∨ (remainder = rest ∧ quotient % 2 = 1) then fits? 256 (quotient + 1)
    else some quotient

/-- The amount at a scale, as a mantissa. -/
def mantissa? (n decimals scale : Nat) : Option Nat :=
  if scale = decimals then some n else (minus? decimals scale).bind (roundHalfEven? n)

/-- What one turn comes to: another turn at the next scale, or the end. -/
inductive Turn where
  | next (scale : Nat)
  | done (result : Except Error Decimal)

/-- One turn of the search. -/
def turn? (raw : Bytes.Word) (decimals : UInt32) (scale : Nat) : Option Turn := do
  let mantissa ← mantissa? raw.toNat decimals.toNat scale
  if mantissa.size ≤ 96 then
    let signed ← fits? 127 mantissa
    let d ← Decimal.ofParts? false signed scale
    some (.done (.ok d))
  else if scale = 0 then some (.done (.error .balanceOverflow))
  else (minus? scale 1).map .next

/-- The search ends with a result, after some number of turns from a scale. -/
inductive Ends (raw : Bytes.Word) (decimals : UInt32) : Nat → Except Error Decimal → Prop where
  | done {scale result} : turn? raw decimals scale = some (.done result) →
      Ends raw decimals scale result
  | next {scale scale' result} : turn? raw decimals scale = some (.next scale') →
      Ends raw decimals scale' result → Ends raw decimals scale result

/-! ## No operation is out of range -/

theorem fits?_of_lt {bits n : Nat} (less : n < 2 ^ bits) : fits? bits n = some n := if_pos less

theorem minus?_of_le {a b : Nat} (le : b ≤ a) : minus? a b = some (a - b) := if_pos le

theorem powerOfTen?_eq {e : Nat} (short : e ≤ wordDigits) : powerOfTen? e = some (10 ^ e) := by
  induction e with
  | zero => rfl
  | succ e ih =>
    have bound : 10 ^ (e + 1) ≤ 10 ^ wordDigits := Nat.pow_le_pow_right (by decide) short
    have word : 10 ^ wordDigits < 2 ^ 256 := by decide
    have power : 10 * 10 ^ e = 10 ^ (e + 1) := (Nat.pow_succ').symm
    rw [powerOfTen?, ih (by omega), Option.bind_some, power]
    exact fits?_of_lt (Nat.lt_of_le_of_lt bound word)

theorem roundHalfEven?_eq {n e : Nat} (word : n < 2 ^ 256) :
    roundHalfEven? n e =
      some (if wordDigits < e then 0 else Number.divideHalfEven n (10 ^ e)) := by
  unfold roundHalfEven?
  by_cases long : wordDigits < e
  · rw [if_pos long, if_pos long]
  · rw [if_neg long, if_neg long, powerOfTen?_eq (Nat.le_of_not_lt long)]
    have pos : 0 < 10 ^ e := Nat.pow_pos (by decide)
    generalize 10 ^ e = d at pos
    have less : n % d < d := Nat.mod_lt n pos
    have divided : divide? n d = some (n / d, n % d) := if_neg (Nat.pos_iff_ne_zero.mp pos)
    simp only [Option.bind_eq_bind, Option.bind_some, divided, minus?_of_le (Nat.le_of_lt less),
      Number.divideHalfEven]
    by_cases up : d < 2 * (n % d) ∨ (d = 2 * (n % d) ∧ n / d % 2 = 1)
    · -- A quotient that is rounded up was divided by two or more.
      have smaller : n / d ≤ n / 2 := Nat.div_le_div_left (by omega) (by decide)
      rw [if_pos up, if_pos (by omega)]
      exact fits?_of_lt (by omega)
    · rw [if_neg up, if_neg (by omega)]

/-! ## One turn, and the search -/

variable {raw : Bytes.Word} {decimals : UInt32} {scale : Nat}

/-- With every fraction digit kept, nothing is rounded. -/
theorem mantissaAt_self (raw : Bytes.Word) (decimals : Nat) :
    mantissaAt raw decimals decimals = raw.toNat := by
  rw [mantissaAt, Nat.sub_self, if_neg (by decide)]
  simp [Number.divideHalfEven, Nat.mod_one]

theorem mantissa?_eq {decimals : Nat} (within : scale ≤ decimals) :
    mantissa? raw.toNat decimals scale = some (mantissaAt raw decimals scale) := by
  unfold mantissa?
  by_cases whole : scale = decimals
  · rw [if_pos whole, whole, mantissaAt_self]
  · rw [if_neg whole, minus?_of_le within, Option.bind_some, roundHalfEven?_eq raw.isLt]
    rfl

/-- A turn takes the amount at its scale if that fits, and goes on below otherwise. -/
theorem turn?_eq (within : scale ≤ decimals.toNat) (small : scale ≤ 28) :
    turn? raw decimals scale = some
      (if fits : mantissaAt raw decimals.toNat scale < Nat.pow 2 96 then
        .done (.ok ⟨false, _, scale, fits, small⟩)
      else if scale = 0 then .done (.error .balanceOverflow)
      else .next (scale - 1)) := by
  unfold turn?
  rw [mantissa?_eq within]
  generalize mantissaAt raw decimals.toNat scale = m
  simp only [Option.bind_eq_bind, Option.bind_some, Nat.size_le]
  by_cases fits : m < Nat.pow 2 96
  · have fits' : m < 2 ^ 96 := fits
    have signed : m < 2 ^ 127 := Nat.lt_trans fits' (by decide)
    rw [dif_pos fits, if_pos fits', fits?_of_lt signed, Option.bind_some, Decimal.ofParts?,
      dif_pos ⟨fits, small⟩]
    rfl
  · have large : ¬m < 2 ^ 96 := fits
    rw [dif_neg fits, if_neg large]
    by_cases last : scale = 0
    · rw [if_pos last, if_pos last]
    · rw [if_neg last, if_neg last, minus?_of_le (by omega)]
      rfl

theorem Ends.unique {result result' : Except Error Decimal} (h : Ends raw decimals scale result)
    (h' : Ends raw decimals scale result') : result = result' := by
  induction h with
  | done turned =>
    cases h' with
    | done turned' => exact Turn.done.inj (Option.some.inj (turned.symm.trans turned'))
    | next turned' => exact absurd (turned.symm.trans turned') (by simp)
  | next turned _ ih =>
    cases h' with
    | done turned' => exact absurd (turned.symm.trans turned') (by simp)
    | next turned' rest =>
      obtain rfl := Turn.next.inj (Option.some.inj (turned.symm.trans turned'))
      exact ih rest

/-- What is found from a scale down. -/
def found (raw : Bytes.Word) (decimals : UInt32) (scale : Nat) (small : scale ≤ 28) :
    Except Error Decimal :=
  match fitFrom raw decimals.toNat scale small with
  | some d => .ok d
  | none => .error .balanceOverflow

theorem ends_found (within : scale ≤ decimals.toNat) (small : scale ≤ 28) :
    Ends raw decimals scale (found raw decimals scale small) := by
  induction scale with
  | zero =>
    refine .done ?_
    rw [turn?_eq within small, if_pos rfl, found, fitFrom]
    split <;> rfl
  | succ scale ih =>
    have turned : turn? raw decimals (scale + 1) = _ := turn?_eq within small
    by_cases fits : mantissaAt raw decimals.toNat (scale + 1) < Nat.pow 2 96
    · rw [dif_pos fits] at turned
      rw [found, fitFrom, dif_pos fits]
      exact .done turned
    · rw [dif_neg fits, if_neg (Nat.succ_ne_zero scale)] at turned
      rw [found, fitFrom, dif_neg fits]
      exact .next turned (ih (by omega) (by omega))

/-- The search from the largest scale ends, with what `ofBaseUnits` says. -/
theorem ends_iff {result : Except Error Decimal} :
    Ends raw decimals (min decimals.toNat 28) result ↔ result = ofBaseUnits raw decimals := by
  have ends : Ends raw decimals (min decimals.toNat 28) (ofBaseUnits raw decimals) :=
    ends_found (Nat.min_le_left ..) (Nat.min_le_right ..)
  constructor
  · intro h
    exact h.unique ends
  · rintro rfl
    exact ends

end EvmWallet.Token
