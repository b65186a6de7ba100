import EvmWallet.Bytes.Word
import EvmWallet.Decimal
import EvmWallet.Token.Error

/-!
# Amounts in token units

A contract counts in base units; a token with `d` decimals is `10 ^ d` of them. `ofBaseUnits`
divides by that power into a `Decimal`, keeping every fraction digit if the result fits, and
otherwise the largest number of fraction digits with which it fits. The quotient is rounded
once, to the nearest amount, and to the even neighbour from halfway.
-/

namespace EvmWallet.Token

/-- A word has at most 78 digits and is below half of the 79-digit power of ten, so that
division by more than this power rounds to zero. -/
def wordDigits : Nat := 77

/-- The amount of base units that `raw` is at a scale, as a mantissa. -/
def mantissaAt (raw : Bytes.Word) (decimals scale : Nat) : Nat :=
  if wordDigits < decimals - scale then 0
  else Number.divideHalfEven raw.toNat (Nat.pow 10 (decimals - scale))

/-- The amount at the largest scale, from `scale` down, at which it fits. -/
def fitFrom (raw : Bytes.Word) (decimals : Nat) : (scale : Nat) → scale ≤ 28 → Option Decimal
  | 0, h =>
    if fits : mantissaAt raw decimals 0 < Nat.pow 2 96 then some ⟨false, _, 0, fits, h⟩ else none
  | scale + 1, h =>
    if fits : mantissaAt raw decimals (scale + 1) < Nat.pow 2 96 then
      some ⟨false, _, scale + 1, fits, h⟩
    else
      fitFrom raw decimals scale (by omega)

/-- The amount in token units of a number of base units. -/
def ofBaseUnits (raw : Bytes.Word) (decimals : UInt32) : Except Error Decimal :=
  match fitFrom raw decimals.toNat (min decimals.toNat 28) (by omega) with
  | some d => .ok d
  | none => .error .balanceOverflow

end EvmWallet.Token
