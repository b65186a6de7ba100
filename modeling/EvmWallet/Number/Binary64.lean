import EvmWallet.Number.Round

/-!
# Numbers of 53 significant bits

Magnitudes of double precision as what they are: a natural number below `2 ^ 53` times a
power of two in a range. Each operation is exact arithmetic followed by one rounding to the
nearest magnitude, halves to the even significand (`ofQuotient?`); there is no result beyond
the largest one.
-/

namespace EvmWallet

/-- The magnitude `significand * 2 ^ exponent`. -/
structure Binary64 where
  significand : Nat
  exponent : Int
  significand_lt : significand < Nat.pow 2 53
  exponent_ge : -1074 ≤ exponent
  exponent_le : exponent ≤ 971
  deriving DecidableEq, Repr

namespace Binary64

/-- The magnitude with these parts, if they are in range. -/
def ofParts? (significand : Nat) (exponent : Int) : Option Binary64 :=
  if h : significand < Nat.pow 2 53 ∧ -1074 ≤ exponent ∧ exponent ≤ 971 then
    some ⟨significand, exponent, h.1, h.2.1, h.2.2⟩
  else none

/-- The power of two in whose units `n / d` has 53 bits, or the least one there is. The
quotient of the leading powers of two is off by less than a factor of two on either side, so
that only two powers are in question. -/
def unitFor (n d : Nat) : Int :=
  let e : Int := (Nat.log2 n : Int) - Nat.log2 d - 53
  max (-1074) (if n * Nat.pow 2 (-e).toNat < d * Nat.pow 2 e.toNat * Nat.pow 2 53 then e else e + 1)

/-- The magnitude nearest to `n / d`, from halfway the one with the even significand. -/
def ofQuotient? (n d : Nat) : Option Binary64 :=
  let e := unitFor n d
  let m := Number.divideHalfEven (n * Nat.pow 2 (-e).toNat) (d * Nat.pow 2 e.toNat)
  if m = Nat.pow 2 53 then ofParts? (Nat.pow 2 52) (e + 1) else ofParts? m e

/-- The magnitude nearest to a natural number. -/
def ofNat? (n : Nat) : Option Binary64 := ofQuotient? n 1

/-- The exact value is `numerator / denominator`. -/
def numerator (x : Binary64) : Nat := x.significand * Nat.pow 2 x.exponent.toNat

/-- A power of two; see `numerator`. -/
def denominator (x : Binary64) : Nat := Nat.pow 2 (-x.exponent).toNat

/-- The rounded product. -/
def times? (x y : Binary64) : Option Binary64 :=
  ofQuotient? (x.numerator * y.numerator) (x.denominator * y.denominator)

/-- The rounded quotient. -/
def dividedBy? (x y : Binary64) : Option Binary64 :=
  ofQuotient? (x.numerator * y.denominator) (x.denominator * y.numerator)

end Binary64

end EvmWallet
