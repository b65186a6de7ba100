/-!
# Rounding quotients

The natural number nearest to a quotient. `divideHalfEven` takes the even neighbour from
halfway, `divideHalfUp` the upper one.
-/

namespace EvmWallet.Number

/-- `n / d` rounded to the nearest natural number, halves to the even neighbour. -/
def divideHalfEven (n d : Nat) : Nat :=
  if d < 2 * (n % d) ∨ (d = 2 * (n % d) ∧ n / d % 2 = 1) then n / d + 1 else n / d

/-- `n / d` rounded to the nearest natural number, halves upwards. -/
def divideHalfUp (n d : Nat) : Nat := if d ≤ 2 * (n % d) then n / d + 1 else n / d

end EvmWallet.Number
