/-!
# Sets of code points

A set of characters given by the places where membership changes, in increasing order: the
form in which a Unicode property is shortest.
-/

namespace EvmWallet.Text

/-- The code points from the first bound up to the second, from the third up to the fourth,
and so on. -/
structure CodeSet where
  bounds : List Nat

namespace CodeSet

/-- Whether an odd number of bounds lies at or below the code point. -/
def contains (s : CodeSet) (c : Char) : Bool :=
  (s.bounds.takeWhile (· ≤ c.toNat)).length % 2 == 1

end CodeSet

end EvmWallet.Text
