import EvmWallet.Number.Binary64
import EvmWallet.Number.Positional

/-!
# Shortest decimals

The decimal with the fewest digits among those that round to a given magnitude, and of these
the nearest one. The reals that round to a magnitude form an interval around it; it reaches
halfway to either neighbour, ends included when the significand is even. On the grid of the
multiples of a power of ten only the two neighbours of the magnitude need a look, and the
coarsest grid on which one of them lies in the interval gives the answer.
-/

namespace EvmWallet

namespace Binary64

/-- Which of two equally near decimals is taken. -/
inductive Tie where
  | up
  | even
  deriving DecidableEq, Repr

/-- A number of quarters of the magnitude's unit, measured against a grid: `10 ^ t` is one
step of it, and `step x t` such measures. -/
def measure (x : Binary64) (t : Int) (quarters : Nat) : Nat :=
  quarters * Nat.pow 2 (x.exponent - 2).toNat * Nat.pow 10 (-t).toNat

/-- One step of the grid in the measure of `measure`. -/
def step (x : Binary64) (t : Int) : Nat := Nat.pow 2 (2 - x.exponent).toNat * Nat.pow 10 t.toNat

/-- The quarters below the magnitude that still round to it: the neighbour below a power of
two is half as far. -/
def quartersBelow (x : Binary64) : Nat :=
  if x.significand = Nat.pow 2 52 ∧ -1074 < x.exponent then 1 else 2

/-- Whether a measure lies in the interval that rounds to the magnitude. -/
def roundsHere (x : Binary64) (t : Int) (n : Nat) : Bool :=
  let low := x.measure t (4 * x.significand - x.quartersBelow)
  let high := x.measure t (4 * x.significand + 2)
  if x.significand % 2 = 0 then low ≤ n && n ≤ high else low < n && n < high

/-- The nearest multiple of `10 ^ t` that rounds to the magnitude, in units of `10 ^ t`. -/
def onGrid? (tie : Tie) (x : Binary64) (t : Int) : Option Nat :=
  let exact := x.measure t (4 * x.significand)
  let below := exact / x.step t
  let rest := exact % x.step t
  match x.roundsHere t (below * x.step t), x.roundsHere t ((below + 1) * x.step t) with
  | true, false => some below
  | false, true => some (below + 1)
  | false, false => none
  | true, true =>
    if x.step t < 2 * rest ∨ (x.step t = 2 * rest ∧ (tie = .up ∨ below % 2 = 1)) then
      some (below + 1)
    else some below

/-- The exponents of the grids, coarsest first: the largest magnitude has 309 digits, and the
step between the smallest ones is above `10 ^ (-324)`. -/
def grids : List Int := (List.range 634).map fun i => (309 : Int) - Int.ofNat i

/-- The shortest decimal that rounds to the magnitude, as digits and a power of ten. -/
def shortest (tie : Tie) (x : Binary64) : Nat × Int :=
  if x.significand = 0 then (0, 0)
  else (grids.findSome? fun t => (x.onGrid? tie t).map fun n => (n, t)).getD (0, 0)

/-- The shortest decimal in positional notation, equally near ones upwards. -/
def positional (x : Binary64) : List Char :=
  let (n, t) := x.shortest .up
  Number.pointed (n * Nat.pow 10 t.toNat) (-t).toNat

end Binary64

end EvmWallet
