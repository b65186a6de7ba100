import EvmWallet.Json.Value
import EvmWallet.Number.Shortest

/-!
# Values of JSON numbers

What a JSON number is worth to a reader that keeps it: an integer where 64 bits hold it, and
otherwise a number of double precision. The latter takes the digits that 64 bits hold as an
integer and scales it by a power of ten, so that at most two roundings lie between the text
and the value. A number that is too large for it has no value, and zero behind a minus is
one of double precision.
-/

namespace EvmWallet.Json

/-- The leading digits of a number as far as 64 bits hold them, and the power of ten that
they count. -/
structure Leading where
  significand : Nat
  exponent : Int

namespace Leading

/-- One more digit, if 64 bits hold it. -/
def push? (significand : Nat) (c : Char) : Option Nat :=
  let n := 10 * significand + Text.digitValue c
  if n < UInt64.size then some n else none

/-- The digits of a whole part. From the first one that does not fit, each counts as a power
of ten. -/
def ofWhole (significand : Nat) : List Char → Leading
  | [] => ⟨significand, 0⟩
  | c :: rest =>
    match push? significand c with
    | some n => ofWhole n rest
    | none => ⟨significand, (c :: rest).length⟩

/-- The digits of a fraction, up to the first one that does not fit. -/
def withFraction (l : Leading) : List Char → Leading
  | [] => l
  | c :: rest =>
    match push? l.significand c with
    | some n => withFraction ⟨n, l.exponent - 1⟩ rest
    | none => l

/-- The exponent that is written with an optional sign. -/
def exponentOf (s : List Char) : Int :=
  match s with
  | '-' :: ds => -(Text.addDigits 0 ds : Int)
  | '+' :: ds => Text.addDigits 0 ds
  | ds => Text.addDigits 0 ds

/-- The leading digits of a number without sign. -/
def ofChars (s : List Char) : Leading :=
  let (whole, more) := s.span Text.isDigit
  let (fraction, exponent) := (more.drop 1).span Text.isDigit
  match more with
  | '.' :: _ =>
    let l := (ofWhole 0 whole).withFraction fraction
    ⟨l.significand, l.exponent + exponentOf (exponent.drop 1)⟩
  | _ =>
    let l := ofWhole 0 whole
    ⟨l.significand, l.exponent + exponentOf (more.drop 1)⟩

end Leading

/-- A magnitude times a power of ten. The powers up to the 308th are magnitudes; a smaller
factor is taken in steps until it is one of them or nothing is left. -/
def scaled? (x : Binary64) (exponent : Int) : Option Binary64 :=
  if x.significand = 0 then some x
  else if 308 < exponent then none
  else if exponent < -308 then do
    let y ← x.dividedBy? (← Binary64.ofNat? (Nat.pow 10 308))
    scaled? y (exponent + 308)
  else do
    let power ← Binary64.ofNat? (Nat.pow 10 exponent.natAbs)
    if 0 ≤ exponent then x.times? power else x.dividedBy? power
termination_by (-exponent).toNat

/-- The magnitude that leading digits stand for. -/
def Leading.magnitude? (l : Leading) : Option Binary64 := do
  scaled? (← Binary64.ofNat? l.significand) l.exponent

/-- The value of a number. -/
inductive Quantity where
  | integer (negative : Bool) (magnitude : Nat)
  | real (negative : Bool) (magnitude : Binary64)
  deriving DecidableEq, Repr

/-- Whether 64 bits hold an integer. -/
def isWord (negative : Bool) (magnitude : Nat) : Bool :=
  if negative then 0 < magnitude && magnitude ≤ UInt64.size / 2 else magnitude < UInt64.size

/-- The value of a number, unless it is too large. -/
def Numeral.quantity? : Numeral → Option Quantity
  | .whole negative n =>
    if isWord negative n then some (.integer negative n)
    else ((Leading.ofWhole 0 (Text.digits n)).magnitude?).map (.real negative)
  | .real ('-' :: s) => ((Leading.ofChars s).magnitude?).map (.real true)
  | .real s => ((Leading.ofChars s).magnitude?).map (.real false)

/-- A minus, or nothing. -/
def sign (negative : Bool) : List Char := if negative then ['-'] else []

/-- A value in positional notation: all digits of an integer, and otherwise the fewest that
tell the number from its neighbours. -/
def Quantity.positional : Quantity → List Char
  | .integer negative n => sign negative ++ Text.digits n
  | .real negative x => sign negative ++ x.positional

end EvmWallet.Json
