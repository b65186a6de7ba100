import EvmWallet.Json.Decode
import EvmWallet.Json.Real
import EvmWallet.Number.Positional
import EvmWallet.Number.Round

/-!
# Decimal amounts

An amount is a mantissa below `2 ^ 96` and the number of its fraction digits, at most 28. Its
text has exactly that many fraction digits, so that the scale of an amount can be read off
its text.
-/

namespace EvmWallet

/-- `mantissa / 10 ^ scale`, negative or not. -/
structure Decimal where
  negative : Bool
  mantissa : Nat
  scale : Nat
  mantissa_lt : mantissa < Nat.pow 2 96
  scale_le : scale ≤ 28
  deriving DecidableEq

namespace Decimal

/-- The amount with these parts, if they are in range. Zero has no sign. -/
def ofParts? (negative : Bool) (mantissa scale : Nat) : Option Decimal :=
  if h : mantissa < Nat.pow 2 96 ∧ scale ≤ 28 then
    some ⟨negative && mantissa != 0, mantissa, scale, h.1, h.2⟩
  else
    none

/-! ## Text -/

/-- The text of an amount: sign, whole part, and exactly `scale` fraction digits. -/
def chars (d : Decimal) : List Char :=
  (if d.negative then ['-'] else []) ++ Number.pointed d.mantissa d.scale

instance : ToString Decimal := ⟨fun d => String.ofList d.chars⟩

/-! ## Reading -/

/-- What has been read of an amount: its digits so far as a number, how many of them follow
the point, whether the point has come, and whether a digit has. -/
structure Progress where
  mantissa : Nat
  scale : Nat
  pointed : Bool
  started : Bool

/-- Whether a character may stand among the digits behind the first. -/
def isDigitOrGap (c : Char) : Bool := Text.isDigit c || c = '_'

/-- Rounds by the first digit that no longer fits, five upwards, if nothing but digits and
underscores is left. An amount that rounding makes too large gives up its last fraction
digit. -/
def roundOff (negative : Bool) (p : Progress) (rest : List Char) : Option Decimal :=
  if rest.all isDigitOrGap then
    match rest.filter Text.isDigit with
    | [] => ofParts? negative p.mantissa p.scale
    | c :: _ =>
      if Text.digitValue c < 5 then ofParts? negative p.mantissa p.scale
      else if p.mantissa + 1 < Nat.pow 2 96 then ofParts? negative (p.mantissa + 1) p.scale
      else if p.scale = 0 then none
      else ofParts? negative ((p.mantissa + 5) / 10) (p.scale - 1)
  else none

/-- Reads digits with a point and with underscores after the first digit. Fraction digits
past the twenty-eighth, or past what 96 bits hold, are rounded off. -/
def readDigits (negative : Bool) (p : Progress) : List Char → Option Decimal
  | [] => if p.started then ofParts? negative p.mantissa p.scale else none
  | c :: rest =>
    if p.pointed && 28 ≤ p.scale then roundOff negative p (c :: rest)
    else if Text.isDigit c then
      let m := 10 * p.mantissa + Text.digitValue c
      if m < Nat.pow 2 96 then
        readDigits negative ⟨m, if p.pointed then p.scale + 1 else 0, p.pointed, true⟩ rest
      else if p.pointed then roundOff negative p (c :: rest)
      else none
    else if c = '.' && !p.pointed then
      readDigits negative ⟨p.mantissa, p.scale, true, p.started⟩ rest
    else if c = '_' && p.started then readDigits negative p rest
    else none

/-- The amount that a text in positional notation spells, with an optional sign. -/
def ofPositional? (s : List Char) : Option Decimal :=
  match s with
  | [] => none
  | '-' :: rest => readDigits true ⟨0, 0, false, false⟩ rest
  | '+' :: rest => readDigits false ⟨0, 0, false, false⟩ rest
  | _ => readDigits false ⟨0, 0, false, false⟩ s

/-- Drops the zeros that end a fraction. -/
def dropZeros (mantissa : Nat) : Nat → Nat × Nat
  | 0 => (mantissa, 0)
  | s + 1 => if mantissa % 10 = 0 then dropZeros (mantissa / 10) s else (mantissa, s + 1)

/-- The amount `d · 10 ^ e`. -/
def raise? (d : Decimal) (e : Nat) : Option Decimal :=
  if e ≤ d.scale then ofParts? d.negative d.mantissa (d.scale - e)
  else if 28 < e then none
  else
    let (m, s) := dropZeros (d.mantissa * Nat.pow 10 e) d.scale
    ofParts? d.negative m s

/-- The amount `d / 10 ^ e`, for `e` up to 28. Where that has more than 28 fraction digits,
what is beyond them is rounded off, and the sign stays even if nothing is left. -/
def lower? (d : Decimal) (e : Nat) : Option Decimal :=
  if 28 < e then none
  else if d.scale + e ≤ 28 then ofParts? d.negative d.mantissa (d.scale + e)
  else
    let m := Number.divideHalfUp d.mantissa (Nat.pow 10 (d.scale + e - 28))
    if fits : m < Nat.pow 2 96 then some ⟨d.negative, m, 28, fits, Nat.le_refl 28⟩ else none

/-- The amount that a text in scientific notation spells. -/
def ofScientific? (s : List Char) : Option Decimal :=
  match s.span (fun c => c ≠ 'e' ∧ c ≠ 'E') with
  | (base, _ :: '-' :: e) => do
    (← ofPositional? base).lower? (← Text.ofDigitsBelow? UInt32.size e)
  | (base, _ :: e) => do
    (← ofPositional? base).raise? (← Text.ofDigitsBelow? UInt32.size e)
  | (_, []) => none

/-- The amount that a text spells. -/
def ofString? (s : String) : Option Decimal :=
  (ofPositional? s.toList).or (ofScientific? s.toList)

/-! ## JSON -/

/-- An amount in JSON: its text, or the value of a number in positional notation. -/
def ofJson? : Json.Value → Option Decimal
  | .string s => s.bind ofString?
  | .number n => n.quantity?.bind fun w => ofPositional? w.positional
  | _ => none

/-- An amount is written to JSON as its text. -/
def toJson (d : Decimal) : Json.Value := .text (toString d)

end Decimal

end EvmWallet
