import EvmWallet.Json.Printer
import EvmWallet.Json.Real
import EvmWallet.Text.Quoted

/-!
# JSON values in diagnostics

A JSON value as a message shows it: every value behind the name of its kind, strings quoted,
and the fields of an object once each in the order of their keys. Only a value whose strings
are texts, whose numbers are not too large, and that is not nested too deep, can be kept to
be shown (`Value.fits`).
-/

namespace EvmWallet.Json

/-! ## Keeping -/

mutual
/-- Whether all strings of a value are texts, all its numbers have a value, and it is nested at
most `room` deep. -/
def Value.fits (room : Nat) : Value → Bool
  | .string s => s.isSome
  | .number n => n.quantity?.isSome
  | .list items => 0 < room && itemsFit (room - 1) items
  | .object fields => 0 < room && fieldsFit (room - 1) fields
  | _ => true

/-- Whether all items of a list fit. -/
def itemsFit (room : Nat) : List Value → Bool
  | [] => true
  | v :: rest => v.fits room && itemsFit room rest

/-- Whether all fields of an object fit. -/
def fieldsFit (room : Nat) : List (Text × Value) → Bool
  | [] => true
  | (k, v) :: rest => k.isSome && v.fits room && fieldsFit room rest
end

/-! ## Showing -/

/-- A magnitude as a diagnostic shows it: from `10 ^ (-5)` up to `10 ^ 16` with a point and at
least one fraction digit, and otherwise with an exponent behind its first digit. -/
def realShown (x : Binary64) : List Char :=
  let (n, t) := x.shortest .even
  let ds := Text.digits n
  let size : Int := ds.length + t
  if 0 ≤ t ∧ size ≤ 16 then ds ++ List.replicate t.toNat '0' ++ ['.', '0']
  else if -5 < size ∧ size ≤ 16 then Number.pointed n (-t).toNat
  else
    (if ds.length = 1 then ds else ds.take 1 ++ '.' :: ds.drop 1)
      ++ 'e' :: (toString (size - 1)).toList

/-- A value of a number as a diagnostic shows it. -/
def Quantity.shown : Quantity → List Char
  | .integer negative n => sign negative ++ Text.digits n
  | .real negative x => sign negative ++ realShown x

/-- A number as a diagnostic shows it. -/
def Numeral.shown (n : Numeral) : List Char := (n.quantity?.map Quantity.shown).getD n.chars

/-- Fields in the order of their keys, of a repeated key the last one. -/
def byKey (fields : List (String × List Char)) : List (String × List Char) :=
  (fields.foldl (fun kept f => kept.filter (·.1 != f.1) ++ [f]) []).mergeSort fun a b => a.1 ≤ b.1

/-- Texts with commas and blanks between them. -/
def listed : List (List Char) → List Char
  | [] => []
  | [s] => s
  | s :: t :: rest => s ++ ',' :: ' ' :: listed (t :: rest)

/-- A field behind its quoted key. -/
def shownField (f : String × List Char) : List Char := (Text.quoted f.1).toList ++ ':' :: ' ' :: f.2

mutual
/-- A value as a diagnostic shows it. -/
def Value.shown : Value → List Char
  | .null => "Null".toList
  | .bool b => "Bool(".toList ++ (if b then "true" else "false").toList ++ [')']
  | .number n => "Number(".toList ++ n.shown ++ [')']
  | .string s => "String(".toList ++ (Text.quoted (s.getD "")).toList ++ [')']
  | .list items => "Array [".toList ++ listed (itemsShown items) ++ [']']
  | .object fields =>
    "Object \x7b".toList ++ listed ((byKey (fieldsShown fields)).map shownField) ++ ['\x7d']

/-- The items of a list as a diagnostic shows them. -/
def itemsShown : List Value → List (List Char)
  | [] => []
  | v :: rest => v.shown :: itemsShown rest

/-- The fields of an object with their values as a diagnostic shows them. -/
def fieldsShown : List (Text × Value) → List (String × List Char)
  | [] => []
  | (k, v) :: rest => (k.getD "", v.shown) :: fieldsShown rest
end

end EvmWallet.Json
