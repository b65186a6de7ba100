/-!
# JSON values

A JSON document as a tree. Two things are kept that a reader may need to tell apart: whether
a number is written as an integer, and whether a string is a text at all, since an escape
may name one half of a surrogate pair alone.
-/

namespace EvmWallet.Json

/-- The text of a string; `none` when it holds half of a surrogate pair alone. -/
abbrev Text := Option String

/-- A number as it is written. -/
inductive Numeral where
  /-- Digits only, with a minus in front or not. -/
  | whole (negative : Bool) (magnitude : Nat)
  /-- With a fraction or an exponent. -/
  | real (written : List Char)
  deriving Repr, DecidableEq

/-- A JSON value. Fields keep the order and the repetitions of the document. -/
inductive Value where
  | null
  | bool (b : Bool)
  | number (n : Numeral)
  | string (s : Text)
  | list (items : List Value)
  | object (fields : List (Text × Value))
  deriving Repr, Inhabited

namespace Value

/-- A string that is a text. -/
abbrev text (s : String) : Value := .string (some s)

/-- A natural number. -/
abbrev nat (n : Nat) : Value := .number (.whole false n)

/-- An object of named fields. -/
def record (fields : List (String × Value)) : Value :=
  .object (fields.map fun (name, v) => (some name, v))

/-- A value, or `null` in its absence. -/
def option {α : Type} (f : α → Value) : Option α → Value
  | none => .null
  | some a => f a

end Value

end EvmWallet.Json
