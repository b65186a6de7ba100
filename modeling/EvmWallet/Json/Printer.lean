import EvmWallet.Bytes.Hex
import EvmWallet.Json.Value
import EvmWallet.Text.Digits

/-!
# Writing JSON

The compact form: no white space, fields in order, and in strings only the escapes that the
format demands. A string that is no text is written as `null`; no value built from texts
holds one.
-/

namespace EvmWallet.Json

/-- How a character stands inside a string. -/
def stringChar (c : Char) : List Char :=
  if c = '\x22' then ['\\', '\x22']
  else if c = '\\' then ['\\', '\\']
  else if c = '\x08' then ['\\', 'b']
  else if c = '\x0c' then ['\\', 'f']
  else if c = '\n' then ['\\', 'n']
  else if c = '\r' then ['\\', 'r']
  else if c = '\t' then ['\\', 't']
  else if c.toNat < 32 then
    ['\\', 'u', '0', '0', Bytes.hexDigit (c.toNat / 16), Bytes.hexDigit (c.toNat % 16)]
  else [c]

/-- A string between its quotes. -/
def stringChars (s : String) : List Char :=
  '\x22' :: (s.toList.flatMap stringChar ++ ['\x22'])

/-- A string, or `null` where there is no text. -/
def textChars : Text → List Char
  | none => "null".toList
  | some s => stringChars s

/-- A number as it was read or is written. -/
def Numeral.chars : Numeral → List Char
  | .whole negative n => (if negative then ['-'] else []) ++ Text.digits n
  | .real written => written

mutual
/-- The compact form of a value. -/
def Value.chars : Value → List Char
  | .null => "null".toList
  | .bool true => "true".toList
  | .bool false => "false".toList
  | .number n => n.chars
  | .string s => textChars s
  | .list items => '[' :: (itemsChars items ++ [']'])
  | .object fields => '\x7b' :: (fieldsChars fields ++ ['\x7d'])

/-- Items with commas between them. -/
def itemsChars : List Value → List Char
  | [] => []
  | [v] => v.chars
  | v :: w :: rest => v.chars ++ ',' :: itemsChars (w :: rest)

/-- Fields with commas between them. -/
def fieldsChars : List (Text × Value) → List Char
  | [] => []
  | [(k, v)] => textChars k ++ ':' :: v.chars
  | (k, v) :: f :: rest => textChars k ++ ':' :: (v.chars ++ ',' :: fieldsChars (f :: rest))
end

/-- The compact text of a value. -/
def Value.print (v : Value) : String := String.ofList v.chars

end EvmWallet.Json
