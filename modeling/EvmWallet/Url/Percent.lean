import EvmWallet.Bytes.Hex
import EvmWallet.Bytes.Utf8
import EvmWallet.Text.Digits

/-!
# Percent encoding

Characters that a place in a URL cannot hold are written as the bytes of their UTF-8, each as
a percent sign with two capital hexadecimal digits. Which ASCII characters that concerns
depends on the place; characters beyond ASCII are always encoded. Forms have an encoding of
their own, in which a blank is a plus.
-/

namespace EvmWallet.Url

/-! ## Sets of encoded characters -/

/-- ASCII controls and everything beyond ASCII. -/
def isControl (c : Char) : Bool := c.toNat < 0x20 || 0x7F ≤ c.toNat

/-- What is encoded in a fragment. -/
def inFragment (c : Char) : Bool :=
  isControl c || [' ', '\x22', '<', '>', '\x60'].contains c

/-- What is encoded in a path. -/
def inPath (c : Char) : Bool :=
  inFragment c || ['#', '?', '\x7b', '\x7d'].contains c

/-- What is encoded in a query; schemes of the web encode the apostrophe too. -/
def inQuery (web : Bool) (c : Char) : Bool :=
  isControl c || [' ', '\x22', '#', '<', '>'].contains c || (web && c == '\x27')

/-- What is encoded in a user name or password. -/
def inCredentials (c : Char) : Bool :=
  inPath c || ['/', ':', ';', '=', '@', '[', '\\', ']', '^', '|'].contains c

/-! ## Encoding -/

/-- The capital digit of a value below sixteen. -/
def capitalDigit (n : Nat) : Char :=
  if n < 10 then Char.ofNat (48 + n) else Char.ofNat (55 + n)

/-- A byte as a percent sign and two digits. -/
def percentByte (b : UInt8) : List Char :=
  ['%', capitalDigit (b.toNat / 16), capitalDigit (b.toNat % 16)]

/-- A character, encoded if it is in the set. -/
def percentChar (inSet : Char → Bool) (c : Char) : List Char :=
  if inSet c then (Bytes.utf8Char c).flatMap percentByte else [c]

/-- A text with the characters of a set encoded. -/
def percentEncode (inSet : Char → Bool) (s : List Char) : List Char :=
  s.flatMap (percentChar inSet)

/-! ## Decoding -/

/-- The bytes of a text, each percent sign with two digits being one byte. A percent sign
without two digits stands for itself. -/
def percentDecode : List Char → List UInt8
  | [] => []
  | '%' :: h :: l :: rest =>
    match Bytes.hexValue? h, Bytes.hexValue? l with
    | some high, some low => UInt8.ofNat (16 * high + low) :: percentDecode rest
    | _, _ => Bytes.utf8Char '%' ++ percentDecode (h :: l :: rest)
  | c :: rest => Bytes.utf8Char c ++ percentDecode rest

/-! ## Forms -/

/-- The characters that a form leaves as they are. -/
def isFormSafe (c : Char) : Bool :=
  ('a' ≤ c && c ≤ 'z') || ('A' ≤ c && c ≤ 'Z') || Text.isDigit c || ['*', '-', '.', '_'].contains c

/-- A character in a form. -/
def formChar (c : Char) : List Char :=
  if c = ' ' then ['+'] else percentChar (!isFormSafe ·) c

/-- A name with its value in a form. -/
def formPair (name value : String) : List Char :=
  name.toList.flatMap formChar ++ '=' :: value.toList.flatMap formChar

end EvmWallet.Url
