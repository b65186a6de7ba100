import EvmWallet.Bytes.Hex
import EvmWallet.Text.Blank
import EvmWallet.Token.Error

/-!
# Account addresses

An account is twenty bytes. Its text is forty hexadecimal digits of either case behind an
optional `0x`; blanks around it and line or column blanks between the digits do not count.
-/

namespace EvmWallet.Eth

/-- The address of an account or contract. -/
structure Address where
  bytes : List UInt8
  length_eq : bytes.length = 20
  deriving DecidableEq

namespace Address

/-- The blanks that may stand between digits. -/
def isGap (c : Char) : Bool := c = ' ' || c = '\t' || c = '\r' || c = '\n'

/-- Drops one `0x` in front. -/
def dropMark : List Char → List Char
  | '0' :: 'x' :: rest => rest
  | s => s

/-- The address that the digits of a text spell. -/
def ofChars? (s : List Char) : Option Address :=
  match Bytes.ofHexChars? ((dropMark (Text.trimChars s)).filter (!isGap ·)) with
  | some bytes => if h : bytes.length = 20 then some ⟨bytes, h⟩ else none
  | none => none

/-- The address of a text, or an error that holds the text as given. -/
def ofString (s : String) : Except Token.Error Address :=
  match ofChars? s.toList with
  | some a => .ok a
  | none => .error (.invalidAddress s)

/-- The address in lower case digits behind `0x`. -/
def text (a : Address) : String := Bytes.hex a.bytes

end Address

end EvmWallet.Eth
