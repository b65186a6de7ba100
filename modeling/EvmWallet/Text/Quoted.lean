import EvmWallet.Bytes.Hex
import EvmWallet.Text.Marks
import EvmWallet.Text.Properties

/-!
# Quoted text

A text between double quotes in which nothing is invisible: quotes and backslashes are
escaped, the common controls have short escapes, and every other character with no visible
form of its own is written as its code point in braces.
-/

namespace EvmWallet.Text

/-- A code point as an escape: a backslash, `u` and its hexadecimal numeral in braces. -/
def codeEscape (c : Char) : List Char :=
  ['\\', 'u', '\x7b'] ++ Bytes.hexNumeral c.toNat ++ ['\x7d']

/-- How a character stands inside double quotes. -/
def quotedChar (c : Char) : List Char :=
  if c = '\x00' then ['\\', '0']
  else if c = '\t' then ['\\', 't']
  else if c = '\r' then ['\\', 'r']
  else if c = '\n' then ['\\', 'n']
  else if c = '\\' then ['\\', '\\']
  else if c = '\x22' then ['\\', '\x22']
  else if isExtending c || invisible.contains c then codeEscape c
  else [c]

/-- A text between double quotes. -/
def quoted (s : String) : String :=
  String.ofList (['\x22'] ++ s.toList.flatMap quotedChar ++ ['\x22'])

end EvmWallet.Text
