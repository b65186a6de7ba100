import EvmWallet.Bytes.Utf8
import EvmWallet.Text.Normal
import EvmWallet.Text.Pieces
import EvmWallet.Url.Domain.Character
import EvmWallet.Url.Domain.Direction
import EvmWallet.Url.Domain.Joiner
import EvmWallet.Url.Error
import EvmWallet.Url.Punycode

/-!
# Domain names

A domain name in the ASCII form that is looked up: mapped to the characters that names hold,
in normal form, and with each label beyond ASCII behind `xn--`. A label in ASCII form is
accepted only if it stands for a label that is in mapped and normal form already.
-/

namespace EvmWallet.Url.Domain

/-- The ASCII characters that a name cannot hold. -/
def isForbidden (c : Char) : Bool :=
  c.toNat ≤ 0x20 || c.toNat == 0x7F
    || ['%', '#', '/', ':', '<', '>', '?', '@', '[', '\\', ']', '^', '|'].contains c

/-- The mark in front of a label in ASCII form. -/
def encodedMark : List Char := ['x', 'n', '-', '-']

/-- Whether a label is in the form that mapping gives. -/
def isMapped (l : List Char) : Bool :=
  l.all (fun c => mapChar c == some [c]) && Text.normal l == l

/-- Whether a mapped label beyond ASCII is one that a name can have. -/
def isValid (l : List Char) : Bool :=
  !(l.head?.elim true Text.isMark) && !encodedMark.isPrefixOf l && joinersFit [] l

/-- The longest label that is brought into ASCII form. -/
def labelLimit : Nat := 1000

/-- The longest text in ASCII form that is read, without its mark. -/
def encodedLimit : Nat := 2000

/-- A label in ASCII, and the label that it stands for. -/
structure Label where
  ascii : List Char
  text : List Char

namespace Label

/-- The label that an ASCII form stands for. -/
def ofEncoded? (tail : List Char) : Option Label := do
  let text ← if tail.length ≤ encodedLimit then Punycode.decode tail else none
  if text.any (128 ≤ ·.toNat) && isMapped text && isValid text then
    some ⟨encodedMark ++ tail, text⟩
  else none

/-- The label that a mapped text is. -/
def ofMapped? (l : List Char) : Option Label :=
  if encodedMark.isPrefixOf l then ofEncoded? (l.drop 4)
  else if l.all (·.toNat < 128) then some ⟨l, l⟩
  else if isValid l && l.length ≤ labelLimit then some ⟨encodedMark ++ Punycode.encode l, l⟩
  else none

end Label

/-- The labels of the name that a text is. -/
def labels? (s : List Char) : Option (List Label) := do
  let mapped ← s.mapM mapChar
  (Text.pieces (· = '.') (Text.normal mapped.flatten)).mapM Label.ofMapped?

/-- The ASCII form of the name that a text is. -/
def ofText? (s : List Char) : Option (List Char) := do
  let labels ← labels? s
  let name := Text.joined '.' (labels.map (·.ascii))
  if areOrdered (labels.map (·.text)) && !name.any isForbidden then some name else none

/-- The ASCII form of the name that bytes spell. -/
def ofBytes (bytes : List UInt8) : Except Error (List Char) :=
  match (Bytes.decodeUtf8? bytes).bind fun s => ofText? s.toList with
  | some name => .ok name
  | none => .error .invalidName

end EvmWallet.Url.Domain
