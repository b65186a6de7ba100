import EvmWallet.Text.Pieces
import EvmWallet.Url.Domain
import EvmWallet.Url.Percent

/-!
# Hosts

The host of a URL is a name, or an address of the internet protocol. A name of the web whose
last label is a number is an address of four bytes, in any of the notations for one; an
address in brackets has eight pieces of sixteen bits, of which one run of zeros may be left
out.
-/

namespace EvmWallet.Url

/-- A host. The empty name is the absence of a host. -/
inductive Host where
  | name (text : List Char)
  | ipv4 (address : Nat)
  | ipv6 (pieces : List Nat)
  deriving DecidableEq, Repr

namespace Host

/-! ## Four bytes -/

/-- The number that digits spell in a base, or `none` if one of them is too large. -/
def numberIn? (base : Nat) (s : List Char) : Option Nat :=
  s.foldlM (fun v c => do
    let d ← Bytes.hexValue? c
    if d < base then some (base * v + d) else none) 0

/-- A number in decimal, behind `0` in octal, or behind `0x` in hexadecimal. -/
def number? : List Char → Option Nat
  | [] => none
  | '0' :: 'x' :: rest => numberIn? 16 rest
  | '0' :: 'X' :: rest => numberIn? 16 rest
  | '0' :: d :: rest => numberIn? 8 (d :: rest)
  | s => numberIn? 10 s

/-- The labels of a name, without an empty one at the end. -/
def parts (s : List Char) : List (List Char) :=
  match (Text.pieces (· = '.') s).reverse with
  | [] :: rest => rest.reverse
  | all => all.reverse

/-- Whether the last label is a number, so that the name is an address. -/
def endsInNumber (s : List Char) : Bool :=
  match (parts s).getLast? with
  | none => false
  | some l => (!l.isEmpty && l.all Text.isDigit) || (number? l).isSome

/-- The address of numbers, all but the last being bytes and the last filling the rest. -/
def joinBytes? (numbers : List Nat) : Option Nat :=
  match numbers.reverse with
  | [] => none
  | last :: front =>
    if numbers.length ≤ 4 ∧ last < Nat.pow 256 (5 - numbers.length) ∧ front.all (· < 256) then
      let prefixed := front.reverse.foldl (fun v n => 256 * v + n) 0
      some (prefixed * Nat.pow 256 (5 - numbers.length) + last)
    else none

/-- The address that a name spells. -/
def ipv4? (s : List Char) : Option Nat := ((parts s).mapM number?).bind joinBytes?

/-! ## Eight pieces -/

/-- A piece of one to four hexadecimal digits. -/
def piece? (s : List Char) : Option Nat :=
  if 1 ≤ s.length ∧ s.length ≤ 4 then numberIn? 16 s else none

/-- A byte in decimal, without zeros in front. -/
def byte? (s : List Char) : Option Nat :=
  match s with
  | '0' :: _ :: _ => none
  | _ => (Text.ofDigits? s).filter (· < 256)

/-- The two pieces of a dotted address. -/
def dotted? (s : List Char) : Option (List Nat) := do
  match ← (Text.pieces (· = '.') s).mapM byte? with
  | [a, b, c, d] => some [256 * a + b, 256 * c + d]
  | _ => none

/-- Pieces with colons between them; the last may be a dotted address where that is allowed. -/
def pieces? (dots : Bool) : List (List Char) → Option (List Nat)
  | [] => some []
  | [s] => if dots && s.contains '.' then dotted? s else (piece? s).map ([·])
  | s :: rest => do return (← piece? s) :: (← pieces? dots rest)

/-- The pieces of one side of the gap. -/
def side? (dots : Bool) (s : List Char) : Option (List Nat) :=
  if s.isEmpty then some [] else pieces? dots (Text.pieces (· = ':') s)

/-- The text before and after the first two colons in a row. -/
def gap? : List Char → Option (List Char × List Char)
  | ':' :: ':' :: rest => some ([], rest)
  | c :: rest => (gap? rest).map fun (l, r) => (c :: l, r)
  | [] => none

/-- The address that a text between brackets spells. -/
def ipv6? (s : List Char) : Option (List Nat) :=
  match gap? s with
  | none => (pieces? true (Text.pieces (· = ':') s)).filter (·.length = 8)
  | some (l, r) => do
    let left ← side? false l
    let right ← side? true r
    if left.length + right.length ≤ 7 then
      some (left ++ List.replicate (8 - left.length - right.length) 0 ++ right)
    else none

/-- The length of the run of zeros in front. -/
def zeros (pieces : List Nat) : Nat := (pieces.takeWhile (· = 0)).length

/-- The start and length of the first longest run of zeros. -/
def longestZeros : List Nat → Nat × Nat
  | [] => (0, 0)
  | p :: rest =>
    let (start, length) := longestZeros rest
    if length ≤ zeros (p :: rest) then (0, zeros (p :: rest)) else (start + 1, length)

/-- Pieces in hexadecimal with colons between them. -/
def pieceChars (pieces : List Nat) : List Char :=
  Text.joined ':' (pieces.map Bytes.hexNumeral)

/-- The text of an address of eight pieces: the first longest run of two or more zeros is
left out. -/
def ipv6Chars (pieces : List Nat) : List Char :=
  let (start, length) := longestZeros pieces
  if length < 2 then pieceChars pieces
  else pieceChars (pieces.take start) ++ [':', ':'] ++ pieceChars (pieces.drop (start + length))

/-! ## Hosts -/

/-- The text of a host. -/
def chars : Host → List Char
  | name text => text
  | ipv4 a =>
    Text.joined '.'
      ([a / 256 / 256 / 256, a / 256 / 256 % 256, a / 256 % 256, a % 256].map Text.digits)
  | ipv6 pieces => '[' :: (ipv6Chars pieces ++ [']'])

/-- The address between brackets, if the text begins with one. -/
def bracketed? (s : List Char) : Option (Except Error Host) :=
  match s with
  | '[' :: rest =>
    match rest.getLast?, ipv6? rest.dropLast with
    | some ']', some pieces => some (.ok (ipv6 pieces))
    | _, _ => some (.error .invalidIpv6)
  | _ => none

/-- The host that a text names in a scheme of the web. -/
def ofWeb (s : List Char) : Except Error Host :=
  match bracketed? s with
  | some answer => answer
  | none => do
    let text ← Domain.ofBytes (percentDecode s)
    if text.isEmpty then .error .emptyHost
    else if endsInNumber text then
      match ipv4? text with
      | some a => .ok (ipv4 a)
      | none => .error .invalidIpv4
    else .ok (name text)

/-- The characters that separate the parts of a URL, which no host can hold. -/
def isSeparator (c : Char) : Bool :=
  ['\x00', '\t', '\n', '\r', ' ', '#', '/', ':', '<', '>', '?', '@', '[', '\\', ']', '^',
    '|'].contains c

/-- The host that a text names in any other scheme. -/
def ofOther (s : List Char) : Except Error Host :=
  match bracketed? s with
  | some answer => answer
  | none =>
    if s.any isSeparator then .error .invalidCharacter else .ok (name (percentEncode isControl s))

end Host

end EvmWallet.Url
