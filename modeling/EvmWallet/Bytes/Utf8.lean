/-!
# UTF-8

Texts as bytes. Decoding is a machine that takes one byte at a time and marks every piece
that is no UTF-8: the strict reading refuses a text with such a piece, the lenient one puts a
replacement character in its place. A piece is as long as the beginning of some character,
so that the byte after it is looked at afresh.
-/

namespace EvmWallet.Bytes

/-! ## Writing -/

/-- The bytes of a character. -/
def utf8Char (c : Char) : List UInt8 :=
  let n := c.toNat
  if n < 0x80 then [UInt8.ofNat n]
  else if n < 0x800 then [UInt8.ofNat (0xC0 + n / 64), UInt8.ofNat (0x80 + n % 64)]
  else if n < 0x10000 then
    [UInt8.ofNat (0xE0 + n / 4096), UInt8.ofNat (0x80 + n / 64 % 64), UInt8.ofNat (0x80 + n % 64)]
  else
    [UInt8.ofNat (0xF0 + n / 262144), UInt8.ofNat (0x80 + n / 4096 % 64),
      UInt8.ofNat (0x80 + n / 64 % 64), UInt8.ofNat (0x80 + n % 64)]

/-- The bytes of characters. -/
def utf8Chars (s : List Char) : List UInt8 := s.flatMap utf8Char

/-- The bytes of a text. -/
def utf8 (s : String) : List UInt8 := utf8Chars s.toList

/-! ## Reading -/

/-- Where the reader stands: between characters, or inside one with `missing` bytes to come,
the next of them from `low` to `high`. -/
inductive Utf8State where
  | start
  | inside (missing low high value : Nat)

/-- What a byte between characters means. -/
def utf8Lead (b : Nat) : List (Option Char) × Utf8State :=
  if b < 0x80 then ([some (Char.ofNat b)], .start)
  else if 0xC2 ≤ b ∧ b < 0xE0 then ([], .inside 1 0x80 0xBF (b - 0xC0))
  else if b = 0xE0 then ([], .inside 2 0xA0 0xBF 0)
  else if b = 0xED then ([], .inside 2 0x80 0x9F 0xD)
  else if 0xE1 ≤ b ∧ b < 0xF0 then ([], .inside 2 0x80 0xBF (b - 0xE0))
  else if b = 0xF0 then ([], .inside 3 0x90 0xBF 0)
  else if 0xF1 ≤ b ∧ b < 0xF4 then ([], .inside 3 0x80 0xBF (b - 0xF0))
  else if b = 0xF4 then ([], .inside 3 0x80 0x8F 4)
  else ([none], .start)

/-- What a byte means: the characters it completes, `none` for a piece that is none. -/
def utf8Step (s : Utf8State) (b : Nat) : List (Option Char) × Utf8State :=
  match s with
  | .start => utf8Lead b
  | .inside missing low high value =>
    if low ≤ b ∧ b ≤ high then
      if missing ≤ 1 then ([some (Char.ofNat (64 * value + b % 64))], .start)
      else ([], .inside (missing - 1) 0x80 0xBF (64 * value + b % 64))
    else
      (none :: (utf8Lead b).1, (utf8Lead b).2)

/-- The characters of a byte string from a state on. -/
def utf8Run : Utf8State → List UInt8 → List (Option Char)
  | .start, [] => []
  | .inside .., [] => [none]
  | s, b :: rest => (utf8Step s b.toNat).1 ++ utf8Run (utf8Step s b.toNat).2 rest

/-- The text of a byte string, if it is UTF-8 throughout. -/
def decodeUtf8? (bytes : List UInt8) : Option String :=
  ((utf8Run .start bytes).mapM id).map String.ofList

/-- The text of a byte string, a mark at its front dropped, with replacement characters where
it is no UTF-8. -/
def decodeLenient (bytes : List UInt8) : String :=
  let chars := (utf8Run .start bytes).map (·.getD '\uFFFD')
  String.ofList (match chars with
    | '\uFEFF' :: rest => rest
    | cs => cs)

end EvmWallet.Bytes
