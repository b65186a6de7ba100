/-!
# Hexadecimal digits

Bytes as pairs of hexadecimal digits, high half first. Digits are written in lower case and
read in either (`hexValue?_hexDigit`).
-/

namespace EvmWallet.Bytes

/-- The lower case digit of a value below sixteen. -/
def hexDigit (n : Nat) : Char :=
  if n < 10 then Char.ofNat (48 + n) else Char.ofNat (87 + n)

/-- The value of a hexadecimal digit of either case. -/
def hexValue? (c : Char) : Option Nat :=
  if '0' ≤ c ∧ c ≤ '9' then some (c.toNat - 48)
  else if 'a' ≤ c ∧ c ≤ 'f' then some (c.toNat - 87)
  else if 'A' ≤ c ∧ c ≤ 'F' then some (c.toNat - 55)
  else none

/-- A written digit reads back as its value. -/
theorem hexValue?_hexDigit {n : Nat} (h : n < 16) : hexValue? (hexDigit n) = some n := by
  rcases n with _ | _ | _ | _ | _ | _ | _ | _ | _ | _ | _ | _ | _ | _ | _ | _ | n
  all_goals first | rfl | omega

/-- The two digits of a byte. -/
def hexPair (b : UInt8) : List Char := [hexDigit (b.toNat / 16), hexDigit (b.toNat % 16)]

/-- The digits of a byte string. -/
def hexChars (bytes : List UInt8) : List Char := bytes.flatMap hexPair

/-- The digits of a byte string behind the marker `0x`. -/
def hex (bytes : List UInt8) : String := String.ofList ('0' :: 'x' :: hexChars bytes)

/-- The byte string that pairs of digits spell. -/
def ofHexChars? : List Char → Option (List UInt8)
  | [] => some []
  | h :: l :: rest => do
    let high ← hexValue? h
    let low ← hexValue? l
    let bytes ← ofHexChars? rest
    return UInt8.ofNat (16 * high + low) :: bytes
  | [_] => none

/-- The value of a numeral in hexadecimal, without a sign or leading zeros. -/
def hexNumeral (n : Nat) : List Char :=
  if n < 16 then [hexDigit n] else hexNumeral (n / 16) ++ [hexDigit (n % 16)]

end EvmWallet.Bytes
