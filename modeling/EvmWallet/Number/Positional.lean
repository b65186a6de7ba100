import EvmWallet.Text.Digits

/-!
# Positional notation

A natural number of the units that a power of ten is, written with a decimal point.
-/

namespace EvmWallet.Number

/-- Digits padded with zeros in front to a width. -/
def pad (width : Nat) (s : List Char) : List Char :=
  List.replicate (width - s.length) '0' ++ s

/-- The digits of `mantissa / 10 ^ scale`, with the point in front of the last `scale`. -/
def pointed (mantissa scale : Nat) : List Char :=
  if scale = 0 then Text.digits mantissa
  else
    Text.digits (mantissa / Nat.pow 10 scale)
      ++ '.' :: pad scale (Text.digits (mantissa % Nat.pow 10 scale))

end EvmWallet.Number
