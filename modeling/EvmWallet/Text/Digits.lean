/-!
# Decimal digits

Natural numbers as decimal digits. `digits` writes the shortest numeral and `ofDigits?`
reads any numeral, leading zeros included.
-/

namespace EvmWallet.Text

/-- Whether a character is one of the ten ASCII digits. -/
def isDigit (c : Char) : Bool := '0' ≤ c && c ≤ '9'

/-- The value of a digit. -/
def digitValue (c : Char) : Nat := c.toNat - 48

/-- The digit of a value below ten. -/
def digitChar (n : Nat) : Char := Char.ofNat (48 + n)

/-- The digits of a number, without leading zeros. -/
def digits (n : Nat) : List Char :=
  if n < 10 then [digitChar n] else digits (n / 10) ++ [digitChar (n % 10)]

/-- Appends digits to a number. -/
def addDigits (n : Nat) (s : List Char) : Nat := s.foldl (fun v c => 10 * v + digitValue c) n

/-- The number that a numeral of one digit or more spells. -/
def ofDigits? (s : List Char) : Option Nat :=
  if s ≠ [] ∧ s.all isDigit then some (addDigits 0 s) else none

/-- The number that a numeral with an optional plus spells, if it is below `limit`. -/
def ofDigitsBelow? (limit : Nat) (s : List Char) : Option Nat :=
  match s with
  | '+' :: rest => (ofDigits? rest).filter (· < limit)
  | _ => (ofDigits? s).filter (· < limit)

theorem isDigit_digitChar {n : Nat} (h : n < 10) : isDigit (digitChar n) = true := by
  rcases n with _ | _ | _ | _ | _ | _ | _ | _ | _ | _ | n
  all_goals first | rfl | omega

theorem digitValue_digitChar {n : Nat} (h : n < 10) : digitValue (digitChar n) = n := by
  rcases n with _ | _ | _ | _ | _ | _ | _ | _ | _ | _ | n
  all_goals first | rfl | omega

/-- Written digits are digits. -/
theorem digits_all_isDigit (n : Nat) : (digits n).all isDigit = true := by
  induction n using digits.induct with
  | case1 n h => rw [digits]; simp [h, isDigit_digitChar h]
  | case2 n h ih =>
    rw [digits]
    simp only [h, if_false, List.all_append, ih, Bool.true_and]
    simp [isDigit_digitChar (Nat.mod_lt n (by omega))]

theorem digits_ne_nil (n : Nat) : digits n ≠ [] := by
  rw [digits]; split <;> simp

theorem addDigits_append (n : Nat) (s t : List Char) :
    addDigits n (s ++ t) = addDigits (addDigits n s) t := List.foldl_append

/-- Reading the digits of a number gives the number. -/
theorem addDigits_digits (n : Nat) : addDigits 0 (digits n) = n := by
  induction n using digits.induct with
  | case1 n h => rw [digits]; simp [h, addDigits, digitValue_digitChar h]
  | case2 n h ih =>
    rw [digits]
    simp only [h, if_false, addDigits_append, ih]
    simp only [addDigits, List.foldl_cons, List.foldl_nil,
      digitValue_digitChar (Nat.mod_lt n (by omega : 10 > 0))]
    omega

/-- The digits of a number read back as it. -/
theorem ofDigits?_digits (n : Nat) : ofDigits? (digits n) = some n := by
  simp [ofDigits?, digits_ne_nil, digits_all_isDigit, addDigits_digits]

end EvmWallet.Text
