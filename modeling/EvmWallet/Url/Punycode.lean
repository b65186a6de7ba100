import EvmWallet.Text.Digits

/-!
# Punycode

Labels beyond ASCII in ASCII. The basic characters come first; then each insertion of another
character is a number, the count of steps since the last one through all pairs of a code
point and a place. Numbers are written with a variable base, which `bias` adapts to their
size.
-/

namespace EvmWallet.Url.Punycode

/-- The digits before the number ends, by position: from 1 to 26. -/
def threshold (k bias : Nat) : Nat := if k ≤ bias then 1 else min (k - bias) 26

/-- The digit of a value below 36. -/
def digit (n : Nat) : Char := if n < 26 then Char.ofNat (97 + n) else Char.ofNat (22 + n)

/-- The value of a digit. -/
def digitValue? (c : Char) : Option Nat :=
  if 'a' ≤ c ∧ c ≤ 'z' then some (c.toNat - 97)
  else if 'A' ≤ c ∧ c ≤ 'Z' then some (c.toNat - 65)
  else if Text.isDigit c then some (c.toNat - 22)
  else none

/-- Scales a step count down to the range where the base is settled. -/
def settle (delta k : Nat) : Nat :=
  if 455 < delta then settle (delta / 35) (k + 36) else k + 36 * delta / (delta + 38)

/-- The bias after a step count, `count` characters being written then. -/
def adapt (delta count : Nat) (first : Bool) : Nat :=
  let d := if first then delta / 700 else delta / 2
  settle (d + d / count) 0

/-- A number in the variable base. -/
def number (q k bias : Nat) : List Char :=
  if threshold k bias ≤ q then
    digit (threshold k bias + (q - threshold k bias) % (36 - threshold k bias))
      :: number ((q - threshold k bias) / (36 - threshold k bias)) (k + 36) bias
  else [digit q]
termination_by q
decreasing_by
  have low : 1 ≤ threshold k bias := by unfold threshold; split <;> omega
  exact Nat.lt_of_le_of_lt (Nat.div_le_self _ _) (by omega)

/-! ## Encoding -/

/-- An encoder between insertions. -/
structure Encoder where
  written : List Char
  delta : Nat
  bias : Nat
  count : Nat

/-- One character of the label while the code point `m` is inserted. -/
def Encoder.visit (m : Nat) (basic : Nat) (e : Encoder) (c : Char) : Encoder :=
  if c.toNat < m then { e with delta := e.delta + 1 }
  else if c.toNat = m then
    { written := e.written ++ number e.delta 36 e.bias
      delta := 0
      bias := adapt e.delta (e.count + 1) (e.count == basic)
      count := e.count + 1 }
  else e

/-- All insertions of the code points, in increasing order, the last one being `n - 1`. -/
def Encoder.run (label : List Char) (basic : Nat) : Nat → List Nat → Encoder → Encoder
  | _, [], e => e
  | n, m :: rest, e =>
    let start := { e with delta := e.delta + (m - n) * (e.count + 1) }
    let after := label.foldl (Encoder.visit m basic) start
    Encoder.run label basic (m + 1) rest { after with delta := after.delta + 1 }

/-- The code points beyond ASCII, each once, in increasing order. -/
def codePoints (label : List Char) : List Nat :=
  ((label.map Char.toNat).filter (128 ≤ ·)).eraseDups.mergeSort

/-- A label in ASCII. -/
def encode (label : List Char) : List Char :=
  let basic := label.filter (·.toNat < 128)
  let front := if basic.isEmpty then [] else basic ++ ['-']
  front ++ (Encoder.run label basic.length 128 (codePoints label) ⟨[], 0, 72, basic.length⟩).written

/-! ## Decoding -/

/-- A decoder inside a number: what it has written, the code point and place of the last
insertion, and the number so far with the weight of its next digit. -/
structure Decoder where
  written : List Char
  code : Nat
  place : Nat
  bias : Nat
  value : Nat
  weight : Nat
  k : Nat

/-- A decoder after one more digit. -/
def Decoder.step (d : Decoder) (x : Nat) : Option Decoder :=
  let t := threshold d.k d.bias
  let value := d.value + x * d.weight
  if t ≤ x then some { d with value, weight := d.weight * (36 - t), k := d.k + 36 }
  else
    let count := d.written.length + 1
    let code := d.code + value / count
    let place := value % count
    if code < 0x110000 ∧ ¬(0xD800 ≤ code ∧ code < 0xE000) then
      some {
        written := d.written.take place ++ Char.ofNat code :: d.written.drop place
        code := code
        place := place + 1
        bias := adapt (value - d.place) count (d.place == 0 && d.code == 128)
        value := place + 1
        weight := 1
        k := 36 }
    else none

/-- The label that insertions make of basic characters. -/
def insertions (d : Decoder) : List Char → Option (List Char)
  | [] => if d.k = 36 then some d.written else none
  | c :: rest => (digitValue? c).bind fun x => (d.step x).bind (insertions · rest)

/-- The label that an ASCII text stands for: the basic characters stand in front of the last
hyphen, which is left out where there are none. There is none for a text beyond ASCII. -/
def decode (s : List Char) : Option (List Char) :=
  let tail := (s.reverse.takeWhile (· ≠ '-')).reverse
  let front := s.take (s.length - tail.length)
  if front = ['-'] ∨ front.any (128 ≤ ·.toNat) then none
  else insertions ⟨front.dropLast, 128, 0, 72, 0, 1, 36⟩ tail

end EvmWallet.Url.Punycode
