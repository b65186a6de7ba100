import EvmWallet.Text.CaseMaps
import EvmWallet.Text.Properties

/-!
# Upper and lower case

Full Unicode case mapping of texts (`lower`, `upper`), with the one mapping that depends on
its neighbours: a capital sigma that ends a word becomes `ς`. `asciiLower` changes the
letters A to Z only; two texts are equal up to ASCII case when it makes them equal.
-/

namespace EvmWallet.Text

/-- The lower case of a character that stands alone. -/
def lowerChar (c : Char) : List Char := (lowerMap.image? c).getD [c]

/-- The upper case of a character. -/
def upperChar (c : Char) : List Char := (upperMap.image? c).getD [c]

/-- Whether a letter with case comes next, past the characters that case ignores. -/
def startsWithCased (s : List Char) : Bool :=
  match s.dropWhile caseIgnorable.contains with
  | [] => false
  | c :: _ => cased.contains c

/-- The lower case of a text, `before` being what precedes it, nearest character first. -/
def lowerAfter (before : List Char) : List Char → List Char
  | [] => []
  | 'Σ' :: rest =>
    (if startsWithCased before && !startsWithCased rest then 'ς' else 'σ')
      :: lowerAfter ('Σ' :: before) rest
  | c :: rest => lowerChar c ++ lowerAfter (c :: before) rest

/-- The lower case of a text. -/
def lower (s : String) : String := String.ofList (lowerAfter [] s.toList)

/-- The upper case of a text. -/
def upper (s : String) : String := String.ofList (s.toList.flatMap upperChar)

/-! ## ASCII letters -/

/-- The lower case of a letter A to Z; any other character stays. -/
def asciiLowerChar (c : Char) : Char :=
  if 'A' ≤ c ∧ c ≤ 'Z' then Char.ofNat (c.toNat + 32) else c

/-- Lowers the letters A to Z of a text. -/
def asciiLower (s : String) : String := String.ofList (s.toList.map asciiLowerChar)

/-- Equality up to the case of the letters A to Z. -/
def sameUpToAsciiCase (a b : String) : Bool := asciiLower a == asciiLower b

/-- Equality up to ASCII case is equality of the lowered texts. -/
theorem sameUpToAsciiCase_iff {a b : String} :
    sameUpToAsciiCase a b = true ↔ asciiLower a = asciiLower b := by
  simp [sameUpToAsciiCase]

end EvmWallet.Text
