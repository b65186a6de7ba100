import EvmWallet.Text.CodeSet

/-!
# Blank characters

Unicode White_Space, and trimming by it: `trim` changes nothing that has no blank at either
end (`trimChars_eq_self`).
-/

namespace EvmWallet.Text

/-- The Unicode property White_Space. -/
def blanks : CodeSet := ⟨[
  0x9, 0xE, 0x20, 0x21, 0x85, 0x86, 0xA0, 0xA1, 0x1680, 0x1681, 0x2000, 0x200B,
  0x2028, 0x202A, 0x202F, 0x2030, 0x205F, 0x2060, 0x3000, 0x3001]⟩

/-- Whether a character is white space. -/
def isBlank (c : Char) : Bool := blanks.contains c

/-- Drops the last characters that satisfy `p`. -/
def dropLastWhile (p : Char → Bool) (s : List Char) : List Char :=
  (s.reverse.dropWhile p).reverse

/-- Removes white space at both ends. -/
def trimChars (s : List Char) : List Char :=
  dropLastWhile isBlank (s.dropWhile isBlank)

/-- Removes white space at both ends of a text. -/
def trim (s : String) : String := String.ofList (trimChars s.toList)

/-- A text with no blank at either end is left alone. -/
theorem trimChars_eq_self {s : List Char} (h : ∀ c ∈ s.head?, isBlank c = false)
    (t : ∀ c ∈ s.getLast?, isBlank c = false) : trimChars s = s := by
  have keep : ∀ {l : List Char}, (∀ c ∈ l.head?, isBlank c = false) → l.dropWhile isBlank = l := by
    intro l hl
    cases l with
    | nil => rfl
    | cons c r => simp [List.dropWhile, hl c (by simp)]
  rw [trimChars, dropLastWhile, keep h, keep (by simpa using t), List.reverse_reverse]

end EvmWallet.Text
