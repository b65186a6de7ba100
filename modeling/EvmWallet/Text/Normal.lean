import EvmWallet.Text.CombiningClass
import EvmWallet.Text.Composites

/-!
# Normal form

Texts that differ only in how accents and syllables are encoded have one normal form: every
character is taken apart (`decomposed`), marks are put into canonical order (`ordered`), and
what can be put together is (`composed`).
-/

namespace EvmWallet.Text

/-! ## Syllables of Hangul -/

/-- The first of the 11172 syllables, which are composites of up to three letters in the order
of the alphabet: 19 leading consonants, 21 vowels, and 27 trailing consonants or none. -/
def firstSyllable : Nat := 0xAC00

/-- The first leading consonant. -/
def firstLeading : Nat := 0x1100

/-- The first vowel. -/
def firstVowel : Nat := 0x1161

/-- The place in front of the first trailing consonant. -/
def noTrailing : Nat := 0x11A7

/-- The two characters that a syllable stands for: a shorter syllable and a trailing
consonant, or a consonant and a vowel. -/
def syllablePair? (n : Nat) : Option (Nat × Nat) :=
  let place := n - firstSyllable
  if n < firstSyllable ∨ 11172 ≤ place then none
  else if place % 28 = 0 then some (firstLeading + place / 588, firstVowel + place / 28 % 21)
  else some (n - place % 28, noTrailing + place % 28)

/-- The syllable of two characters. -/
def syllable? (a b : Nat) : Option Nat :=
  if firstLeading ≤ a ∧ a < firstLeading + 19 ∧ firstVowel ≤ b ∧ b < firstVowel + 21 then
    some (firstSyllable + (a - firstLeading) * 588 + (b - firstVowel) * 28)
  else if firstSyllable ≤ a ∧ a < firstSyllable + 11172 ∧ (a - firstSyllable) % 28 = 0
      ∧ noTrailing < b ∧ b < noTrailing + 28 then
    some (a + (b - noTrailing))
  else none

/-! ## Taking apart -/

/-- The characters that a character stands for in the first place; only the first of them may
stand for others. -/
def standsFor? (c : Char) : Option (List Char) :=
  match (syllablePair? c.toNat).or (entryAt? compositeRows c.toNat) with
  | some (a, b) => some [Char.ofNat a, Char.ofNat b]
  | none => substituted.image? c

/-- A character taken apart down to a depth. -/
def decomposedTo : Nat → Char → List Char
  | 0, c => [c]
  | depth + 1, c =>
    match standsFor? c with
    | some (a :: rest) => decomposedTo depth a ++ rest
    | _ => [c]

/-- A character taken apart. No character stands for others at more than four removes. -/
def decomposedChar (c : Char) : List Char := decomposedTo 4 c

/-- A text taken apart. -/
def decomposed (s : List Char) : List Char := s.flatMap decomposedChar

/-! ## Canonical order -/

/-- Puts a character in front of a text, behind the marks of smaller classes that begin it. -/
def insertMark (c : Char) : List Char → List Char
  | [] => [c]
  | d :: rest =>
    if combiningClass d ≠ 0 ∧ combiningClass d < combiningClass c then d :: insertMark c rest
    else c :: d :: rest

/-- A text with its marks in the order of their classes; marks of one class keep their
order. -/
def ordered (s : List Char) : List Char := s.foldr insertMark []

/-! ## Putting together -/

/-- The composite that stands for two characters. -/
def composite? (a b : Char) : Option Char :=
  ((syllable? a.toNat b.toNat).or
    (compositeRows.findSome? fun (first, pairs) =>
      (pairs.idxOf? (a.toNat, b.toNat)).map (first + ·))).map Char.ofNat

/-- Puts together a base with what follows it. The marks behind it that stay on their own are
`kept`, newest first; a character joins the base unless one of these is in its way, being of
its class or a larger one. -/
def composedFrom (base : Char) (kept : List Char) : List Char → List Char
  | [] => base :: kept.reverse
  | c :: rest =>
    let free := kept.head?.elim true fun d => combiningClass d < combiningClass c
    match (if free then composite? base c else none) with
    | some joined => composedFrom joined kept rest
    | none =>
      if combiningClass c = 0 then base :: kept.reverse ++ composedFrom c [] rest
      else composedFrom base (c :: kept) rest

/-- A text with everything put together that can be. -/
def composed : List Char → List Char
  | [] => []
  | c :: rest => composedFrom c [] rest

/-- The normal form of a text. -/
def normal (s : List Char) : List Char := composed (ordered (decomposed s))

end EvmWallet.Text
