import EvmWallet.Text.Blank
import EvmWallet.Text.Digits
import Mathlib.Data.List.Induction
import Mathlib.Data.List.TakeWhile

/-!
# Trimmed texts and the numerals in them

Trimming gives the one part of a text that has blanks around it and none at its ends
(`trimChars_eq_iff`). A numeral in a text is its digits, with any number of zeros in front of them, a
plus in front of these or not, and blanks around: exactly these texts are read as that number
(`ofDigitsBelow?_trimChars_eq_some_iff`).
-/

namespace EvmWallet.Text

/-! ## Trimming -/

/-- Nothing but white space. -/
def Blanks (s : List Char) : Prop := ∀ c ∈ s, isBlank c = true

/-- No white space at either end. -/
structure Tight (s : List Char) : Prop where
  head : ∀ c ∈ s.head?, isBlank c = false
  last : ∀ c ∈ s.getLast?, isBlank c = false

/-- A text without the white space around it. -/
inductive Trims : List Char → List Char → Prop where
  | around {a t b : List Char} : Blanks a → Blanks b → Tight t → Trims (a ++ (t ++ b)) t

section Trimming

variable {s t a b : List Char}

theorem blanks_nil : Blanks [] := fun _ h => absurd h List.not_mem_nil

theorem blanks_reverse : Blanks s.reverse ↔ Blanks s := by
  simp only [Blanks, List.mem_reverse]

theorem dropWhile_blanks (h : Blanks a) (t : List Char) :
    (a ++ t).dropWhile isBlank = t.dropWhile isBlank := List.dropWhile_append_of_pos h

theorem blanks_takeWhile (s : List Char) : Blanks (s.takeWhile isBlank) :=
  fun _ present => List.mem_takeWhile_imp present

/-- Blanks around a text do not count. -/
theorem trimChars_around (front : Blanks a) (back : Blanks b) (t : List Char) :
    trimChars (a ++ (t ++ b)) = trimChars t := by
  unfold trimChars dropLastWhile
  rw [dropWhile_blanks front, List.dropWhile_append]
  have reversed : Blanks b.reverse := blanks_reverse.mpr back
  split
  · rename_i empty
    have nothing : b.dropWhile isBlank = [] := List.dropWhile_eq_nil_iff.mpr back
    rw [nothing, List.isEmpty_iff.mp empty]
  · rw [List.reverse_append, dropWhile_blanks reversed]

theorem head?_dropWhile (s : List Char) :
    ∀ c ∈ (s.dropWhile isBlank).head?, isBlank c = false := by
  intro c first
  have fails := List.head?_dropWhile_not isBlank s
  rw [Option.mem_def.mp first] at fails
  simpa using fails

/-- What is trimmed off is white space, and what is left is tight. -/
theorem trims_trimChars (s : List Char) : Trims s (trimChars s) := by
  have front : s = s.takeWhile isBlank ++ s.dropWhile isBlank := List.takeWhile_append_dropWhile.symm
  -- The end is the beginning of the reversed rest.
  obtain ⟨d, rest⟩ : ∃ d, d = s.dropWhile isBlank := ⟨_, rfl⟩
  have back : d = trimChars s ++ (d.reverse.takeWhile isBlank).reverse := by
    rw [trimChars, dropLastWhile, ← rest, ← List.reverse_append, List.takeWhile_append_dropWhile,
      List.reverse_reverse]
  have tight : Tight (trimChars s) := by
    constructor
    · intro c first
      refine head?_dropWhile s c ?_
      rw [← rest, back, List.head?_append, Option.mem_def.mp first]
      rfl
    · intro c last
      rw [trimChars, dropLastWhile, List.getLast?_reverse] at last
      exact head?_dropWhile _ c last
  have trims := Trims.around (blanks_takeWhile s)
    (blanks_reverse.mpr (blanks_takeWhile d.reverse)) tight
  rwa [← back, rest, ← front] at trims

theorem trimChars_eq_iff : trimChars s = t ↔ Trims s t := by
  constructor
  · rintro rfl
    exact trims_trimChars s
  · rintro ⟨front, back, tight⟩
    rw [trimChars_around front back, trimChars_eq_self tight.head tight.last]

/-- Two characters that are no white space stay in front of what is left. -/
theorem trimChars_visible {c d : Char} (first : isBlank c = false) (second : isBlank d = false)
    (s : List Char) : ∃ t b, s = t ++ b ∧ Blanks b ∧ trimChars (c :: d :: s) = c :: d :: t := by
  have trims := trims_trimChars (c :: d :: s)
  generalize trimChars (c :: d :: s) = u at trims ⊢
  generalize whole : c :: d :: s = w at trims
  obtain ⟨front, back, -⟩ := trims
  rename_i a b
  rcases a with _ | ⟨e, a⟩
  · rcases u with _ | ⟨e, _ | ⟨f, u⟩⟩
    · subst whole
      exact absurd (back c (by simp)) (by simp [first])
    · obtain ⟨-, rfl⟩ := List.cons.inj whole
      exact absurd (back d (by simp)) (by simp [second])
    · obtain ⟨rfl, behind⟩ := List.cons.inj whole
      obtain ⟨rfl, rfl⟩ := List.cons.inj behind
      exact ⟨u, b, rfl, back, rfl⟩
  · obtain ⟨rfl, -⟩ := List.cons.inj whole
    exact absurd (front c (by simp)) (by simp [first])

/-- No visible character of ASCII is white space. -/
theorem isBlank_of_visible {c : Char} (h : 0x21 ≤ c.toNat) (h' : c.toNat < 0x85) :
    isBlank c = false := by
  have one : 0x9 ≤ c.toNat := by omega
  have two : 0xE ≤ c.toNat := by omega
  have three : 0x20 ≤ c.toNat := by omega
  have next : ¬0x85 ≤ c.toNat := by omega
  simp [isBlank, blanks, CodeSet.contains, List.takeWhile, one, two, three, h, next]

end Trimming

/-! ## Numerals -/

/-- A number with zeros in front of its digits, a plus or none, and blanks around. -/
inductive SpellsNatural (n : Nat) : List Char → Prop where
  | numeral {a plus b : List Char} (zeros : Nat) : Blanks a → Blanks b → plus = [] ∨ plus = ['+'] →
      SpellsNatural n (a ++ ((plus ++ (List.replicate zeros '0' ++ digits n)) ++ b))

section Numerals

variable {s : List Char} {n limit : Nat}

theorem toNat_of_isDigit {c : Char} (h : isDigit c = true) : 48 ≤ c.toNat ∧ c.toNat ≤ 57 := by
  rw [isDigit, Bool.and_eq_true, decide_eq_true_eq, decide_eq_true_eq, Char.le_def, Char.le_def] at h
  exact h

theorem digitChar_digitValue {c : Char} (h : isDigit c = true) : digitChar (digitValue c) = c := by
  have bounds := toNat_of_isDigit h
  have same : 48 + (c.toNat - 48) = c.toNat := by omega
  rw [digitChar, digitValue, same, Char.ofNat_toNat]

theorem addDigits_replicate (zeros : Nat) (s : List Char) :
    addDigits 0 (List.replicate zeros '0' ++ s) = addDigits 0 s := by
  induction zeros with
  | zero => rfl
  | succ zeros ih => exact ih

/-- Every numeral has zeros in front of the digits of its number. -/
theorem exists_zeros (nonempty : s ≠ []) (digits_s : ∀ c ∈ s, isDigit c = true) :
    ∃ zeros, s = List.replicate zeros '0' ++ digits (addDigits 0 s) := by
  induction s using List.reverseRecOn with
  | nil => exact absurd rfl nonempty
  | append_singleton s c ih =>
    have digit : isDigit c = true := digits_s c (by simp)
    have bounds := toNat_of_isDigit digit
    have small : digitValue c < 10 := by
      unfold digitValue
      omega
    have value : addDigits 0 (s ++ [c]) = 10 * addDigits 0 s + digitValue c := by
      rw [addDigits_append]
      rfl
    rw [value]
    by_cases none : s = []
    · refine ⟨0, ?_⟩
      subst none
      show [c] = digits (10 * 0 + digitValue c)
      rw [Nat.mul_zero, Nat.zero_add, digits, if_pos small, digitChar_digitValue digit]
    · obtain ⟨zeros, front⟩ := ih none fun d early => digits_s d (List.mem_append_left [c] early)
      by_cases zero : addDigits 0 s = 0
      · -- The zero that stands for the front is one more in front of the last digit.
        refine ⟨zeros + 1, ?_⟩
        rw [zero] at front ⊢
        have only : digits 0 = ['0'] := by rw [digits, if_pos (by decide)]; rfl
        rw [Nat.mul_zero, Nat.zero_add, digits, if_pos small, digitChar_digitValue digit,
          List.replicate_succ', front, only]
      · refine ⟨zeros, ?_⟩
        have large : ¬10 * addDigits 0 s + digitValue c < 10 := by omega
        have quotient : (10 * addDigits 0 s + digitValue c) / 10 = addDigits 0 s := by omega
        have remainder : (10 * addDigits 0 s + digitValue c) % 10 = digitValue c := by omega
        rw [digits, if_neg large, quotient, remainder, digitChar_digitValue digit,
          ← List.append_assoc, ← front]

theorem ofDigits?_eq_some_iff :
    ofDigits? s = some n ↔ ∃ zeros, s = List.replicate zeros '0' ++ digits n := by
  unfold ofDigits?
  constructor
  · intro read
    split at read
    · rename_i numeral
      exact Option.some.inj read ▸ exists_zeros numeral.1 (List.all_eq_true.mp numeral.2)
    · exact absurd read (by simp)
  · rintro ⟨zeros, rfl⟩
    have nonempty : List.replicate zeros '0' ++ digits n ≠ [] := by simp [digits_ne_nil]
    have all : (List.replicate zeros '0' ++ digits n).all isDigit = true := by
      rw [List.all_append, digits_all_isDigit, Bool.and_true, List.all_replicate]
      split <;> rfl
    rw [if_pos ⟨nonempty, all⟩, addDigits_replicate, addDigits_digits]

/-- The first character of a numeral is a digit. -/
theorem ofDigits?_plus (s : List Char) : ofDigits? ('+' :: s) = none := by
  have sign : ('+' :: s).all isDigit = false := rfl
  simp [ofDigits?, sign]

theorem ofDigitsBelow?_eq_some_iff :
    ofDigitsBelow? limit s = some n ↔ n < limit ∧ ∃ plus zeros, (plus = [] ∨ plus = ['+']) ∧
      s = plus ++ (List.replicate zeros '0' ++ digits n) := by
  unfold ofDigitsBelow?
  split
  · rename_i rest
    rw [Option.filter_eq_some_iff, ofDigits?_eq_some_iff, decide_eq_true_eq, and_comm]
    refine and_congr_right fun _ => ⟨?_, ?_⟩
    · rintro ⟨zeros, rfl⟩
      exact ⟨['+'], zeros, .inr rfl, rfl⟩
    · rintro ⟨plus, zeros, rfl | rfl, same⟩
      · have read := ofDigits?_eq_some_iff.mpr ⟨zeros, same⟩
        exact absurd (read.symm.trans (ofDigits?_plus rest)) (by simp)
      · exact ⟨zeros, List.tail_eq_of_cons_eq same⟩
  · rename_i unsigned
    rw [Option.filter_eq_some_iff, ofDigits?_eq_some_iff, decide_eq_true_eq, and_comm]
    refine and_congr_right fun _ => ⟨?_, ?_⟩
    · rintro ⟨zeros, rfl⟩
      exact ⟨[], zeros, .inl rfl, rfl⟩
    · rintro ⟨plus, zeros, rfl | rfl, same⟩
      · exact ⟨zeros, same⟩
      · exact absurd same (unsigned _)

theorem isBlank_of_isDigit {c : Char} (h : isDigit c = true) : isBlank c = false := by
  have bounds := toNat_of_isDigit h
  exact isBlank_of_visible (by omega) (by omega)

/-- A numeral has a sign or a digit at either end. -/
theorem tight_numeral {plus : List Char} (signed : plus = [] ∨ plus = ['+']) (zeros n : Nat) :
    Tight (plus ++ (List.replicate zeros '0' ++ digits n)) := by
  have visible : ∀ c ∈ plus ++ (List.replicate zeros '0' ++ digits n), isBlank c = false := by
    intro c present
    rcases List.mem_append.mp present with sign | present
    · rcases signed with rfl | rfl
      · exact absurd sign List.not_mem_nil
      · exact List.mem_singleton.mp sign ▸ isBlank_of_visible (by decide) (by decide)
    rcases List.mem_append.mp present with zero | digit
    · exact isBlank_of_isDigit (List.eq_of_mem_replicate zero ▸ rfl)
    · exact isBlank_of_isDigit (List.all_eq_true.mp (digits_all_isDigit n) c digit)
  exact ⟨fun c first => visible c (List.mem_of_head? first),
    fun c last => visible c (List.mem_of_getLast? last)⟩

/-- The texts that are read as a number, blanks aside. -/
theorem ofDigitsBelow?_trimChars_eq_some_iff :
    ofDigitsBelow? limit (trimChars s) = some n ↔ n < limit ∧ SpellsNatural n s := by
  rw [ofDigitsBelow?_eq_some_iff]
  refine and_congr_right fun _ => ⟨?_, ?_⟩
  · rintro ⟨plus, zeros, signed, same⟩
    obtain ⟨front, back, -⟩ := same ▸ trims_trimChars s
    exact .numeral zeros front back signed
  · rintro ⟨zeros, front, back, signed⟩
    exact ⟨_, zeros, signed, trimChars_eq_iff.mpr (.around front back (tight_numeral signed zeros n))⟩

end Numerals

end EvmWallet.Text
