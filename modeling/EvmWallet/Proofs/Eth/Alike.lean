import EvmWallet.Proofs.Eth.Spellings
import EvmWallet.Text.Case
import Mathlib.Data.List.Forall2

/-!
# Spellings of one address

Texts of addresses are compared up to the case of their letters. Two that are equal in this way are
texts of one address. The converse holds for texts that are laid out alike (`Alike`), so that only their
digits may differ: `sameUpToAsciiCase_iff_alike`.
-/

namespace EvmWallet.Eth.Address

open Bytes (HexDigit SpellsBytes)
open Text (Blanks asciiLowerChar)

/-! ## Letters in lower case -/

section Lower

variable {c d : Char} {n : Nat} {s t : List Char} {a b : Address}

theorem asciiLowerChar_digit (h : HexDigit n c) : asciiLowerChar c = Bytes.hexDigit n := by
  obtain ⟨small, rfl | rfl⟩ := h
  all_goals interval_cases n <;> rfl

/-- White space has no case. -/
theorem asciiLowerChar_blank (h : Text.isBlank c = true) : asciiLowerChar c = c := by
  refine if_neg fun capital => ?_
  have low : 65 ≤ c.toNat := Char.le_def.mp capital.1
  have high : c.toNat ≤ 90 := Char.le_def.mp capital.2
  have visible := Text.isBlank_of_visible (show 0x21 ≤ c.toNat by omega) (by omega)
  exact absurd h (by simp [visible])

theorem isBlank_of_isGap (h : isGap c = true) : Text.isBlank c = true := by
  have gap : ((c = ' ' ∨ c = '\t') ∨ c = '\r') ∨ c = '\n' := by simpa [isGap] using h
  rcases gap with ((rfl | rfl) | rfl) | rfl <;> decide

/-- The characters that a text of an address may have. -/
inductive Letter (c : Char) : Prop where
  | blank : Text.isBlank c = true → Letter c
  | mark : c = 'x' → Letter c
  | digit {n : Nat} : HexDigit n c → Letter c

theorem Written.letters (h : Written a s) : ∀ c ∈ s, Letter c := by
  rcases h with ⟨front, back, mark, spelled⟩
  obtain ⟨-, digits⟩ := Bytes.exists_spellsBytes_iff.mp ⟨_, spelled, rfl⟩
  intro c present
  rcases List.mem_append.mp present with early | present
  · exact .blank (front c early)
  rcases List.mem_append.mp present with present | late
  · rcases List.mem_append.mp present with marks | present
    · rcases mark with rfl | rfl
      · exact absurd marks List.not_mem_nil
      · rcases List.mem_pair.mp marks with rfl | rfl
        · exact .digit (show HexDigit 0 '0' from ⟨by decide, .inl rfl⟩)
        · exact .mark rfl
    · by_cases gap : isGap c = true
      · exact .blank (isBlank_of_isGap gap)
      · obtain ⟨n, digit⟩ := digits c (List.mem_filter.mpr ⟨present, by simp [gap]⟩)
        exact .digit digit
  · exact .blank (back c late)

/-- The lower case of digits depends on nothing but their bytes. -/
theorem lower_of_spellsBytes {bytes : List UInt8} (h : SpellsBytes bytes s) :
    s.map asciiLowerChar = Bytes.hexChars bytes := by
  induction h with
  | nil => rfl
  | cons high low _ ih =>
    rw [List.map_cons, List.map_cons, asciiLowerChar_digit high, asciiLowerChar_digit low, ih]
    rfl

theorem hexChars_inj {bytes others : List UInt8} :
    Bytes.hexChars bytes = Bytes.hexChars others ↔ bytes = others := by
  refine ⟨fun same => ?_, congrArg _⟩
  have read := Bytes.ofHexChars?_eq_some_iff.mpr (Bytes.spellsBytes_hexChars bytes)
  rw [same, Bytes.ofHexChars?_eq_some_iff.mpr (Bytes.spellsBytes_hexChars others)] at read
  exact (Option.some.inj read).symm

end Lower

/-! ## Layouts -/

/-- The same character, or a digit in the place of a digit. -/
def SamePlace (c d : Char) : Prop := c = d ∨ (∃ m, HexDigit m c) ∧ ∃ n, HexDigit n d

/-- Two texts that differ in nothing but which digits stand in their places. -/
def Alike (s t : List Char) : Prop := List.Forall₂ SamePlace s t

section Alike

variable {c d : Char} {s t first second : List Char} {a b : Address}

theorem alike_refl (s : List Char) : Alike s s := List.forall₂_same.mpr fun _ _ => .inl rfl

theorem SamePlace.eq_of_not_digit (h : SamePlace c d) (other : ∀ n, ¬HexDigit n c) : d = c := by
  rcases h with same | ⟨⟨n, digit⟩, -⟩
  · exact same.symm
  · exact absurd digit (other n)

theorem SamePlace.eq_of_blank (h : SamePlace c d) (blank : Text.isBlank c = true) : d = c := by
  refine h.eq_of_not_digit fun n digit => ?_
  obtain ⟨low, high⟩ := digit.bounds
  have visible := Text.isBlank_of_visible (show 0x21 ≤ c.toNat by omega) (by omega)
  exact absurd blank (by simp [visible])

theorem SamePlace.isGap_eq (h : SamePlace c d) : isGap d = isGap c := by
  rcases h with rfl | ⟨⟨m, digit⟩, ⟨n, digit'⟩⟩
  · rfl
  · rw [isGap_of_digit digit, isGap_of_digit digit']

theorem Letter.lower_of_not_digit (h : Letter c) (other : ∀ n, ¬HexDigit n c) :
    asciiLowerChar c = c := by
  cases h with
  | blank blank => exact asciiLowerChar_blank blank
  | mark mark => exact mark ▸ rfl
  | digit digit => exact absurd digit (other _)

/-- Letters of the same lower case are the same, or digits. -/
theorem Letter.samePlace (h : Letter c) (h' : Letter d)
    (same : asciiLowerChar c = asciiLowerChar d) : SamePlace c d := by
  have written {n : Nat} (small : n < 16) : HexDigit n (Bytes.hexDigit n) := ⟨small, .inl rfl⟩
  by_cases digit : ∃ m, HexDigit m c
  · refine .inr ⟨digit, ?_⟩
    by_contra other
    obtain ⟨m, digit⟩ := digit
    rw [asciiLowerChar_digit digit, h'.lower_of_not_digit (not_exists.mp other)] at same
    exact other ⟨m, same ▸ written digit.1⟩
  · have fixed := h.lower_of_not_digit (not_exists.mp digit)
    by_cases digit' : ∃ n, HexDigit n d
    · obtain ⟨n, digit'⟩ := digit'
      rw [fixed, asciiLowerChar_digit digit'] at same
      exact absurd ⟨n, same ▸ written digit'.1⟩ digit
    · rw [fixed, h'.lower_of_not_digit (not_exists.mp digit')] at same
      exact .inl same

theorem alike_of_lower (letters : ∀ c ∈ s, Letter c) (letters' : ∀ d ∈ t, Letter d)
    (same : s.map asciiLowerChar = t.map asciiLowerChar) : Alike s t := by
  induction s generalizing t with
  | nil =>
    rw [List.map_nil, eq_comm, List.map_eq_nil_iff] at same
    exact same ▸ .nil
  | cons c s ih =>
    obtain ⟨d, t, rfl, first, rest⟩ := List.map_eq_cons_iff.mp same.symm
    rw [List.forall_mem_cons] at letters letters'
    exact .cons (letters.1.samePlace letters'.1 first.symm) (ih letters.2 letters'.2 rest.symm)

theorem Alike.append (h : Alike (first ++ second) t) :
    ∃ t₁ t₂, t = t₁ ++ t₂ ∧ Alike first t₁ ∧ Alike second t₂ := by
  induction first generalizing t with
  | nil => exact ⟨[], t, rfl, .nil, h⟩
  | cons c first ih =>
    obtain ⟨d, t, place, rest, rfl⟩ := List.forall₂_cons_left_iff.mp h
    obtain ⟨t₁, t₂, rfl, alike, alike'⟩ := ih rest
    exact ⟨d :: t₁, t₂, rfl, .cons place alike, alike'⟩

theorem Alike.blanks (h : Alike s t) (blanks : Blanks s) : t = s := by
  induction h with
  | nil => rfl
  | cons place _ ih =>
    obtain ⟨blank, rest⟩ := List.forall_mem_cons.mp blanks
    rw [place.eq_of_blank blank, ih rest]

/-- Where a text has a gap, one that is laid out alike has the same. -/
theorem Alike.digits (h : Alike s t) (digits : ∀ c ∈ withoutGaps s, ∃ n, HexDigit n c) :
    ∀ d ∈ withoutGaps t, ∃ n, HexDigit n d := by
  induction h with
  | nil => exact digits
  | @cons c d s t place _ ih =>
    by_cases gap : isGap c = true
    · rw [withoutGaps_gap gap] at digits
      rw [withoutGaps_gap (place.isGap_eq.trans gap)]
      exact ih digits
    · have other : isGap c = false := by simpa using gap
      rw [withoutGaps_other other, List.forall_mem_cons] at digits
      rw [withoutGaps_other (place.isGap_eq.trans other), List.forall_mem_cons]
      refine ⟨?_, ih digits.2⟩
      rcases place with rfl | ⟨-, digit⟩
      · exact digits.1
      · exact digit

/-- Gaps make no difference between texts that are laid out alike. -/
theorem Alike.lower_iff (h : Alike s t) :
    s.map asciiLowerChar = t.map asciiLowerChar ↔
      (withoutGaps s).map asciiLowerChar = (withoutGaps t).map asciiLowerChar := by
  induction h with
  | nil => rfl
  | @cons c d s t place _ ih =>
    rw [List.map_cons, List.map_cons, List.cons.injEq]
    by_cases gap : isGap c = true
    · obtain rfl := place.eq_of_blank (isBlank_of_isGap gap)
      rw [withoutGaps_gap gap, withoutGaps_gap gap, ih]
      exact and_iff_right rfl
    · have other : isGap c = false := by simpa using gap
      rw [withoutGaps_other other, withoutGaps_other (place.isGap_eq.trans other), List.map_cons,
        List.map_cons, List.cons.injEq, ih]

/-- Only a zero stands in front of the `x` of a mark. -/
theorem Written.mark_zero {front back : List Char} (blanks : Blanks front) (blanks' : Blanks back)
    {n : Nat} (digit : HexDigit n c) (h : Written a (front ++ ((c :: 'x' :: s) ++ back))) :
    c = '0' := by
  by_contra other
  have read := ofChars?_eq_some_iff_written.mpr h
  obtain ⟨low, high⟩ := digit.bounds
  have visible := Text.isBlank_of_visible (show 0x21 ≤ c.toNat by omega) (by omega)
  obtain ⟨t, b, rfl, -, trimmed⟩ :=
    Text.trimChars_visible visible (show Text.isBlank 'x' = false by decide) s
  have unmarked : ∀ rest, c :: 'x' :: t ≠ '0' :: 'x' :: rest :=
    fun rest same => other (List.cons.inj same).1
  rw [ofChars?_eq_some_iff (remains_iff.mpr rfl), Text.trimChars_around blanks blanks', trimmed,
    dropMark_of_unmarked unmarked] at read
  -- The `x` would be one of the digits.
  obtain ⟨-, digits⟩ := Bytes.exists_spellsBytes_iff.mp ⟨_, read, rfl⟩
  obtain ⟨n, x⟩ := digits 'x' (List.mem_filter.mpr ⟨by simp, by decide⟩)
  exact absurd x.bounds.2 (by decide)

/-- Spellings that are laid out alike have the same lower case if they are of the same address. -/
theorem Alike.lower_eq_iff (alike : Alike s t) (h : Written a s) (h' : Written b t) :
    s.map asciiLowerChar = t.map asciiLowerChar ↔ a = b := by
  rcases h with ⟨front, back, mark, spelled⟩
  rename_i f m body g
  obtain ⟨f', _, rfl, first, alike⟩ := alike.append
  obtain ⟨_, g', rfl, alike, last⟩ := alike.append
  obtain ⟨m', body', rfl, marks, bodies⟩ := alike.append
  obtain rfl := first.blanks front
  obtain rfl := last.blanks back
  obtain ⟨-, digits⟩ := Bytes.exists_spellsBytes_iff.mp ⟨_, spelled, rfl⟩
  have digits' := bodies.digits digits
  have read := ofChars?_eq_some_iff_written.mpr h'
  rw [ofChars?_eq_some_iff (remains_iff.mpr rfl), Text.trimChars_around front back] at read
  have both : m' = m ∧ SpellsBytes b.bytes (withoutGaps body') := by
    rcases mark with rfl | rfl
    · obtain rfl := List.forall₂_nil_left_iff.mp marks
      rw [List.nil_append, remains_digits digits'] at read
      exact ⟨rfl, read⟩
    · obtain ⟨c, _, zero, behind, rfl⟩ := List.forall₂_cons_left_iff.mp marks
      obtain ⟨d, _, x, none, rfl⟩ := List.forall₂_cons_left_iff.mp behind
      obtain rfl := List.forall₂_nil_left_iff.mp none
      obtain rfl : d = 'x' := x.eq_of_not_digit fun n digit => absurd digit.bounds.2 (by decide)
      obtain rfl : c = '0' := by
        rcases zero with same | ⟨-, n, digit⟩
        · exact same.symm
        · exact Written.mark_zero front back digit h'
      rw [List.cons_append, List.cons_append, List.nil_append, remains_marked digits'] at read
      exact ⟨rfl, read⟩
  obtain ⟨rfl, spelled'⟩ := both
  simp only [List.map_append, List.append_cancel_left_eq, List.append_cancel_right_eq]
  rw [bodies.lower_iff, lower_of_spellsBytes spelled, lower_of_spellsBytes spelled', hexChars_inj]
  refine ⟨fun same => ?_, fun same => congrArg Address.bytes same⟩
  cases a
  cases b
  exact (mk.injEq ..).mpr same

end Alike

/-- Texts of addresses are equal up to case if they are texts of one address and laid out alike. -/
theorem sameUpToAsciiCase_iff_alike {s t : String} {a b : Address} (h : ofString s = .ok a)
    (h' : ofString t = .ok b) :
    Text.sameUpToAsciiCase s t = true ↔ a = b ∧ Alike s.toList t.toList := by
  rw [ofString_eq_ok_iff, ofChars?_eq_some_iff_written] at h h'
  rw [Text.sameUpToAsciiCase_iff, Text.asciiLower, Text.asciiLower, String.ofList_inj]
  constructor
  · intro same
    have alike := alike_of_lower h.letters h'.letters same
    exact ⟨(alike.lower_eq_iff h h').mp same, alike⟩
  · rintro ⟨same, alike⟩
    exact (alike.lower_eq_iff h h').mpr same

end EvmWallet.Eth.Address
