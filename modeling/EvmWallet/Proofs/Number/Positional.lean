import EvmWallet.Decimal
import EvmWallet.Proofs.Json.Grammar
import EvmWallet.Proofs.Text.Numerals
import Mathlib.Tactic.Ring

/-!
# Amounts in positional notation

Which texts have the digits of a mantissa with a point at a scale (`SpellsParts`). The text that is
written of an amount has those of its mantissa and its scale (`spellsParts_pointed`), and every such
text is read as that amount (`ofString?_of_spells`), the scale with it: zeros at the end of a
fraction count, zeros in front of a whole part do not.
-/

namespace EvmWallet

namespace Text

variable {n width : ℕ} {s : List Char}

/-- Digits behind a number move it by as many places. -/
theorem addDigits_eq (n : ℕ) (s : List Char) :
    addDigits n s = n * 10 ^ s.length + addDigits 0 s := by
  induction s using List.reverseRecOn with
  | nil => simp [addDigits]
  | append_singleton s c ih =>
    rw [addDigits_append, addDigits_append, ih, List.length_append, List.length_singleton]
    show 10 * (n * 10 ^ s.length + addDigits 0 s) + digitValue c =
      n * 10 ^ (s.length + 1) + (10 * addDigits 0 s + digitValue c)
    ring

theorem le_addDigits (n : ℕ) (s : List Char) : n ≤ addDigits n s := by
  have power : 0 < 10 ^ s.length := Nat.pow_pos (by decide)
  calc n ≤ n * 10 ^ s.length := Nat.le_mul_of_pos_right n power
    _ ≤ n * 10 ^ s.length + addDigits 0 s := Nat.le_add_right _ _
    _ = addDigits n s := (addDigits_eq n s).symm

/-- A number below a power of ten has no more digits than that. -/
theorem length_digits_le (some : 0 < width) (small : n < 10 ^ width) :
    (digits n).length ≤ width := by
  induction n using digits.induct generalizing width with
  | case1 n below =>
    rw [digits, if_pos below]
    exact some
  | case2 n large ih =>
    obtain ⟨front, rfl⟩ : ∃ front, width = front + 1 := ⟨width - 1, by omega⟩
    rw [pow_succ] at small
    have more : 0 < front := by
      apply Nat.pos_of_ne_zero
      rintro rfl
      omega
    have short : (digits (n / 10)).length ≤ front := ih more (by omega)
    rw [digits, if_neg large, List.length_append, List.length_singleton]
    omega

end Text

namespace Number

open Json (IsDigits)
open Text

theorem length_pad {width : ℕ} {s : List Char} (short : s.length ≤ width) :
    (pad width s).length = width := by
  rw [pad, List.length_append, List.length_replicate]
  omega

theorem addDigits_pad (width : ℕ) (s : List Char) : addDigits 0 (pad width s) = addDigits 0 s :=
  addDigits_replicate _ s

theorem isDigits_digits (n : ℕ) : IsDigits (digits n) :=
  ⟨digits_ne_nil n, List.all_eq_true.mp (digits_all_isDigit n)⟩

theorem isDigits_pad {s : List Char} (h : IsDigits s) (width : ℕ) : IsDigits (pad width s) := by
  refine ⟨List.append_ne_nil_of_right_ne_nil _ h.1, fun c present => ?_⟩
  rcases List.mem_append.mp present with zero | digit
  · rw [List.eq_of_mem_replicate zero]
    rfl
  · exact h.2 c digit

end Number

namespace Decimal

open Json (IsDigits)
open Text (isDigit digitValue addDigits)

/-! ## Texts -/

/-- The digits of a mantissa, with the last `scale` of them behind a point if there are any. -/
inductive SpellsParts (mantissa : ℕ) : ℕ → List Char → Prop where
  | whole {w : List Char} : IsDigits w → addDigits 0 w = mantissa → SpellsParts mantissa 0 w
  | pointed {w f : List Char} : IsDigits w → IsDigits f → addDigits 0 (w ++ f) = mantissa →
      SpellsParts mantissa f.length (w ++ '.' :: f)

theorem spellsParts_pointed (mantissa scale : ℕ) :
    SpellsParts mantissa scale (Number.pointed mantissa scale) := by
  unfold Number.pointed
  split
  · rename_i zero
    rw [zero]
    exact .whole (Number.isDigits_digits mantissa) (Text.addDigits_digits mantissa)
  · rename_i fraction
    have positive : 0 < scale := Nat.pos_of_ne_zero fraction
    have power : 0 < Nat.pow 10 scale := Nat.pow_pos (by decide)
    have short : (Text.digits (mantissa % Nat.pow 10 scale)).length ≤ scale :=
      Text.length_digits_le positive (Nat.mod_lt mantissa power)
    have long := Number.length_pad short
    have value : addDigits 0 (Text.digits (mantissa / Nat.pow 10 scale) ++
        Number.pad scale (Text.digits (mantissa % Nat.pow 10 scale))) = mantissa := by
      rw [Text.addDigits_append, Text.addDigits_eq, long, Number.addDigits_pad,
        Text.addDigits_digits, Text.addDigits_digits]
      exact Nat.div_add_mod' mantissa (10 ^ scale)
    have spelled := SpellsParts.pointed (Number.isDigits_digits (mantissa / Nat.pow 10 scale))
      (Number.isDigits_pad (Number.isDigits_digits (mantissa % Nat.pow 10 scale)) scale) value
    rwa [long] at spelled

/-! ## Reading -/

section Reading

variable {negative : Bool} {p : Progress} {mantissa scale : ℕ} {c : Char} {s t : List Char}

/-- What has been read behind digits. -/
def Progress.behind (p : Progress) (s : List Char) : Progress :=
  ⟨addDigits p.mantissa s, if p.pointed then p.scale + s.length else 0, p.pointed, true⟩

theorem Progress.behind_cons (p : Progress) (c : Char) (s : List Char) :
    (p.behind [c]).behind s = p.behind (c :: s) := by
  cases pointed : p.pointed with
  | false => simp [behind, pointed, addDigits]
  | true =>
    simp [behind, pointed, addDigits]
    omega

theorem readDigits_cons (digit : isDigit c = true) (room : p.pointed = true → p.scale < 28)
    (small : addDigits p.mantissa [c] < Nat.pow 2 96) :
    readDigits negative p (c :: t) = readDigits negative (p.behind [c]) t := by
  have more : ¬((p.pointed && decide (28 ≤ p.scale)) = true) := by simpa using room
  have fits : 10 * p.mantissa + digitValue c < Nat.pow 2 96 := small
  rw [readDigits, if_neg more, if_pos digit, if_pos fits]
  rfl

/-- Digits that fit are taken one after the other. -/
theorem readDigits_append (digits : IsDigits s)
    (room : p.pointed = true → p.scale + s.length ≤ 28)
    (small : addDigits p.mantissa s < Nat.pow 2 96) :
    readDigits negative p (s ++ t) = readDigits negative (p.behind s) t := by
  induction s generalizing p with
  | nil => exact absurd rfl digits.1
  | cons c s ih =>
    have first : isDigit c = true := digits.2 c List.mem_cons_self
    have grows : addDigits p.mantissa [c] ≤ addDigits p.mantissa (c :: s) := Text.le_addDigits _ s
    have here : p.pointed = true → p.scale < 28 := by
      intro pointed
      have within := room pointed
      rw [List.length_cons] at within
      omega
    rw [List.cons_append, readDigits_cons first here (grows.trans_lt small)]
    rcases s with _ | ⟨d, s⟩
    · rfl
    · rw [← p.behind_cons c (d :: s)]
      apply ih
      · exact ⟨List.cons_ne_nil d s, fun e later => digits.2 e (List.mem_cons_of_mem c later)⟩
      · intro pointed
        have within := room pointed
        have scale : (p.behind [c]).scale = p.scale + 1 := if_pos pointed
        rw [scale]
        rw [List.length_cons] at within
        omega
      · exact small

theorem readDigits_end (p : Progress) (s : List Char) :
    readDigits negative (p.behind s) [] =
      ofParts? negative (addDigits p.mantissa s) (if p.pointed then p.scale + s.length else 0) := by
  rw [readDigits]
  exact if_pos rfl

/-- A mantissa that fits, at a scale that there is, is read with that scale. -/
theorem readDigits_of_spells (h : SpellsParts mantissa scale t) (fits : mantissa < Nat.pow 2 96)
    (within : scale ≤ 28) :
    readDigits negative ⟨0, 0, false, false⟩ t = ofParts? negative mantissa scale := by
  have unpointed {q : Progress} (whole : q.pointed = false) {w : List Char} :
      q.pointed = true → q.scale + w.length ≤ 28 := by
    intro pointed
    exact absurd pointed (by simp [whole])
  cases h with
  | whole digits value =>
    subst value
    rw [← List.append_nil t] at fits ⊢
    rw [readDigits_append digits (unpointed rfl) (by rwa [List.append_nil] at fits),
      readDigits_end, List.append_nil]
    rfl
  | @pointed w f digits fraction value =>
    subst value
    rw [Text.addDigits_append] at fits ⊢
    have front : addDigits 0 w < Nat.pow 2 96 := (Text.le_addDigits _ f).trans_lt fits
    have point : readDigits negative ⟨addDigits 0 w, 0, false, true⟩ ('.' :: (f ++ [])) =
        readDigits negative ⟨addDigits 0 w, 0, true, true⟩ (f ++ []) := rfl
    have room : 0 + f.length ≤ 28 := by rwa [Nat.zero_add]
    rw [readDigits_append digits (unpointed rfl) front, ← List.append_nil f]
    refine point.trans ?_
    rw [readDigits_append fraction (fun _ => room) fits, readDigits_end, List.append_nil,
      if_pos rfl, Nat.zero_add]

end Reading

/-! ## Amounts -/

variable {d : Decimal} {t : List Char}

theorem SpellsParts.head {mantissa scale : ℕ} (h : SpellsParts mantissa scale t) :
    ∃ c rest, t = c :: rest ∧ isDigit c = true := by
  have first {w : List Char} (digits : IsDigits w) (back : List Char) :
      ∃ c rest, w ++ back = c :: rest ∧ isDigit c = true := by
    obtain ⟨c, rest, rfl⟩ := List.exists_cons_of_ne_nil digits.1
    exact ⟨c, rest ++ back, rfl, digits.2 c List.mem_cons_self⟩
  cases h with
  | whole digits _ =>
    rw [← List.append_nil t]
    exact first digits []
  | pointed digits _ _ => exact first digits _

/-- A sign, or its absence, is told from a digit. -/
theorem ofPositional?_of_spells (negative : Bool) {mantissa scale : ℕ}
    (h : SpellsParts mantissa scale t) :
    ofPositional? ((if negative then ['-'] else []) ++ t) =
      readDigits negative ⟨0, 0, false, false⟩ t := by
  obtain ⟨c, rest, rfl, digit⟩ := h.head
  cases negative with
  | true => rfl
  | false =>
    show ofPositional? (c :: rest) = _
    unfold ofPositional?
    split
    · rename_i none
      exact absurd none (List.cons_ne_nil c rest)
    · rename_i minus
      obtain ⟨rfl, -⟩ := List.cons.inj minus
      exact absurd digit (by decide)
    · rename_i plus
      obtain ⟨rfl, -⟩ := List.cons.inj plus
      exact absurd digit (by decide)
    · rfl

/-- An amount is its parts, unless it is a zero with a minus. -/
theorem ofParts?_self (signed : d.mantissa = 0 → d.negative = false) :
    ofParts? d.negative d.mantissa d.scale = some d := by
  have sign : (d.negative && d.mantissa != 0) = d.negative := by
    by_cases zero : d.mantissa = 0
    · rw [signed zero]
      rfl
    · simp [zero]
  rw [ofParts?, dif_pos ⟨d.mantissa_lt, d.scale_le⟩]
  simp only [sign]

/-- An amount is read from each text of its digits, with its scale. -/
theorem ofString?_of_spells (signed : d.mantissa = 0 → d.negative = false)
    (h : SpellsParts d.mantissa d.scale t) :
    ofString? (String.ofList ((if d.negative then ['-'] else []) ++ t)) = some d := by
  rw [ofString?, String.toList_ofList, ofPositional?_of_spells d.negative h,
    readDigits_of_spells h d.mantissa_lt d.scale_le, ofParts?_self signed]
  rfl

theorem ofString?_toString (signed : d.mantissa = 0 → d.negative = false) :
    ofString? (toString d) = some d :=
  ofString?_of_spells signed (spellsParts_pointed d.mantissa d.scale)

end Decimal

end EvmWallet
