import EvmWallet.Eth.Address
import EvmWallet.Proofs.Text.Numerals
import Mathlib.Tactic.IntervalCases

/-!
# The spellings of an address

`Written a s` says that the characters `s` spell an address: its bytes as pairs of digits of either
case, with gaps anywhere among them, `0x` in front or not, and white space around. These are all the
texts that are read as the address (`address_of_text`). What a text leaves when white space, mark and
gaps are taken away (`Remains`) decides alone. A reader that goes from digit to digit (`nextBytes?`)
up to the twentieth byte, and then asks whether there are only gaps left, finds the same.
-/

namespace EvmWallet.Bytes

/-! ## Digits -/

/-- A hexadecimal digit of either case, by its value. -/
def HexDigit (n : Nat) (c : Char) : Prop := n < 16 ∧ (c = hexDigit n ∨ c = (hexDigit n).toUpper)

/-- Bytes as pairs of digits, high half first. -/
inductive SpellsBytes : List UInt8 → List Char → Prop where
  | nil : SpellsBytes [] []
  | cons {b : UInt8} {bytes : List UInt8} {high low : Char} {s : List Char} :
      HexDigit (b.toNat / 16) high → HexDigit (b.toNat % 16) low → SpellsBytes bytes s →
      SpellsBytes (b :: bytes) (high :: low :: s)

theorem hexDigit_toUpper {k : Nat} (h : 65 ≤ k) (h' : k ≤ 70) :
    (hexDigit (k - 55)).toUpper = Char.ofNat k := by
  interval_cases k <;> rfl

theorem hexValue?_eq_some_iff {c : Char} {n : Nat} : hexValue? c = some n ↔ HexDigit n c := by
  constructor
  · intro read
    unfold hexValue? at read
    split at read
    · rename_i digit
      have low : 48 ≤ c.toNat := Char.le_def.mp digit.1
      have high : c.toNat ≤ 57 := Char.le_def.mp digit.2
      obtain rfl := Option.some.inj read
      have same : 48 + (c.toNat - 48) = c.toNat := by omega
      refine ⟨by omega, .inl ?_⟩
      rw [hexDigit, if_pos (by omega), same, Char.ofNat_toNat]
    split at read
    · rename_i letter
      have low : 97 ≤ c.toNat := Char.le_def.mp letter.1
      have high : c.toNat ≤ 102 := Char.le_def.mp letter.2
      obtain rfl := Option.some.inj read
      have same : 87 + (c.toNat - 87) = c.toNat := by omega
      refine ⟨by omega, .inl ?_⟩
      rw [hexDigit, if_neg (by omega), same, Char.ofNat_toNat]
    split at read
    · rename_i capital
      have low : 65 ≤ c.toNat := Char.le_def.mp capital.1
      have high : c.toNat ≤ 70 := Char.le_def.mp capital.2
      obtain rfl := Option.some.inj read
      refine ⟨by omega, .inr ?_⟩
      rw [hexDigit_toUpper low high, Char.ofNat_toNat]
    · exact absurd read (by simp)
  · rintro ⟨small, rfl | rfl⟩
    · exact hexValue?_hexDigit small
    · rcases n with _ | _ | _ | _ | _ | _ | _ | _ | _ | _ | _ | _ | _ | _ | _ | _ | n
      all_goals first | rfl | omega

/-- Every digit lies between `0` and `f`. -/
theorem HexDigit.bounds {n : Nat} {c : Char} (h : HexDigit n c) : 48 ≤ c.toNat ∧ c.toNat ≤ 102 := by
  obtain ⟨small, rfl | rfl⟩ := h
  all_goals interval_cases n <;> decide

/-- A byte has its own halves. -/
theorem ofNat_halves (b : UInt8) : UInt8.ofNat (16 * (b.toNat / 16) + b.toNat % 16) = b := by
  have whole : 16 * (b.toNat / 16) + b.toNat % 16 = b.toNat := by omega
  rw [whole, UInt8.ofNat_toNat]

theorem halves_ofNat {high low : Nat} (h : high < 16) (l : low < 16) :
    (UInt8.ofNat (16 * high + low)).toNat / 16 = high ∧
      (UInt8.ofNat (16 * high + low)).toNat % 16 = low := by
  have value : (UInt8.ofNat (16 * high + low)).toNat = 16 * high + low :=
    UInt8.toNat_ofNat_of_lt' (show 16 * high + low < 256 by omega)
  omega

theorem ofHexChars?_eq_some_iff {s : List Char} {bytes : List UInt8} :
    ofHexChars? s = some bytes ↔ SpellsBytes bytes s := by
  induction s using ofHexChars?.induct generalizing bytes with
  | case1 =>
    constructor
    · intro read
      exact Option.some.inj read ▸ .nil
    · rintro ⟨⟩
      rfl
  | case2 h l rest ih =>
    constructor
    · intro read
      obtain ⟨high, first, read⟩ := Option.bind_eq_some_iff.mp read
      obtain ⟨low, second, read⟩ := Option.bind_eq_some_iff.mp read
      obtain ⟨bytes, others, read⟩ := Option.bind_eq_some_iff.mp read
      obtain rfl := Option.some.inj read
      have first := hexValue?_eq_some_iff.mp first
      have second := hexValue?_eq_some_iff.mp second
      obtain ⟨left, right⟩ := halves_ofNat first.1 second.1
      exact .cons (left.symm ▸ first) (right.symm ▸ second) (ih.mp others)
    · intro spelled
      cases spelled with
      | cons first second others =>
        rw [ofHexChars?, hexValue?_eq_some_iff.mpr first, hexValue?_eq_some_iff.mpr second,
          ih.mpr others]
        exact congrArg (fun b => some (b :: _)) (ofNat_halves _)
  | case3 c =>
    constructor
    · intro read
      exact absurd read (by simp [ofHexChars?])
    · rintro ⟨⟩

/-- Digits spell bytes if there is an even number of them. -/
theorem exists_spellsBytes_iff {n : Nat} {s : List Char} :
    (∃ bytes, SpellsBytes bytes s ∧ bytes.length = n) ↔
      s.length = 2 * n ∧ ∀ c ∈ s, ∃ d, HexDigit d c := by
  induction s using ofHexChars?.induct generalizing n with
  | case1 =>
    constructor
    · rintro ⟨_, ⟨⟩, rfl⟩
      exact ⟨rfl, by simp⟩
    · rintro ⟨none, -⟩
      exact ⟨[], .nil, by simpa [eq_comm] using none⟩
  | case2 h l rest ih =>
    rw [List.forall_mem_cons, List.forall_mem_cons]
    constructor
    · rintro ⟨bytes, spelled, rfl⟩
      cases spelled with
      | cons first second others =>
        obtain ⟨even, digits⟩ := ih.mp ⟨_, others, rfl⟩
        refine ⟨?_, ⟨_, first⟩, ⟨_, second⟩, digits⟩
        simp only [List.length_cons]
        omega
    · rintro ⟨even, ⟨high, first⟩, ⟨low, second⟩, digits⟩
      simp only [List.length_cons] at even
      obtain ⟨bytes, others, count⟩ := ih.mpr ⟨show rest.length = 2 * (n - 1) by omega, digits⟩
      obtain ⟨left, right⟩ := halves_ofNat first.1 second.1
      refine ⟨_, .cons (left.symm ▸ first) (right.symm ▸ second) others, ?_⟩
      rw [List.length_cons]
      omega
  | case3 c =>
    constructor
    · rintro ⟨_, ⟨⟩, _⟩
    · rintro ⟨odd, -⟩
      exact absurd odd (by simp; omega)

theorem spellsBytes_hexChars (bytes : List UInt8) : SpellsBytes bytes (hexChars bytes) := by
  induction bytes with
  | nil => exact .nil
  | cons b bytes ih =>
    have small := b.toNat_lt
    exact .cons ⟨by omega, .inl rfl⟩ ⟨by omega, .inl rfl⟩ ih

end EvmWallet.Bytes

namespace EvmWallet.Eth.Address

open Bytes (HexDigit SpellsBytes)
open Text (Blanks Tight Trims)

/-! ## Gaps -/

/-- A text without its gaps. -/
def withoutGaps (s : List Char) : List Char := s.filter (!isGap ·)

section Gaps

variable {s t : List Char} {c : Char}

theorem withoutGaps_gap (h : isGap c = true) (s : List Char) :
    withoutGaps (c :: s) = withoutGaps s := List.filter_cons_of_neg (by simp [h])

theorem withoutGaps_other (h : isGap c = false) (s : List Char) :
    withoutGaps (c :: s) = c :: withoutGaps s := List.filter_cons_of_pos (by simp [h])

theorem withoutGaps_append (s t : List Char) :
    withoutGaps (s ++ t) = withoutGaps s ++ withoutGaps t := List.filter_append s t

theorem withoutGaps_eq_nil_iff : withoutGaps s = [] ↔ ∀ c ∈ s, isGap c = true := by
  simp [withoutGaps]

/-- Where all but the gaps are digits, white space is nothing but gaps. -/
theorem withoutGaps_of_blanks (digits : ∀ c ∈ withoutGaps s, ∃ d, HexDigit d c) (part : t ⊆ s)
    (blanks : Blanks t) : withoutGaps t = [] := by
  rw [withoutGaps_eq_nil_iff]
  intro c present
  by_contra other
  obtain ⟨d, digit⟩ := digits c (List.mem_filter.mpr ⟨part present, by simp [other]⟩)
  obtain ⟨low, high⟩ := digit.bounds
  have visible := Text.isBlank_of_visible (show 0x21 ≤ c.toNat by omega) (by omega)
  exact absurd (blanks c present) (by simp [visible])

theorem isGap_of_digit {d : Nat} (digit : HexDigit d c) : isGap c = false := by
  have low := digit.bounds.1
  have other : ∀ g : Char, g.toNat < 48 → c ≠ g := by
    rintro g small rfl
    omega
  simp [isGap, other]

theorem withoutGaps_of_digits (digits : ∀ c ∈ s, ∃ d, HexDigit d c) : withoutGaps s = s := by
  refine List.filter_eq_self.mpr fun c present => ?_
  obtain ⟨d, digit⟩ := digits c present
  simp [isGap_of_digit digit]

end Gaps

/-! ## What a text leaves -/

/-- What is left of a text without the white space around it, without one `0x` in front of that, and
without gaps. -/
inductive Remains : List Char → List Char → Prop where
  | marked {s rest : List Char} : Trims s ('0' :: 'x' :: rest) → Remains s (withoutGaps rest)
  | plain {s t : List Char} : Trims s t → (∀ rest, t ≠ '0' :: 'x' :: rest) →
      Remains s (withoutGaps t)

section Remains

variable {s t digits : List Char} {a : Address}

theorem dropMark_of_unmarked (h : ∀ rest, t ≠ '0' :: 'x' :: rest) : dropMark t = t := by
  unfold dropMark
  split
  · exact absurd rfl (h _)
  · rfl

/-- Every text leaves one text. -/
theorem remains_iff : Remains s digits ↔ digits = withoutGaps (dropMark (Text.trimChars s)) := by
  constructor
  · rintro (trims | ⟨trims, unmarked⟩)
    · rw [Text.trimChars_eq_iff.mpr trims]
      rfl
    · rw [Text.trimChars_eq_iff.mpr trims, dropMark_of_unmarked unmarked]
  · rintro rfl
    have trims := Text.trims_trimChars s
    by_cases marked : ∃ rest, Text.trimChars s = '0' :: 'x' :: rest
    · obtain ⟨rest, same⟩ := marked
      rw [same] at trims ⊢
      exact .marked trims
    · have unmarked := not_exists.mp marked
      rw [dropMark_of_unmarked unmarked]
      exact .plain trims unmarked

/-- A text is read as the address whose bytes its remains spell. -/
theorem ofChars?_eq_some_iff (remains : Remains s digits) :
    ofChars? s = some a ↔ SpellsBytes a.bytes digits := by
  obtain rfl := remains_iff.mp remains
  rw [← Bytes.ofHexChars?_eq_some_iff]
  unfold ofChars? withoutGaps
  cases Bytes.ofHexChars? _ with
  | none => simp
  | some bytes =>
    rw [Option.some_inj]
    constructor
    · intro read
      obtain ⟨_, same⟩ := Option.dite_none_right_eq_some.mp read
      exact Option.some.inj same ▸ rfl
    · rintro rfl
      exact dif_pos a.length_eq

end Remains

/-! ## Reading digit by digit -/

/-- The value of the next digit behind gaps, with what follows it. -/
def nextDigit? : List Char → Option (Nat × List Char)
  | [] => none
  | c :: s => if isGap c then nextDigit? s else (Bytes.hexValue? c).map (·, s)

/-- The next bytes, with what follows them. -/
def nextBytes? : Nat → List Char → Option (List UInt8 × List Char)
  | 0, s => some ([], s)
  | n + 1, s => do
    let (high, s) ← nextDigit? s
    let (low, s) ← nextDigit? s
    let (bytes, s) ← nextBytes? n s
    return (UInt8.ofNat (16 * high + low) :: bytes, s)

section Next

variable {s t : List Char} {n d : Nat}

/-- The next digit is the first character that is no gap. -/
theorem nextDigit?_iff : (∃ rest, nextDigit? s = some (d, rest) ∧ withoutGaps rest = t) ↔
    ∃ c, HexDigit d c ∧ withoutGaps s = c :: t := by
  induction s with
  | nil => simp [nextDigit?, withoutGaps]
  | cons c s ih =>
    by_cases gap : isGap c = true
    · rw [nextDigit?, if_pos gap, withoutGaps_gap gap]
      exact ih
    · rw [nextDigit?, if_neg gap, withoutGaps_other (by simpa using gap)]
      constructor
      · rintro ⟨rest, read, rfl⟩
        obtain ⟨k, value, same⟩ := Option.map_eq_some_iff.mp read
        obtain ⟨rfl, rfl⟩ := Prod.mk.inj same
        exact ⟨c, Bytes.hexValue?_eq_some_iff.mp value, rfl⟩
      · rintro ⟨b, digit, same⟩
        obtain ⟨rfl, rfl⟩ := List.cons.inj same
        exact ⟨s, by rw [Bytes.hexValue?_eq_some_iff.mpr digit]; rfl, rfl⟩

/-- Bytes that are read one after the other, with nothing but gaps behind them, are those that a
text spells without its gaps. -/
theorem nextBytes?_iff {bytes : List UInt8} :
    (∃ rest, nextBytes? n s = some (bytes, rest) ∧ ∀ c ∈ rest, isGap c = true) ↔
      SpellsBytes bytes (withoutGaps s) ∧ bytes.length = n := by
  induction n generalizing s bytes with
  | zero =>
    constructor
    · rintro ⟨rest, read, gaps⟩
      obtain ⟨rfl, rfl⟩ := Prod.mk.inj (Option.some.inj read)
      rw [withoutGaps_eq_nil_iff.mpr gaps]
      exact ⟨.nil, rfl⟩
    · rintro ⟨spelled, none⟩
      obtain rfl := List.length_eq_zero_iff.mp none
      generalize left : withoutGaps s = digits at spelled
      cases spelled
      exact ⟨s, rfl, withoutGaps_eq_nil_iff.mp left⟩
  | succ n ih =>
    constructor
    · rintro ⟨rest, read, gaps⟩
      obtain ⟨⟨high, s₁⟩, first, read⟩ := Option.bind_eq_some_iff.mp read
      obtain ⟨⟨low, s₂⟩, second, read⟩ := Option.bind_eq_some_iff.mp read
      obtain ⟨⟨others, s₃⟩, later, read⟩ := Option.bind_eq_some_iff.mp read
      obtain ⟨rfl, rfl⟩ := Prod.mk.inj (Option.some.inj read)
      obtain ⟨c, highDigit, left⟩ := nextDigit?_iff.mp ⟨s₁, first, rfl⟩
      obtain ⟨c', lowDigit, left'⟩ := nextDigit?_iff.mp ⟨s₂, second, rfl⟩
      obtain ⟨spelled, rfl⟩ := ih.mp ⟨_, later, gaps⟩
      obtain ⟨upper, lower⟩ := Bytes.halves_ofNat highDigit.1 lowDigit.1
      rw [left, left']
      exact ⟨.cons (upper.symm ▸ highDigit) (lower.symm ▸ lowDigit) spelled, rfl⟩
    · rintro ⟨spelled, count⟩
      generalize left : withoutGaps s = digits at spelled
      cases spelled with
      | nil => exact absurd count (by simp)
      | cons first second others =>
        obtain ⟨s₁, read, left₁⟩ := nextDigit?_iff.mpr ⟨_, first, left⟩
        obtain ⟨s₂, read', left₂⟩ := nextDigit?_iff.mpr ⟨_, second, left₁⟩
        obtain ⟨rest, later, gaps⟩ := ih.mpr ⟨left₂.symm ▸ others, Nat.succ.inj count⟩
        refine ⟨rest, ?_, gaps⟩
        rw [nextBytes?, read]
        show (nextDigit? s₁).bind _ = _
        rw [read']
        show (nextBytes? n s₂).bind _ = _
        rw [later]
        exact congrArg (fun b => some (b :: _, rest)) (Bytes.ofNat_halves _)

end Next

/-! ## Spellings -/

/-- A text of an address: its bytes, with gaps and a mark or not, and white space around. -/
inductive Written (a : Address) : List Char → Prop where
  | hex {front mark body back : List Char} : Blanks front → Blanks back →
      mark = [] ∨ mark = ['0', 'x'] → SpellsBytes a.bytes (withoutGaps body) →
      Written a (front ++ ((mark ++ body) ++ back))

section Written

variable {s : List Char} {a : Address}

/-- Digits have no mark in front of them, and all the white space around them are gaps. -/
theorem remains_digits (digits : ∀ c ∈ withoutGaps s, ∃ d, HexDigit d c) :
    withoutGaps (dropMark (Text.trimChars s)) = withoutGaps s := by
  have trims := Text.trims_trimChars s
  generalize Text.trimChars s = t at trims ⊢
  obtain ⟨front, back, -⟩ := trims
  rename_i a b
  have unmarked : ∀ rest, t ≠ '0' :: 'x' :: rest := by
    rintro rest rfl
    obtain ⟨d, digit⟩ := digits 'x' (List.mem_filter.mpr ⟨by simp, by decide⟩)
    exact absurd digit.bounds.2 (by decide)
  rw [dropMark_of_unmarked unmarked, withoutGaps_append, withoutGaps_append,
    withoutGaps_of_blanks digits (by simp) front, withoutGaps_of_blanks digits (by simp) back,
    List.nil_append, List.append_nil]

/-- A mark in front of digits is the one that does not count. -/
theorem remains_marked (digits : ∀ c ∈ withoutGaps s, ∃ d, HexDigit d c) :
    withoutGaps (dropMark (Text.trimChars ('0' :: 'x' :: s))) = withoutGaps s := by
  obtain ⟨t, b, rfl, back, trimmed⟩ := Text.trimChars_visible
    (show Text.isBlank '0' = false by decide) (show Text.isBlank 'x' = false by decide) s
  rw [trimmed]
  show withoutGaps t = _
  rw [withoutGaps_append, withoutGaps_of_blanks digits (by simp) back, List.append_nil]

/-- A text is read as the address of which it is a spelling. -/
theorem ofChars?_eq_some_iff_written : ofChars? s = some a ↔ Written a s := by
  constructor
  · intro read
    obtain ⟨digits, remains⟩ : ∃ digits, Remains s digits := ⟨_, remains_iff.mpr rfl⟩
    have spelled := (ofChars?_eq_some_iff remains).mp read
    cases remains with
    | marked trims =>
      obtain ⟨front, back, -⟩ := trims
      exact .hex front back (.inr rfl) spelled
    | plain trims =>
      obtain ⟨front, back, -⟩ := trims
      exact .hex front back (.inl rfl) spelled
  · rintro ⟨front, back, mark, spelled⟩
    obtain ⟨-, digits⟩ := Bytes.exists_spellsBytes_iff.mp ⟨_, spelled, rfl⟩
    rw [ofChars?_eq_some_iff (remains_iff.mpr rfl), Text.trimChars_around front back]
    rcases mark with rfl | rfl
    · rwa [List.nil_append, remains_digits digits]
    · rwa [List.cons_append, List.cons_append, List.nil_append, remains_marked digits]

/-- The text of an address is one of its spellings. -/
theorem written_text (a : Address) : Written a a.text.toList := by
  have spelled := Bytes.spellsBytes_hexChars a.bytes
  obtain ⟨-, digits⟩ := Bytes.exists_spellsBytes_iff.mp ⟨_, spelled, rfl⟩
  have body : SpellsBytes a.bytes (withoutGaps (Bytes.hexChars a.bytes)) :=
    (withoutGaps_of_digits digits).symm ▸ spelled
  have written := Written.hex Text.blanks_nil Text.blanks_nil (.inr rfl) body
  rw [text, Bytes.hex, String.toList_ofList]
  simpa using written

theorem ofString_eq_ok_iff {text : String} :
    ofString text = .ok a ↔ ofChars? text.toList = some a := by
  unfold ofString
  cases ofChars? text.toList <;> simp

theorem ofString_eq_error_iff {text : String} {e : Token.Error} : ofString text = .error e ↔
    (¬∃ a, ofString text = .ok a) ∧ e = .invalidAddress text := by
  unfold ofString
  cases ofChars? text.toList <;> simp [eq_comm]

/-- Bytes that make an address are those of twenty pairs. -/
theorem exists_bytes_iff {p : List UInt8 → Prop} :
    (∃ a : Address, p a.bytes) ↔ ∃ bytes, p bytes ∧ bytes.length = 20 :=
  ⟨fun ⟨a, h⟩ => ⟨a.bytes, h, a.length_eq⟩, fun ⟨bytes, h, twenty⟩ => ⟨⟨bytes, twenty⟩, h⟩⟩

end Written

/-- Forty digits of either case, in what a text leaves, are all that makes it an address. -/
theorem address_of_text (s : String) :
    ∃ digits, (∀ others, Remains s.toList others ↔ others = digits) ∧
      (∀ a, ofString s = .ok a ↔ SpellsBytes a.bytes digits) ∧
      ((∃ a, ofString s = .ok a) ↔ digits.length = 40 ∧ ∀ c ∈ digits, ∃ d, HexDigit d c) ∧
      (∀ e, ofString s = .error e ↔
        ¬(digits.length = 40 ∧ ∀ c ∈ digits, ∃ d, HexDigit d c) ∧ e = .invalidAddress s) ∧
      (∀ a, ofString s = .ok a ↔ ∃ rest,
        nextBytes? 20 (dropMark (Text.trimChars s.toList)) = some (a.bytes, rest) ∧
          ∀ c ∈ rest, isGap c = true) ∧
      (∀ a, ofString s = .ok a ↔ Written a s.toList) ∧
      ∀ a, ofString s = .ok a → ofString a.text = .ok a := by
  obtain ⟨digits, remains⟩ : ∃ digits, Remains s.toList digits := ⟨_, remains_iff.mpr rfl⟩
  have same := remains_iff.mp remains
  have read (a : Address) : ofString s = .ok a ↔ SpellsBytes a.bytes digits := by
    rw [ofString_eq_ok_iff, ofChars?_eq_some_iff remains]
  have accepted : (∃ a, ofString s = .ok a) ↔
      digits.length = 40 ∧ ∀ c ∈ digits, ∃ d, HexDigit d c := by
    simp only [read]
    exact exists_bytes_iff.trans Bytes.exists_spellsBytes_iff
  refine ⟨digits, fun others => ?_, read, accepted, fun e => ?_, fun a => ?_, fun a => ?_,
    fun a _ => ?_⟩
  · rw [remains_iff, same]
  · rw [ofString_eq_error_iff, accepted]
  · rw [read, nextBytes?_iff, ← same]
    exact (and_iff_left a.length_eq).symm
  · rw [ofString_eq_ok_iff, ofChars?_eq_some_iff_written]
  · rw [ofString_eq_ok_iff, ofChars?_eq_some_iff_written]
    exact written_text a

end EvmWallet.Eth.Address
