import EvmWallet.Proofs.Bytes.Utf8
import EvmWallet.Proofs.Eth.Spellings
import EvmWallet.Url.Reader
import Mathlib.Data.List.Basic
import Mathlib.Data.List.Flatten

/-!
# What encoded texts stand for

`Decodes s bytes` says which bytes a percent-encoded text stands for. Encoding characters of a text does
not change them (`decodes_percentEncode_iff`), and a text stands for itself exactly if no percent sign in it has two
hexadecimal digits behind it (`decodes_utf8Chars_iff`). A form that gets one more pair has the pairs it
had and that one (`formPairs_append`).
-/

namespace EvmWallet

/-! ## Bytes of texts -/

namespace Bytes

variable {s t : List Char}

theorem utf8Char_ne_nil (c : Char) : utf8Char c ≠ [] := by
  rw [utf8Char_eq]
  exact String.utf8EncodeChar_ne_nil

theorem utf8Chars_inj : utf8Chars s = utf8Chars t ↔ s = t := by
  refine ⟨fun same => ?_, congrArg _⟩
  have read := utf8Run_utf8Chars s
  rw [same, utf8Run_utf8Chars] at read
  exact (List.map_injective_iff.mpr (Option.some_injective _) read).symm

/-- A part of a text with as many bytes is the whole text. -/
theorem eq_of_sublist (part : s.Sublist t) (long : (utf8Chars t).length ≤ (utf8Chars s).length) :
    s = t :=
  utf8Chars_inj.mp ((part.flatMap utf8Char).eq_of_length_le long)

end Bytes

namespace Url

open Bytes (HexDigit utf8Char utf8Chars)

/-! ## Percent encoding -/

/-- Two hexadecimal digits come first. -/
def DigitsFirst (s : List Char) : Prop :=
  ∃ m n h l rest, HexDigit m h ∧ HexDigit n l ∧ s = h :: l :: rest

/-- No percent sign has two hexadecimal digits behind it. -/
def Unescaped (s : List Char) : Prop := ∀ rest, '%' :: rest <:+ s → ¬DigitsFirst rest

/-- The bytes that a text stands for. A percent sign without digits behind it stands for itself. -/
inductive Decodes : List Char → List UInt8 → Prop where
  | nil : Decodes [] []
  | escape {m n : Nat} {h l : Char} {rest : List Char} {bytes : List UInt8} :
      HexDigit m h → HexDigit n l → Decodes rest bytes →
      Decodes ('%' :: h :: l :: rest) (UInt8.ofNat (16 * m + n) :: bytes)
  | percent {rest : List Char} {bytes : List UInt8} : ¬DigitsFirst rest → Decodes rest bytes →
      Decodes ('%' :: rest) (utf8Char '%' ++ bytes)
  | other {c : Char} {rest : List Char} {bytes : List UInt8} : c ≠ '%' → Decodes rest bytes →
      Decodes (c :: rest) (utf8Char c ++ bytes)

section Decoding

variable {s t : List Char} {bytes more : List UInt8}

theorem decodes_percentDecode (s : List Char) : Decodes s (percentDecode s) := by
  induction s using percentDecode.induct with
  | case1 => exact .nil
  | case2 h l rest high low second first ih =>
    rw [percentDecode, first, second]
    exact .escape (Bytes.hexValue?_eq_some_iff.mp first) (Bytes.hexValue?_eq_some_iff.mp second) ih
  | case3 h l rest other ih =>
    have lone : ¬DigitsFirst (h :: l :: rest) := by
      rintro ⟨m, n, _, _, _, first, second, ⟨⟩⟩
      exact other m n (Bytes.hexValue?_eq_some_iff.mpr first) (Bytes.hexValue?_eq_some_iff.mpr second)
    have read : percentDecode ('%' :: h :: l :: rest) =
        utf8Char '%' ++ percentDecode (h :: l :: rest) := by
      rw [percentDecode]
      split
      · exact absurd ‹_› (other _ _ ‹_›)
      · rfl
    exact read ▸ .percent lone ih
  | case4 c rest short ih =>
    rw [percentDecode.eq_3 c rest short]
    by_cases percent : c = '%'
    · subst percent
      refine .percent ?_ ih
      rintro ⟨-, -, h, l, rest', -, -, rfl⟩
      exact short h l rest' rfl rfl
    · exact .other percent ih

theorem Decodes.unique (h : Decodes s bytes) (h' : Decodes s more) : bytes = more := by
  induction h generalizing more with
  | nil =>
    cases h'
    rfl
  | escape high low _ ih =>
    cases h' with
    | escape high' low' rest =>
      have same {m m' : Nat} {c : Char} (d : HexDigit m c) (d' : HexDigit m' c) : m = m' :=
        Option.some.inj ((Bytes.hexValue?_eq_some_iff.mpr d).symm.trans
          (Bytes.hexValue?_eq_some_iff.mpr d'))
      rw [same high high', same low low', ih rest]
    | percent lone => exact absurd ⟨_, _, _, _, _, high, low, rfl⟩ lone
    | other percent => exact absurd rfl percent
  | percent lone _ ih =>
    cases h' with
    | escape high low => exact absurd ⟨_, _, _, _, _, high, low, rfl⟩ lone
    | percent _ rest => rw [ih rest]
    | other percent => exact absurd rfl percent
  | other percent _ ih =>
    cases h' with
    | other _ rest => rw [ih rest]
    | _ => exact absurd rfl percent

theorem percentDecode_eq_iff : percentDecode s = bytes ↔ Decodes s bytes :=
  ⟨fun h => h ▸ decodes_percentDecode s, fun h => (decodes_percentDecode s).unique h⟩

theorem hexDigit_capitalDigit {n : Nat} (h : n < 16) : HexDigit n (capitalDigit n) := by
  refine ⟨h, ?_⟩
  interval_cases n <;> decide

/-- Encoded bytes stand for themselves, whatever follows them. -/
theorem Decodes.escaped (h : Decodes s bytes) (more : List UInt8) :
    Decodes (more.flatMap percentByte ++ s) (more ++ bytes) := by
  induction more with
  | nil => exact h
  | cons b rest ih =>
    have step := Decodes.escape (hexDigit_capitalDigit (n := b.toNat / 16) (by have := b.toNat_lt; omega))
      (hexDigit_capitalDigit (n := b.toNat % 16) (by omega)) ih
    rwa [Bytes.ofNat_halves] at step

/-- A set of characters that leaves encoded ones as they are. -/
structure KeepsEscapes (inSet : Char → Bool) : Prop where
  percent : inSet '%' = false
  digit {n : Nat} {c : Char} : HexDigit n c → inSet c = false

section Encode

variable {inSet : Char → Bool}

theorem percentEncode_cons (c : Char) (s : List Char) :
    percentEncode inSet (c :: s) = percentChar inSet c ++ percentEncode inSet s :=
  List.flatMap_cons

theorem percentChar_of_not {c : Char} (h : inSet c = false) : percentChar inSet c = [c] := by
  rw [percentChar, h]
  rfl

/-- A character stays, or a percent sign comes in its place. -/
theorem percentChar_cases (inSet : Char → Bool) (c : Char) :
    percentChar inSet c = [c] ∨ ∃ more, percentChar inSet c = '%' :: more := by
  unfold percentChar
  split
  · obtain ⟨b, rest, bytes⟩ := List.exists_cons_of_ne_nil (Bytes.utf8Char_ne_nil c)
    exact .inr ⟨_, by rw [bytes, List.flatMap_cons, percentByte, List.cons_append]⟩
  · exact .inl rfl

/-- Encoding brings no digits to the front. -/
theorem not_digitsFirst_percentEncode (h : ¬DigitsFirst s) :
    ¬DigitsFirst (percentEncode inSet s) := by
  rintro ⟨m, n, a, b, rest, high, low, encoded⟩
  have stays {c : Char} {s rest : List Char} {k : Nat} {d : Char} (digit : HexDigit k d)
      (same : percentEncode inSet (c :: s) = d :: rest) : c = d ∧ percentEncode inSet s = rest := by
    rw [percentEncode_cons] at same
    rcases percentChar_cases inSet c with kept | ⟨more, escaped⟩
    · rw [kept] at same
      exact List.cons.inj same
    · rw [escaped] at same
      obtain ⟨rfl, -⟩ := List.cons.inj same
      exact absurd digit.bounds.1 (by decide)
  rcases s with _ | ⟨c, s⟩
  · exact nomatch encoded
  obtain ⟨rfl, behind⟩ := stays high encoded
  rcases s with _ | ⟨d, s⟩
  · exact nomatch behind
  obtain ⟨rfl, -⟩ := stays low behind
  exact h ⟨m, n, c, d, s, high, low, rfl⟩

/-- An encoded text stands for the bytes that it stood for before. -/
theorem Decodes.encode (keeps : KeepsEscapes inSet) (h : Decodes s bytes) :
    Decodes (percentEncode inSet s) bytes := by
  induction h with
  | nil => exact .nil
  | escape high low _ ih =>
    rw [percentEncode_cons, percentEncode_cons, percentEncode_cons, percentChar_of_not keeps.percent,
      percentChar_of_not (keeps.digit high), percentChar_of_not (keeps.digit low)]
    exact .escape high low ih
  | percent lone _ ih =>
    rw [percentEncode_cons, percentChar_of_not keeps.percent]
    exact .percent (not_digitsFirst_percentEncode lone) ih
  | @other c _ _ percent _ ih =>
    rw [percentEncode_cons]
    by_cases encoded : inSet c = true
    · rw [percentChar, if_pos encoded]
      exact ih.escaped (utf8Char c)
    · rw [percentChar_of_not (Bool.eq_false_iff.mpr encoded)]
      exact .other percent ih

theorem decodes_percentEncode_iff (keeps : KeepsEscapes inSet) :
    Decodes (percentEncode inSet s) bytes ↔ Decodes s bytes := by
  refine ⟨fun h => ?_, .encode keeps⟩
  have read := decodes_percentDecode s
  exact (read.encode keeps).unique h ▸ read

end Encode

theorem unescaped_cons {c : Char} :
    Unescaped (c :: s) ↔ (c = '%' → ¬DigitsFirst s) ∧ Unescaped s := by
  constructor
  · intro h
    refine ⟨fun percent => h s (percent ▸ List.suffix_refl _), fun rest inside => h rest ?_⟩
    exact inside.trans (List.suffix_cons c s)
  · rintro ⟨first, others⟩ rest inside
    rcases List.suffix_cons_iff.mp inside with same | inside
    · obtain ⟨rfl, rfl⟩ := List.cons.inj same
      exact first rfl
    · exact others rest inside

instance : (s : List Char) → Decidable (DigitsFirst s)
  | [] | [_] => .isFalse fun ⟨_, _, _, _, _, _, _, same⟩ => nomatch same
  | h :: l :: rest =>
    decidable_of_iff ((Bytes.hexValue? h).isSome ∧ (Bytes.hexValue? l).isSome)
      ⟨fun ⟨first, second⟩ => ⟨_, _, h, l, rest,
          Bytes.hexValue?_eq_some_iff.mp (Option.some_get first).symm,
          Bytes.hexValue?_eq_some_iff.mp (Option.some_get second).symm, rfl⟩,
        fun ⟨_, _, _, _, _, first, second, same⟩ => by
          obtain ⟨rfl, behind⟩ := List.cons.inj same
          obtain ⟨rfl, -⟩ := List.cons.inj behind
          rw [Bytes.hexValue?_eq_some_iff.mpr first, Bytes.hexValue?_eq_some_iff.mpr second]
          exact ⟨rfl, rfl⟩⟩

instance decidableUnescaped : (s : List Char) → Decidable (Unescaped s)
  | [] => .isTrue fun _ inside => nomatch List.suffix_nil.mp inside
  | c :: rest =>
    have := decidableUnescaped rest
    decidable_of_iff ((c = '%' → ¬DigitsFirst rest) ∧ Unescaped rest) unescaped_cons.symm

/-- A text stands for as many bytes as it has, and for fewer if it has an escape. -/
theorem Decodes.length_le (h : Decodes s bytes) : bytes.length ≤ (utf8Chars s).length ∧
    (bytes.length = (utf8Chars s).length → Unescaped s) := by
  have long (c : Char) : 0 < (utf8Char c).length := List.length_pos_iff.mpr (Bytes.utf8Char_ne_nil c)
  have cons (c : Char) (s : List Char) :
      (utf8Chars (c :: s)).length = (utf8Char c).length + (utf8Chars s).length := List.length_append
  induction h with
  | nil => exact ⟨Nat.le_refl _, fun _ rest inside => absurd (List.suffix_nil.mp inside) (by simp)⟩
  | @escape m n h l rest bytes _ _ _ ih =>
    have first := long '%'
    have second := long h
    have third := long l
    simp only [cons, List.length_cons]
    exact ⟨by omega, fun same => by omega⟩
  | percent lone _ ih =>
    simp only [cons, List.length_append]
    refine ⟨by omega, fun same => unescaped_cons.mpr ⟨fun _ => lone, ih.2 (by omega)⟩⟩
  | other percent _ ih =>
    simp only [cons, List.length_append]
    refine ⟨by omega, fun same => unescaped_cons.mpr ⟨fun h => absurd h percent, ih.2 (by omega)⟩⟩

/-- A text stands for itself if there is no escape in it. -/
theorem decodes_utf8Chars_iff : Decodes s (utf8Chars s) ↔ Unescaped s := by
  refine ⟨fun h => h.length_le.2 rfl, fun h => ?_⟩
  induction s with
  | nil => exact .nil
  | cons c rest ih =>
    obtain ⟨lone, others⟩ := unescaped_cons.mp h
    by_cases percent : c = '%'
    · subst percent
      exact .percent (lone rfl) (ih others)
    · exact .other percent (ih others)

end Decoding

/-! ## Cutting at a mark -/

section Cutting

variable {mark : Char} {s : List Char}

theorem cutAt_append {front : List Char} (h : mark ∉ front) (s : List Char) :
    cutAt mark (front ++ s) = (front ++ (cutAt mark s).1, (cutAt mark s).2) := by
  induction front with
  | nil => rfl
  | cons c rest ih =>
    have other : mark ≠ c := fun same => h (same ▸ List.mem_cons_self)
    have others : mark ∉ rest := fun inside => h (List.mem_cons_of_mem c inside)
    rw [List.cons_append, cutAt, if_neg (Ne.symm other), ih others]
    rfl

theorem cutAt_of_not_mem (h : mark ∉ s) : cutAt mark s = (s, none) := by
  simpa [cutAt] using cutAt_append h []

theorem cutAt_mark (h : mark ∉ s) (rest : List Char) :
    cutAt mark (s ++ mark :: rest) = (s, some rest) := by
  rw [cutAt_append h, cutAt, if_pos rfl, List.append_nil]

/-- What stands before the first mark is a part of the text without it. -/
theorem cutAt_front (mark : Char) (s : List Char) :
    (cutAt mark s).1.Sublist s ∧ mark ∉ (cutAt mark s).1 := by
  induction s with
  | nil => exact ⟨.refl _, List.not_mem_nil⟩
  | cons c rest ih =>
    rw [cutAt]
    split
    · exact ⟨List.nil_sublist _, List.not_mem_nil⟩
    · rename_i other
      exact ⟨ih.1.cons_cons c, by simpa using ⟨Ne.symm other, ih.2⟩⟩

end Cutting

/-! ## Forms -/

/-- The text of a name or a value in a form; what is no UTF-8 is replaced. -/
def formText (s : List Char) : String :=
  let bytes := percentDecode (s.map fun c => if c = '+' then ' ' else c)
  String.ofList ((Bytes.utf8Run .start bytes).map (·.getD '\uFFFD'))

/-- The pairs of a form. A pair without an equals sign has an empty value, and an empty one is none. -/
def formPairs (s : List Char) : List (String × String) :=
  ((Text.pieces (· = '&') s).filter (· ≠ [])).map fun pair =>
    (formText (cutAt '=' pair).1, formText ((cutAt '=' pair).2.getD []))

section Forms

theorem capitalDigit_safe {n : Nat} (h : n < 16) : isFormSafe (capitalDigit n) = true := by
  interval_cases n <;> decide

/-- What an encoded text of a form consists of. -/
theorem formChar_mem {c d : Char} (h : d ∈ formChar c) : isFormSafe d = true ∨ d = '+' ∨ d = '%' := by
  unfold formChar percentChar at h
  split at h
  · exact .inr (.inl (List.mem_singleton.mp h))
  split at h
  · obtain ⟨b, -, present⟩ := List.mem_flatMap.mp h
    have bound := b.toNat_lt
    rcases List.mem_cons.mp present with rfl | present
    · exact .inr (.inr rfl)
    rcases List.mem_pair.mp present with rfl | rfl
    · exact .inl (capitalDigit_safe (by omega))
    · exact .inl (capitalDigit_safe (by omega))
  · rename_i safe
    obtain rfl := List.mem_singleton.mp h
    exact .inl (by simpa using safe)

theorem not_mem_formChars {d : Char} (unsafeChar : isFormSafe d = false) (plus : d ≠ '+')
    (percent : d ≠ '%') (s : List Char) : d ∉ s.flatMap formChar := by
  intro present
  obtain ⟨c, -, present⟩ := List.mem_flatMap.mp present
  rcases formChar_mem present with safe | same | same
  · exact absurd safe (by simp [unsafeChar])
  · exact plus same
  · exact percent same

theorem formChar_bounds {c : Char} (safe : isFormSafe c = true) : c ≠ '+' ∧ c ≠ '%' := by
  constructor
  all_goals
    rintro rfl
    exact absurd safe (by decide)

/-- A text of a form stands for the bytes of the text that was encoded, once its pluses are blanks. -/
theorem decodes_formChars (s : List Char) :
    Decodes ((s.flatMap formChar).map fun c => if c = '+' then ' ' else c) (utf8Chars s) := by
  induction s with
  | nil => exact .nil
  | cons c rest ih =>
    rw [List.flatMap_cons, List.map_append]
    show Decodes _ (utf8Char c ++ utf8Chars rest)
    by_cases blank : c = ' '
    · subst blank
      exact .other (by decide) ih
    by_cases safe : isFormSafe c = true
    · obtain ⟨plus, percent⟩ := formChar_bounds safe
      have stays : formChar c = [c] := by simp [formChar, percentChar, blank, safe]
      rw [stays, List.map_singleton, if_neg plus]
      exact .other percent ih
    · have escaped : formChar c = (utf8Char c).flatMap percentByte := by
        simp [formChar, percentChar, blank, safe]
      have fixed : ((utf8Char c).flatMap percentByte).map (fun c => if c = '+' then ' ' else c) =
          (utf8Char c).flatMap percentByte := by
        refine (List.map_congr_left fun d present => if_neg ?_).trans (List.map_id _)
        obtain ⟨b, -, present⟩ := List.mem_flatMap.mp present
        have bound := b.toNat_lt
        rcases List.mem_cons.mp present with rfl | present
        · decide
        rcases List.mem_pair.mp present with rfl | rfl
        · exact (formChar_bounds (capitalDigit_safe (by omega))).1
        · exact (formChar_bounds (capitalDigit_safe (by omega))).1
      rw [escaped, fixed]
      exact ih.escaped (utf8Char c)

theorem formText_formChars (s : String) : formText (s.toList.flatMap formChar) = s := by
  have whole : (s.toList.map some).map (·.getD '\uFFFD') = s.toList := by
    rw [List.map_map]
    exact List.map_id _
  rw [formText, percentDecode_eq_iff.mpr (decodes_formChars s.toList), Bytes.utf8Run_utf8Chars, whole,
    String.ofList_toList]

theorem formPairs_formPair (name value : String) : formPairs (formPair name value) = [(name, value)] := by
  have apart {d : Char} (h : isFormSafe d = false) (plus : d ≠ '+') (percent : d ≠ '%') (s : String) :
      d ∉ s.toList.flatMap formChar := not_mem_formChars h plus percent s.toList
  have single : Text.pieces (· = '&') (formPair name value) = [formPair name value] := by
    refine Text.pieces_of_none fun c present => decide_eq_false ?_
    rintro rfl
    rcases List.mem_append.mp present with inName | behind
    · exact apart (by decide) (by decide) (by decide) name inName
    · rcases List.mem_cons.mp behind with same | inValue
      · exact absurd same (by decide)
      · exact apart (by decide) (by decide) (by decide) value inValue
  have some : formPair name value ≠ [] := List.append_ne_nil_of_right_ne_nil _ (List.cons_ne_nil _ _)
  have cut : cutAt '=' (formPair name value) = _ :=
    cutAt_mark (apart (by decide) (by decide) (by decide) name) _
  rw [formPairs, single, List.filter_cons_of_pos (by simpa using some), List.map_cons, cut,
    formText_formChars, Option.getD_some, formText_formChars]
  rfl

/-- One more pair behind others. -/
theorem formPairs_append (s : List Char) (name value : String) :
    formPairs (s ++ '&' :: formPair name value) = formPairs s ++ [(name, value)] := by
  rw [← formPairs_formPair name value, formPairs, Text.pieces_append (by simp), List.filter_append,
    List.map_append]
  rfl

/-- A pair that is added is the last one. -/
theorem formPairs_addPair (u : Url) (name value : String) :
    ∃ q before, (u.addPair name value).query = some q ∧ formPairs q = before ++ [(name, value)] := by
  rcases asked : u.query with _ | _ | ⟨c, q⟩
  · exact ⟨_, [], by rw [addPair, asked], formPairs_formPair name value⟩
  · exact ⟨_, [], by rw [addPair, asked], formPairs_formPair name value⟩
  · exact ⟨_, _, by rw [addPair, asked], formPairs_append (c :: q) name value⟩

end Forms

end Url

end EvmWallet
