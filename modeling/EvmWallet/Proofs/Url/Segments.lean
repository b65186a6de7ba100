import EvmWallet.Proofs.Url.Encoding

/-!
# Texts behind a folder

What becomes of a text that is put behind the folder of a URL, in a scheme of the web: blanks and controls
at its end are dropped, a fragment and a query are cut off, slashes of either kind part segments, dots
lead away. The last segment stands for the whole text exactly if none of this happens
(`decodes_lastSegment_iff`, with `PlainSegment` for the texts to which it does not); then it is the one
segment that is added (`descend_plain`).
-/

namespace EvmWallet.Url

open Bytes (HexDigit utf8Chars)

/-- A text that is a single segment of a path wherever it is put, and stands for itself there. -/
structure PlainSegment (s : List Char) : Prop where
  /-- It parts no segments, ends no path, and none of it is passed over. -/
  inert : ∀ c ∈ s, c ∉ ['/', '\\', '?', '#', '\t', '\n', '\r']
  /-- No blank or control is dropped from its end. -/
  ends : ∀ c ∈ s.getLast?, 0x20 < c.toNat
  unescaped : Unescaped s
  /-- It does not lead to a folder. -/
  proper : s ≠ ['.'] ∧ s ≠ ['.', '.']

theorem plainSegment_iff {s : List Char} : PlainSegment s ↔
    s.all (· ∉ ['/', '\\', '?', '#', '\t', '\n', '\r']) = true ∧
      s.getLast?.all (0x20 < ·.toNat) = true ∧ Unescaped s ∧ s ≠ ['.'] ∧ s ≠ ['.', '.'] := by
  simp only [List.all_eq_true, Option.all_eq_true, decide_eq_true_eq]
  exact ⟨fun h => ⟨h.inert, h.ends, h.unescaped, h.proper⟩,
    fun ⟨inert, ends, unescaped, proper⟩ => ⟨inert, ends, unescaped, proper⟩⟩

instance (s : List Char) : Decidable (PlainSegment s) := decidable_of_iff' _ plainSegment_iff

/-- A letter or a digit of ASCII. -/
def isAlphanumeric (c : Char) : Bool := isLetter c || Text.isDigit c

theorem bounds_of_isAlphanumeric {c : Char} (h : isAlphanumeric c = true) :
    0x30 ≤ c.toNat ∧ c.toNat ≤ 0x7A := by
  simp only [isAlphanumeric, isLetter, Text.isDigit, Bool.or_eq_true, Bool.and_eq_true,
    decide_eq_true_eq] at h
  rcases h with (⟨low, high⟩ | ⟨low, high⟩) | ⟨low, high⟩
  · exact ⟨Nat.le_trans (by decide) (Char.le_def.mp low), Char.le_def.mp high⟩
  · exact ⟨Nat.le_trans (by decide) (Char.le_def.mp low),
      Nat.le_trans (Char.le_def.mp high) (by decide)⟩
  · exact ⟨Char.le_def.mp low, Nat.le_trans (Char.le_def.mp high) (by decide)⟩

/-- Letters and digits make a plain segment. -/
theorem plainSegment_of_alphanumeric {s : List Char} (h : ∀ c ∈ s, isAlphanumeric c = true) :
    PlainSegment s := by
  have other {c : Char} (odd : isAlphanumeric c = false) : c ∉ s := fun present =>
    absurd (h c present) (by simp [odd])
  constructor
  · intro c present special
    have odd : ['/', '\\', '?', '#', '\t', '\n', '\r'].all (!isAlphanumeric ·) = true := by decide
    exact other (by simpa using List.all_eq_true.mp odd c special) present
  · intro c last
    exact Nat.lt_of_lt_of_le (by decide) (bounds_of_isAlphanumeric (h c (List.mem_of_getLast? last))).1
  · intro rest inside
    exact absurd (inside.subset List.mem_cons_self) (other (by decide))
  · constructor
    all_goals
      rintro rfl
      exact other (c := '.') (by decide) List.mem_cons_self

/-! ## Ends of texts -/

/-- A text without the blanks and controls at its end. -/
def trimmedEnd (s : List Char) : List Char := Text.dropLastWhile (·.toNat ≤ 0x20) s

section Ends

variable {s front : List Char}

theorem trimmedEnd_sublist (s : List Char) : (trimmedEnd s).Sublist s := by
  have part : (s.reverse.dropWhile (·.toNat ≤ 0x20)).Sublist s.reverse := List.dropWhile_sublist _
  simpa [trimmedEnd, Text.dropLastWhile] using part.reverse

theorem trimmedEnd_eq_self_iff : trimmedEnd s = s ↔ ∀ c ∈ s.getLast?, 0x20 < c.toNat := by
  unfold trimmedEnd Text.dropLastWhile
  rw [List.reverse_eq_iff, ← List.head?_reverse]
  cases s.reverse with
  | nil => simp
  | cons c rest =>
    rw [List.dropWhile_cons]
    split
    · rename_i low
      have short : (rest.dropWhile (·.toNat ≤ 0x20)).length ≤ rest.length :=
        (List.dropWhile_sublist _).length_le
      refine ⟨fun same => ?_, fun high => ?_⟩
      · have long := congrArg List.length same
        simp only [List.length_cons] at long
        omega
      · exact absurd (high c rfl) (Nat.not_lt.mpr (of_decide_eq_true low))
    · rename_i high
      simpa using high

/-- What is in front of another text keeps its end. -/
theorem trimmedEnd_append (last : trimmedEnd front = front) (s : List Char) :
    trimmedEnd (front ++ s) = front ++ trimmedEnd s := by
  unfold trimmedEnd Text.dropLastWhile at *
  rw [List.reverse_append, List.dropWhile_append]
  split
  · rename_i empty
    rw [last, List.isEmpty_iff.mp empty, List.reverse_nil, List.append_nil]
  · rw [List.reverse_append, List.reverse_reverse]

theorem trimmed_append (first : ∀ c ∈ front.head?, 0x20 < c.toNat) (last : trimmedEnd front = front)
    (some : front ≠ []) (s : List Char) : trimmed (front ++ s) = front ++ trimmedEnd s := by
  rw [← trimmedEnd_append last]
  obtain ⟨c, rest, rfl⟩ := List.exists_cons_of_ne_nil some
  have high : ¬c.toNat ≤ 0x20 := Nat.not_le.mpr (first c rfl)
  have whole : (c :: rest ++ s).dropWhile (·.toNat ≤ 0x20) = c :: rest ++ s :=
    List.dropWhile_cons_of_neg (by simpa using high)
  show ((((c :: rest ++ s).dropWhile _).reverse).dropWhile _).reverse = _
  rw [whole]
  rfl

end Ends

/-! ## Segments -/

section Segment

variable {s t : List Char} {n : Nat} {c : Char}

theorem keepsEscapes_inPath : KeepsEscapes inPath := by
  refine ⟨by decide, fun {n c} digit => ?_⟩
  obtain ⟨small, rfl | rfl⟩ := digit
  all_goals interval_cases n <;> decide

theorem withoutBreaks_eq_self (h : ∀ c ∈ s, isBreak c = false) : withoutBreaks s = s :=
  List.filter_eq_self.mpr fun c present => by simp [h c present]

theorem slash_not_mem_percentEncode (h : '/' ∉ s) : '/' ∉ percentEncode inPath s := by
  intro present
  obtain ⟨c, inside, present⟩ := List.mem_flatMap.mp present
  unfold percentChar at present
  split at present
  · obtain ⟨b, -, present⟩ := List.mem_flatMap.mp present
    have digits {n : Nat} (small : n < 16) : '/' ≠ capitalDigit n := fun same => by
      have low := (hexDigit_capitalDigit small).bounds.1
      rw [← same] at low
      exact absurd low (by decide)
    have bound := b.toNat_lt
    rcases List.mem_cons.mp present with same | present
    · exact absurd same (by decide)
    rcases List.mem_pair.mp present with same | same
    · exact digits (by omega) same
    · exact digits (by omega) same
  · exact h (List.mem_singleton.mp present ▸ inside)

/-! ### Dots -/

/-- A dot, encoded or not. -/
def SpellsDot (s : List Char) : Prop := s = ['.'] ∨ ∃ c, s = ['%', '2', c] ∧ HexDigit 14 c

theorem SpellsDot.decodes {bytes : List UInt8} (h : SpellsDot s) (rest : Decodes t bytes) :
    Decodes (s ++ t) (utf8Chars ['.'] ++ bytes) := by
  rcases h with rfl | ⟨c, rfl, digit⟩
  · exact .other (by decide) rest
  · exact .escape (m := 2) ⟨by decide, .inl rfl⟩ digit rest

/-- A character of a lower case is that character or its capital. -/
theorem of_asciiLowerChar {d : Char} (h : Text.asciiLowerChar c = d) :
    c = d ∨ ∃ k < 26, c = Char.ofNat (65 + k) ∧ d = Char.ofNat (97 + k) := by
  unfold Text.asciiLowerChar at h
  split at h
  · rename_i capital
    have low : 65 ≤ c.toNat := Char.le_def.mp capital.1
    have high : c.toNat ≤ 90 := Char.le_def.mp capital.2
    have number : 65 + (c.toNat - 65) = c.toNat := by omega
    have number' : 97 + (c.toNat - 65) = c.toNat + 32 := by omega
    refine .inr ⟨c.toNat - 65, by omega, ?_, ?_⟩
    · rw [number, Char.ofNat_toNat]
    · rw [number', h]
  · exact .inl h

theorem eq_of_asciiLowerChar {d : Char} (h : Text.asciiLowerChar c = d)
    (other : ∀ k < 26, d ≠ Char.ofNat (97 + k)) : c = d := by
  rcases of_asciiLowerChar h with same | ⟨k, small, -, same⟩
  · exact same
  · exact absurd same (other k small)

theorem hexDigit_of_asciiLowerChar (h : Text.asciiLowerChar c = 'e') : HexDigit 14 c := by
  rcases of_asciiLowerChar h with rfl | ⟨k, small, rfl, same⟩
  · exact ⟨by decide, .inl rfl⟩
  · have capital : ∀ k < 26, 'e' = Char.ofNat (97 + k) → Char.ofNat (65 + k) = 'E' := by decide
    exact ⟨by decide, .inr (capital k small same)⟩

/-- What is lowered to a dot and a rest was spelled as a dot and as a rest. -/
theorem spellsDot_of_lower {rest : List Char}
    (lowered : s.map Text.asciiLowerChar = '.' :: rest ∨
      s.map Text.asciiLowerChar = '%' :: '2' :: 'e' :: rest) :
    ∃ a b, s = a ++ b ∧ SpellsDot a ∧ b.map Text.asciiLowerChar = rest := by
  rcases lowered with plain | encoded
  · obtain ⟨c, b, rfl, first, behind⟩ := List.map_eq_cons_iff.mp plain
    obtain rfl := eq_of_asciiLowerChar first (by decide)
    exact ⟨['.'], b, rfl, .inl rfl, behind⟩
  · obtain ⟨c, s, rfl, first, lowered⟩ := List.map_eq_cons_iff.mp encoded
    obtain ⟨d, s, rfl, second, lowered⟩ := List.map_eq_cons_iff.mp lowered
    obtain ⟨e, b, rfl, third, behind⟩ := List.map_eq_cons_iff.mp lowered
    obtain rfl := eq_of_asciiLowerChar first (by decide)
    obtain rfl := eq_of_asciiLowerChar second (by decide)
    exact ⟨['%', '2', e], b, rfl, .inr ⟨e, rfl, hexDigit_of_asciiLowerChar third⟩, behind⟩

theorem isDot_iff : isDot s = true ↔
    s.map Text.asciiLowerChar = ".".toList ∨ s.map Text.asciiLowerChar = "%2e".toList := by
  simp [isDot, ← String.toList_inj]

theorem decodes_of_isDot (h : isDot s = true) : Decodes s (utf8Chars ['.']) := by
  obtain ⟨a, b, rfl, dot, rest⟩ := spellsDot_of_lower (isDot_iff.mp h)
  obtain rfl := List.map_eq_nil_iff.mp rest
  exact dot.decodes .nil

theorem decodes_of_isDoubleDot (h : isDoubleDot s = true) : Decodes s (utf8Chars ['.', '.']) := by
  have lowered : s.map Text.asciiLowerChar = "..".toList ∨ s.map Text.asciiLowerChar = ".%2e".toList ∨
      s.map Text.asciiLowerChar = "%2e.".toList ∨ s.map Text.asciiLowerChar = "%2e%2e".toList := by
    simpa [isDoubleDot, ← String.toList_inj] using h
  obtain ⟨rest, first, second⟩ : ∃ rest,
      (s.map Text.asciiLowerChar = '.' :: rest ∨ s.map Text.asciiLowerChar = '%' :: '2' :: 'e' :: rest) ∧
        (rest = ".".toList ∨ rest = "%2e".toList) := by
    rcases lowered with both | both | both | both
    · exact ⟨_, .inl both, .inl rfl⟩
    · exact ⟨_, .inl both, .inr rfl⟩
    · exact ⟨_, .inr both, .inl rfl⟩
    · exact ⟨_, .inr both, .inr rfl⟩
  obtain ⟨a, b, rfl, dot, rfl⟩ := spellsDot_of_lower first
  exact dot.decodes (decodes_of_isDot (isDot_iff.mpr second))

end Segment

/-! ## Walking in a scheme of the web -/

/-- The segment that a text becomes at the end of a path; dots leave an empty one. -/
def lastSegment (text : List Char) : List Char :=
  let s := percentEncode inPath (withoutBreaks text)
  if isDoubleDot s || isDot s then [] else s

theorem lastSegment_cases (text : List Char) :
    lastSegment text = [] ∨
      isDoubleDot (percentEncode inPath (withoutBreaks text)) = false ∧
        isDot (percentEncode inPath (withoutBreaks text)) = false ∧
        lastSegment text = percentEncode inPath (withoutBreaks text) := by
  rw [lastSegment]
  split
  · exact .inl rfl
  · rename_i other
    have both := Bool.or_eq_false_iff.mp (Bool.eq_false_iff.mpr other)
    exact .inr ⟨both.1, both.2, rfl⟩

namespace Walk

variable {port : Nat} {w : Walk}

theorem take_web (port : Nat) (w : Walk) (last : Bool) (text : List Char) :
    w.take (.web port) last text =
      ⟨if isDoubleDot (percentEncode inPath (withoutBreaks text)) then
          parent w.segments ++ (if last then [[]] else [])
        else if isDot (percentEncode inPath (withoutBreaks text)) then
          w.segments ++ (if last then [[]] else [])
        else w.segments ++ [percentEncode inPath (withoutBreaks text)],
      w.onDrive⟩ := by
  have other : (Style.web port == Style.file) = false := rfl
  simp only [take, other, Bool.false_and, Bool.false_eq_true, if_false]
  split
  · rfl
  split <;> rfl

theorem take_last (port : Nat) (w : Walk) (text : List Char) :
    ∃ front, (w.take (.web port) true text).segments = front ++ [lastSegment text] := by
  rw [take_web]
  simp only [if_true]
  by_cases double : isDoubleDot (percentEncode inPath (withoutBreaks text)) = true
  · exact ⟨_, by rw [lastSegment, if_pos double, double, Bool.true_or, if_pos rfl]⟩
  by_cases single : isDot (percentEncode inPath (withoutBreaks text)) = true
  · exact ⟨_, by rw [lastSegment, if_neg double, if_pos single, single, Bool.or_true, if_pos rfl]⟩
  · exact ⟨_, by rw [lastSegment, if_neg double, if_neg single, if_neg (by simp [double, single])]⟩

/-- A walk ends with the segment of the last text. -/
theorem run_last (port : Nat) (w : Walk) {texts : List (List Char)} (some : texts ≠ []) :
    ∃ front, (run (.web port) w texts).segments = front ++ [lastSegment (texts.getLast some)] := by
  induction texts generalizing w with
  | nil => exact absurd rfl some
  | cons text rest ih =>
    cases rest with
    | nil => exact take_last port w text
    | cons next rest => exact ih (w.take (.web port) false text) (List.cons_ne_nil next rest)

theorem mem_parent {segments : List (List Char)} {p : List Char} (h : p ∈ parent segments) :
    p ∈ segments := by
  unfold parent at h
  split at h
  · exact h
  · exact List.dropLast_subset _ h

/-- A text without a slash brings none into the segments. -/
theorem slash_not_mem_take (before : ∀ p ∈ w.segments, '/' ∉ p) {text : List Char} (free : '/' ∉ text)
    (last : Bool) : ∀ p ∈ (w.take (.web port) last text).segments, '/' ∉ p := by
  intro p present
  have kept : '/' ∉ withoutBreaks text := fun inside => free (List.mem_of_mem_filter inside)
  have ending : ∀ q ∈ (if last then [[]] else [] : List (List Char)), '/' ∉ q := by
    intro q present
    split at present
    · exact List.mem_singleton.mp present ▸ List.not_mem_nil
    · exact absurd present List.not_mem_nil
  rw [take_web] at present
  simp only at present
  generalize (if last then [[]] else [] : List (List Char)) = behind at present ending
  split at present
  · rcases List.mem_append.mp present with early | late
    · exact before p (mem_parent early)
    · exact ending p late
  split at present
  · rcases List.mem_append.mp present with early | late
    · exact before p early
    · exact ending p late
  · rcases List.mem_append.mp present with early | late
    · exact before p early
    · exact List.mem_singleton.mp late ▸ slash_not_mem_percentEncode kept

/-- No segment of a walk holds a slash. -/
theorem slash_not_mem_run {texts : List (List Char)} (before : ∀ p ∈ w.segments, '/' ∉ p)
    (free : ∀ text ∈ texts, '/' ∉ text) : ∀ p ∈ (run (.web port) w texts).segments, '/' ∉ p := by
  induction texts generalizing w with
  | nil => exact before
  | cons text rest ih =>
    exact ih (slash_not_mem_take before (free text List.mem_cons_self) _) fun t later =>
      free t (List.mem_cons_of_mem text later)

end Walk

/-! ## Plain segments -/

section Plain

variable {s : List Char} {port : Nat}

/-- The body of a text is a part of it in front of its marks. -/
theorem body_ofChars (style : Style) (s : List Char) :
    (Parts.ofChars style s).body.Sublist s ∧
      ∀ mark ∈ ['?', '#'], mark ∉ (Parts.ofChars style s).body := by
  have body : (Parts.ofChars style s).body = (cutAt '?' (cutAt '#' s).1).1 := rfl
  obtain ⟨inFront, question⟩ := cutAt_front '?' (cutAt '#' s).1
  obtain ⟨inText, hash⟩ := cutAt_front '#' s
  rw [body]
  refine ⟨inFront.trans inText, fun mark either => ?_⟩
  rcases List.mem_pair.mp either with rfl | rfl
  · exact question
  · exact fun present => hash (inFront.subset present)

/-- The part of a text that comes to be the end of a path. -/
def lastPiece (style : Style) (s : List Char) : List Char :=
  (Text.pieces style.separates (Parts.ofChars style (trimmedEnd s)).body).getLast
    (Text.pieces_ne_nil _ _)

theorem lastPiece_mem (style : Style) (s : List Char) : lastPiece style s ∈
    Text.pieces style.separates (Parts.ofChars style (trimmedEnd s)).body :=
  List.getLast_mem _

/-- What is kept at the end of a path is a part of the text. -/
theorem kept_sublist (style : Style) (s : List Char) :
    (withoutBreaks (lastPiece style s)).Sublist s := by
  have inBody := (Text.of_mem_pieces (lastPiece_mem style s)).1
  have inEnd := (body_ofChars style (trimmedEnd s)).1
  exact List.filter_sublist.trans (inBody.trans (inEnd.trans (trimmedEnd_sublist s)))

theorem run_lastPiece (port : Nat) (w : Walk) (s : List Char) :
    ∃ front, (Walk.run (.web port) w (Text.pieces (Style.web port).separates
        (Parts.ofChars (.web port) (trimmedEnd s)).body)).segments =
      front ++ [lastSegment (lastPiece (.web port) s)] :=
  Walk.run_last port w (Text.pieces_ne_nil _ _)

theorem slash_not_mem_pieces {port : Nat} {p s : List Char}
    (h : p ∈ Text.pieces (Style.web port).separates s) :
    '/' ∉ p := fun present => absurd ((Text.of_mem_pieces h).2 _ present) (by simp [Style.separates])

theorem slash_not_mem_lastSegment (port : Nat) (s : List Char) :
    '/' ∉ lastSegment (lastPiece (.web port) s) := by
  have free : '/' ∉ lastPiece (.web port) s := slash_not_mem_pieces (lastPiece_mem _ _)
  rcases lastSegment_cases (lastPiece (.web port) s) with empty | ⟨-, -, encoded⟩
  · rw [empty]
    exact List.not_mem_nil
  · rw [encoded]
    exact slash_not_mem_percentEncode fun present => free (List.mem_of_mem_filter present)

theorem PlainSegment.withoutBreaks (h : PlainSegment s) : withoutBreaks s = s :=
  withoutBreaks_eq_self fun c present => by
    have inert := h.inert c present
    simp only [List.mem_cons, not_or] at inert
    simp [isBreak, inert]

theorem PlainSegment.not_dots (h : PlainSegment s) :
    isDoubleDot (percentEncode inPath s) = false ∧ isDot (percentEncode inPath s) = false := by
  have stands : Decodes (percentEncode inPath s) (utf8Chars s) :=
    (decodes_utf8Chars_iff.mpr h.unescaped).encode keepsEscapes_inPath
  constructor
  · refine Bool.eq_false_iff.mpr fun double => h.proper.2 ?_
    exact Bytes.utf8Chars_inj.mp (stands.unique (decodes_of_isDoubleDot double))
  · refine Bool.eq_false_iff.mpr fun single => h.proper.1 ?_
    exact Bytes.utf8Chars_inj.mp (stands.unique (decodes_of_isDot single))

theorem PlainSegment.lastSegment (h : PlainSegment s) : lastSegment s = percentEncode inPath s := by
  obtain ⟨double, single⟩ := h.not_dots
  rw [Url.lastSegment, h.withoutBreaks]
  simp only [double, single, Bool.or_self, Bool.false_eq_true, if_false]

theorem PlainSegment.take (h : PlainSegment s) (w : Walk) (last : Bool) :
    w.take (.web port) last s = { w with segments := w.segments ++ [percentEncode inPath s] } := by
  obtain ⟨double, single⟩ := h.not_dots
  rw [Walk.take_web, h.withoutBreaks]
  simp only [double, single, Bool.false_eq_true, if_false]

theorem PlainSegment.ofChars (h : PlainSegment s) (style : Style) :
    Parts.ofChars style (trimmedEnd s) = ⟨s, none, none⟩ := by
  have hash : '#' ∉ s := fun present => absurd (h.inert _ present) (by decide)
  have mark : '?' ∉ s := fun present => absurd (h.inert _ present) (by decide)
  rw [trimmedEnd_eq_self_iff.mpr h.ends, Parts.ofChars, cutAt_of_not_mem hash]
  simp only [cutAt_of_not_mem mark]
  rfl

theorem PlainSegment.pieces (h : PlainSegment s) :
    Text.pieces (Style.web port).separates s = [s] := by
  refine Text.pieces_of_none fun c present => ?_
  have inert := h.inert c present
  simp only [List.mem_cons, not_or] at inert
  simp [Style.separates, inert]

/-- A text of which nothing is cut off on the way to the end of a path has no marks in it. -/
theorem inert_of_whole (whole : withoutBreaks (lastPiece (.web port) s) = s) :
    (∀ c ∈ s, c ∉ ['/', '\\', '?', '#', '\t', '\n', '\r']) ∧ ∀ c ∈ s.getLast?, 0x20 < c.toNat := by
  obtain ⟨inBody, free⟩ := Text.of_mem_pieces (lastPiece_mem (.web port) s)
  obtain ⟨inEnd, marks⟩ := body_ofChars (.web port) (trimmedEnd s)
  have inText := trimmedEnd_sublist s
  have inPiece : s.Sublist (lastPiece (.web port) s) := by
    have kept : (withoutBreaks (lastPiece (.web port) s)).Sublist (lastPiece (.web port) s) :=
      List.filter_sublist
    rwa [whole] at kept
  have samePiece := (inBody.trans (inEnd.trans inText)).antisymm inPiece
  have sameBody := (inEnd.trans inText).antisymm (inPiece.trans inBody)
  have sameEnd := inText.antisymm (inPiece.trans (inBody.trans inEnd))
  rw [sameBody] at marks
  rw [samePiece] at free whole
  refine ⟨fun c present => ?_, trimmedEnd_eq_self_iff.mp sameEnd⟩
  have slash := free c present
  have unbroken : isBreak c = false := by
    have stays : c ∈ withoutBreaks s := whole.symm ▸ present
    simpa using (List.mem_filter.mp stays).2
  have question : c ≠ '?' := fun mark => marks '?' (by simp) (mark ▸ present)
  have hash : c ≠ '#' := fun mark => marks '#' (by simp) (mark ▸ present)
  simp only [Style.separates, Style.isSpecial, isBreak, Bool.and_true, Bool.or_eq_false_iff,
    beq_eq_false_iff_ne] at slash unbroken
  simp [slash, unbroken, question, hash]

/-- The end of the path stands for a text if that is a plain segment, and for no other. -/
theorem decodes_lastSegment_iff :
    Decodes (lastSegment (lastPiece (.web port) s)) (utf8Chars s) ↔ PlainSegment s := by
  constructor
  · intro stands
    rcases lastSegment_cases (lastPiece (.web port) s) with empty | ⟨double, single, encoded⟩
    · rw [empty] at stands
      obtain rfl : s = [] := Bytes.utf8Chars_inj.mp (stands.unique .nil)
      exact plainSegment_of_alphanumeric fun _ none => absurd none List.not_mem_nil
    · rw [encoded] at stands
      -- What the kept part stands for has no more bytes than that part, and the text has no fewer.
      have read := (decodes_percentEncode_iff keepsEscapes_inPath).mp stands
      have whole := Bytes.eq_of_sublist (kept_sublist (.web port) s) read.length_le.1
      obtain ⟨inert, ends⟩ := inert_of_whole whole
      rw [whole] at double single read
      refine ⟨inert, ends, decodes_utf8Chars_iff.mp read, ?_, ?_⟩
      · rintro rfl
        exact absurd single (by decide)
      · rintro rfl
        exact absurd double (by decide)
  · intro h
    have piece : lastPiece (.web port) s = s := by
      simp only [lastPiece, h.ofChars, h.pieces, List.getLast_singleton]
    rw [piece, h.lastSegment, decodes_percentEncode_iff keepsEscapes_inPath]
    exact decodes_utf8Chars_iff.mpr h.unescaped

end Plain

end EvmWallet.Url
