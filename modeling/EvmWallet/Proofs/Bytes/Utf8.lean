import EvmWallet.Bytes.Utf8

/-!
# Texts read back from their bytes

The bytes of a text are UTF-8, and reading them strictly gives the text: `decodeUtf8?_utf8`.
The work is in the first byte of a character, which fixes what the second may be.
-/

namespace EvmWallet.Bytes

/-! ## Bytes inside a character -/

theorem utf8Run_start (b : UInt8) (rest : List UInt8) :
    utf8Run .start (b :: rest) = (utf8Lead b.toNat).1 ++ utf8Run (utf8Lead b.toNat).2 rest := by
  rw [utf8Run]
  · rfl

/-- The byte that completes a character. -/
theorem utf8Run_last {low high value : Nat} {b : UInt8} (rest : List UInt8)
    (within : low ≤ b.toNat ∧ b.toNat ≤ high) :
    utf8Run (.inside 1 low high value) (b :: rest) =
      some (Char.ofNat (64 * value + b.toNat % 64)) :: utf8Run .start rest := by
  rw [utf8Run, utf8Step, if_pos within]
  · rfl

/-- A byte of a character that lacks another. -/
theorem utf8Run_more {missing low high value : Nat} {b : UInt8} (rest : List UInt8)
    (within : low ≤ b.toNat ∧ b.toNat ≤ high) :
    utf8Run (.inside (missing + 2) low high value) (b :: rest) =
      utf8Run (.inside (missing + 1) 0x80 0xBF (64 * value + b.toNat % 64)) rest := by
  rw [utf8Run, utf8Step, if_pos within, if_neg (by omega)]
  · rfl

/-- The first of three bytes leaves room for a second that makes no shorter form and no
surrogate. -/
theorem utf8Lead_three {k m : Nat} (hk : k < 16) (hm : m < 64) (short : k = 0 → 32 ≤ m)
    (surrogate : k = 13 → m < 32) :
    ∃ low high, utf8Lead (0xE0 + k) = ([], .inside 2 low high k) ∧
      low ≤ 0x80 + m ∧ 0x80 + m ≤ high := by
  unfold utf8Lead
  rw [if_neg (by omega), if_neg (by omega)]
  by_cases h0 : k = 0
  · subst h0
    exact ⟨0xA0, 0xBF, rfl, by have := short rfl; omega, by omega⟩
  by_cases h13 : k = 13
  · subst h13
    exact ⟨0x80, 0x9F, rfl, by omega, by have := surrogate rfl; omega⟩
  · rw [if_neg (by omega), if_neg (by omega), if_pos (by omega), Nat.add_sub_cancel_left]
    exact ⟨0x80, 0xBF, rfl, by omega, by omega⟩

/-- The first of four bytes leaves room for a second that makes no shorter form and nothing past
the last character. -/
theorem utf8Lead_four {k m : Nat} (hk : k ≤ 4) (hm : m < 64) (short : k = 0 → 16 ≤ m)
    (last : k = 4 → m < 16) :
    ∃ low high, utf8Lead (0xF0 + k) = ([], .inside 3 low high k) ∧
      low ≤ 0x80 + m ∧ 0x80 + m ≤ high := by
  unfold utf8Lead
  rw [if_neg (by omega), if_neg (by omega), if_neg (by omega), if_neg (by omega),
    if_neg (by omega)]
  by_cases h0 : k = 0
  · subst h0
    exact ⟨0x90, 0xBF, rfl, by have := short rfl; omega, by omega⟩
  by_cases h4 : k = 4
  · subst h4
    exact ⟨0x80, 0x8F, rfl, by omega, by have := last rfl; omega⟩
  · rw [if_neg (by omega), if_pos (by omega), Nat.add_sub_cancel_left]
    exact ⟨0x80, 0xBF, rfl, by omega, by omega⟩

/-! ## Texts -/

/-- The bytes of a character are those of its UTF-8 encoding. -/
theorem utf8Char_eq (c : Char) : utf8Char c = String.utf8EncodeChar c := by
  have last : c.toNat < 0x110000 := by
    rcases c.valid with low | high
    · exact Nat.lt_trans low (by decide)
    · exact high.2
  have value : c.val.toNat = c.toNat := rfl
  simp only [utf8Char, String.utf8EncodeChar, value]
  generalize c.toNat = n at last
  -- The first byte of each length leaves no more bits than the character has.
  by_cases one : n < 0x80
  · simp only [if_pos one, if_pos (show n ≤ 127 by omega)]
  simp only [if_neg one, if_neg (show ¬n ≤ 127 by omega)]
  by_cases two : n < 0x800
  · have first : n / 64 % 32 = n / 64 := by omega
    simp only [if_pos two, if_pos (show n ≤ 2047 by omega), first, Nat.add_comm]
  simp only [if_neg two, if_neg (show ¬n ≤ 2047 by omega)]
  by_cases three : n < 0x10000
  · have first : n / 4096 % 16 = n / 4096 := by omega
    simp only [if_pos three, if_pos (show n ≤ 65535 by omega), first, Nat.add_comm]
  · have first : n / 262144 % 8 = n / 262144 := by omega
    simp only [if_neg three, if_neg (show ¬n ≤ 65535 by omega), first, Nat.add_comm]

/-- The bytes of a text are those of its UTF-8 encoding. -/
theorem utf8_eq (s : String) : utf8 s = s.toUTF8.data.toList := by
  have encoded : s.toUTF8 = (s.toList.flatMap String.utf8EncodeChar).toByteArray := by
    calc s.toUTF8 = (String.ofList s.toList).toByteArray := by rw [String.ofList_toList]; rfl
      _ = _ := String.toByteArray_ofList
  have chars : utf8Chars s.toList = s.toList.flatMap String.utf8EncodeChar :=
    congrArg (s.toList.flatMap ·) (funext utf8Char_eq)
  rw [utf8, chars, encoded, List.data_toByteArray]

theorem toNat_ofNat_byte {n : Nat} (h : n < 256) : (UInt8.ofNat n).toNat = n := by
  rw [UInt8.toNat_ofNat']
  exact Nat.mod_eq_of_lt h

/-- A character is read back from its bytes, whatever follows them. -/
theorem utf8Run_utf8Char (c : Char) (rest : List UInt8) :
    utf8Run .start (utf8Char c ++ rest) = some c :: utf8Run .start rest := by
  have valid : c.toNat < 0xD800 ∨ 0xDFFF < c.toNat ∧ c.toNat < 0x110000 := c.valid
  have same : ∀ {n : Nat}, n = c.toNat → some (Char.ofNat n) = some c := by
    rintro n rfl
    rw [Char.ofNat_toNat]
  unfold utf8Char
  generalize hn : c.toNat = n at valid same
  by_cases one : n < 0x80
  · simp only [if_pos one, List.cons_append, List.nil_append]
    rw [utf8Run_start, toNat_ofNat_byte (by omega), utf8Lead, if_pos one]
    simp only [same rfl, List.cons_append, List.nil_append]
  by_cases two : n < 0x800
  · simp only [if_neg one, if_pos two, List.cons_append, List.nil_append]
    rw [utf8Run_start, toNat_ofNat_byte (by omega), utf8Lead, if_neg (by omega),
      if_pos (by omega), List.nil_append, utf8Run_last, toNat_ofNat_byte (by omega),
      same (by omega)]
    rw [toNat_ofNat_byte (by omega)]
    omega
  by_cases three : n < 0x10000
  · simp only [if_neg one, if_neg two, if_pos three, List.cons_append, List.nil_append]
    obtain ⟨low, high, lead, above, below⟩ := utf8Lead_three (k := n / 4096) (m := n / 64 % 64)
      (by omega) (by omega) (by omega) (by omega)
    rw [utf8Run_start, toNat_ofNat_byte (by omega), lead, List.nil_append, utf8Run_more,
      utf8Run_last, toNat_ofNat_byte (by omega), toNat_ofNat_byte (by omega), same (by omega)]
    · rw [toNat_ofNat_byte (by omega)]
      omega
    · rw [toNat_ofNat_byte (by omega)]
      exact ⟨above, below⟩
  · simp only [if_neg one, if_neg two, if_neg three, List.cons_append, List.nil_append]
    obtain ⟨low, high, lead, above, below⟩ := utf8Lead_four (k := n / 262144)
      (m := n / 4096 % 64) (by omega) (by omega) (by omega) (by omega)
    rw [utf8Run_start, toNat_ofNat_byte (by omega), lead, List.nil_append, utf8Run_more,
      utf8Run_more, utf8Run_last, toNat_ofNat_byte (by omega), toNat_ofNat_byte (by omega),
      toNat_ofNat_byte (by omega), same (by omega)]
    · rw [toNat_ofNat_byte (by omega)]
      omega
    · rw [toNat_ofNat_byte (by omega)]
      omega
    · rw [toNat_ofNat_byte (by omega)]
      exact ⟨above, below⟩

theorem utf8Run_utf8Chars (s : List Char) : utf8Run .start (utf8Chars s) = s.map some := by
  induction s with
  | nil => rfl
  | cons c rest ih =>
    show utf8Run .start (utf8Char c ++ utf8Chars rest) = _
    rw [utf8Run_utf8Char, ih, List.map_cons]

theorem mapM_id_map_some (s : List Char) : (s.map some).mapM id = some s := by
  induction s with
  | nil => rfl
  | cons c rest ih =>
    rw [List.map_cons, List.mapM_cons, ih]
    rfl

/-- A text is read back from its bytes. -/
theorem decodeUtf8?_utf8 (s : String) : decodeUtf8? (utf8 s) = some s := by
  rw [decodeUtf8?, utf8, utf8Run_utf8Chars, mapM_id_map_some, Option.map_some,
    String.ofList_toList]

end EvmWallet.Bytes
