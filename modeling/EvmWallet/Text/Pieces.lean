/-!
# Pieces of a text

Cutting a text at separators, and joining pieces with a separator between them. What is
joined is cut into the same pieces if none of them holds the separator (`pieces_joined`).
-/

namespace EvmWallet.Text

/-- The pieces between separators; there is always one more than there are separators. -/
def pieces (separates : Char → Bool) : List Char → List (List Char)
  | [] => [[]]
  | c :: rest =>
    if separates c then [] :: pieces separates rest
    else
      match pieces separates rest with
      | [] => [[c]]
      | p :: more => (c :: p) :: more

/-- Pieces with a separator between them. -/
def joined (separator : Char) : List (List Char) → List Char
  | [] => []
  | [p] => p
  | p :: q :: rest => p ++ separator :: joined separator (q :: rest)

theorem pieces_of_none {separates : Char → Bool} {s : List Char}
    (h : ∀ c ∈ s, separates c = false) : pieces separates s = [s] := by
  induction s with
  | nil => rfl
  | cons c r ih =>
    rw [pieces, h c List.mem_cons_self, ih fun d hd => h d (List.mem_cons_of_mem _ hd)]
    rfl

theorem pieces_ne_nil (separates : Char → Bool) (s : List Char) : pieces separates s ≠ [] := by
  cases s with
  | nil => exact List.cons_ne_nil _ _
  | cons c r =>
    rw [pieces]
    split
    · exact List.cons_ne_nil _ _
    · split <;> exact List.cons_ne_nil _ _

/-- The pieces of two texts with a separator between them are those of the two. -/
theorem pieces_append {separates : Char → Bool} {d : Char} (hd : separates d = true)
    (s rest : List Char) :
    pieces separates (s ++ d :: rest) = pieces separates s ++ pieces separates rest := by
  induction s with
  | nil => simp [pieces, hd]
  | cons c r ih =>
    rw [List.cons_append, pieces, pieces, ih]
    split
    · rfl
    · cases first : pieces separates r with
      | nil => exact absurd first (pieces_ne_nil separates r)
      | cons p more => rfl

theorem pieces_append_separator {separates : Char → Bool} {s : List Char} {d : Char}
    (rest : List Char) (h : ∀ c ∈ s, separates c = false) (hd : separates d = true) :
    pieces separates (s ++ d :: rest) = s :: pieces separates rest := by
  rw [pieces_append hd, pieces_of_none h]
  rfl

/-- A piece is a part of the text without separators. -/
theorem of_mem_pieces {separates : Char → Bool} {s p : List Char} (h : p ∈ pieces separates s) :
    p.Sublist s ∧ ∀ c ∈ p, separates c = false := by
  induction s generalizing p with
  | nil =>
    obtain rfl := List.mem_singleton.mp h
    exact ⟨.refl _, fun _ none => absurd none List.not_mem_nil⟩
  | cons c r ih =>
    rw [pieces] at h
    split at h
    · rcases List.mem_cons.mp h with rfl | later
      · exact ⟨List.nil_sublist _, fun _ none => absurd none List.not_mem_nil⟩
      · exact ⟨(ih later).1.cons c, (ih later).2⟩
    · rename_i inside
      cases first : pieces separates r with
      | nil => exact absurd first (pieces_ne_nil separates r)
      | cons q more =>
        rw [first] at h ih
        rcases List.mem_cons.mp h with rfl | later
        · obtain ⟨part, free⟩ := ih List.mem_cons_self
          refine ⟨part.cons_cons c, fun d present => ?_⟩
          rcases List.mem_cons.mp present with rfl | behind
          · exact Bool.eq_false_iff.mpr inside
          · exact free d behind
        · obtain ⟨part, free⟩ := ih (List.mem_cons_of_mem q later)
          exact ⟨part.cons c, free⟩

/-- Cutting undoes joining. -/
theorem pieces_joined {separator : Char} (p : List Char) (ps : List (List Char))
    (h : ∀ q ∈ p :: ps, ∀ c ∈ q, c ≠ separator) :
    pieces (· = separator) (joined separator (p :: ps)) = p :: ps := by
  induction ps generalizing p with
  | nil => exact pieces_of_none fun c hc => by simpa using h p List.mem_cons_self c hc
  | cons q rest ih =>
    rw [joined, pieces_append_separator _
      (fun c hc => by simpa using h p List.mem_cons_self c hc) (by simp),
      ih q fun r hr => h r (List.mem_cons_of_mem _ hr)]

end EvmWallet.Text
