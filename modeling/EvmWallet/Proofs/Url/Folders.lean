import EvmWallet.Proofs.Url.Segments

/-!
# Below a folder

What a URL of the web has in its path, what its folder is (`asFolder_rooted`), and where a name in that
folder with a text behind it leads (`descend_web`, `descend_plain`).
-/

namespace EvmWallet.Url

variable {u base : Url} {port : Nat} {segments : List (List Char)}

/-! ## Paths as texts -/

/-- The text of a URL's path. -/
def pathText (u : Url) : List Char := Url.pathChars true u.path

/-- A path, ended by a slash. -/
def slashed (path : List Char) : List Char :=
  if path.getLast? = some '/' then path else path ++ ['/']

theorem segmentChars_append (first second : List (List Char)) :
    segmentChars (first ++ second) = segmentChars first ++ segmentChars second :=
  List.flatMap_append

theorem pathText_rooted (rooted : u.path = .rooted segments) : u.pathText = segmentChars segments := by
  rw [pathText, rooted]
  unfold pathChars
  simp only
  split <;> rfl

/-- The text behind the last slash of two ways to write a path. -/
theorem last_of_path {front front' last last' : List Char} (h : '/' ∉ last) (h' : '/' ∉ last')
    (same : front ++ '/' :: last = front' ++ '/' :: last') : last = last' := by
  have cut (front : List Char) {last : List Char} (h : '/' ∉ last) :
      (cutAt '/' (front ++ '/' :: last).reverse).1 = last.reverse := by
    rw [List.reverse_append, List.reverse_cons, List.append_assoc, List.singleton_append,
      cutAt_mark (by simpa using h)]
  have reversed := cut front h
  rw [same, cut front' h'] at reversed
  exact (List.reverse_injective reversed).symm

/-! ## URLs of the web -/

theorem segmentsAfter_web (port : Nat) (before : List (List Char)) (s : List Char) :
    segmentsAfter (.web port) before s =
      (Walk.run (.web port) ⟨before, false⟩ (Text.pieces (Style.web port).separates s)).segments := by
  rw [segmentsAfter, if_neg nofun, walk]

theorem pathAfterHost_web (port : Nat) (s : List Char) :
    ∃ segments, pathAfterHost (.web port) s = .rooted segments ∧ ∀ p ∈ segments, '/' ∉ p := by
  cases s with
  | nil =>
    exact ⟨[[]], rfl, fun p present => List.mem_singleton.mp present ▸ List.not_mem_nil⟩
  | cons c rest =>
    refine ⟨_, rfl, ?_⟩
    rw [segmentsAfter_web]
    exact Walk.slash_not_mem_run (fun _ none => absurd none List.not_mem_nil)
      fun _ present => slash_not_mem_pieces present

theorem ok_of_bind {α β : Type} {x : Except Error α} {f : α → Except Error β} {b : β}
    (h : x >>= f = .ok b) : ∃ a, x = .ok a ∧ f a = .ok b := by
  cases x with
  | error e => exact nomatch h
  | ok a => exact ⟨a, rfl, h⟩

theorem path_of_readServer {style : Style} {p : Parts} {s : List Char} {a : Option Authority}
    {path : Path} (read : readServer style p s = .ok (a, path)) :
    ∃ text, path = pathAfterHost style text := by
  unfold readServer at read
  obtain ⟨⟨authority, rest⟩, -, made⟩ := ok_of_bind read
  exact ⟨_, (Prod.ext_iff.mp (Except.ok.inj made)).2.symm⟩

/-- A URL of the web has a path of segments. -/
theorem rooted_of_web {s : String} (read : Url.ofString s = .ok u)
    (web : Style.ofScheme u.scheme = .web port) :
    ∃ segments, u.path = .rooted segments ∧ ∀ p ∈ segments, '/' ∉ p := by
  unfold Url.ofString ofChars at read
  split at read
  · exact nomatch read
  · rename_i scheme rest _
    obtain ⟨⟨authority, path⟩, body, made⟩ := ok_of_bind read
    obtain rfl := Except.ok.inj made
    rw [show Style.ofScheme scheme = .web port from web] at body
    obtain ⟨text, rfl⟩ := path_of_readServer (s := _) body
    exact pathAfterHost_web port text

theorem asFolder_rooted (rooted : u.path = .rooted segments) (free : ∀ p ∈ segments, '/' ∉ p) :
    ∃ folder, u.asFolder = { u with path := .rooted (folder ++ [[]]) } ∧
      slashed u.pathText = segmentChars folder ++ ['/'] := by
  rw [pathText_rooted rooted]
  unfold asFolder
  rw [rooted]
  simp only
  rcases List.eq_nil_or_concat' segments with rfl | ⟨init, last, rfl⟩
  · exact ⟨[], rfl, rfl⟩
  have text : segmentChars (init ++ [last]) = segmentChars init ++ '/' :: last := by
    rw [segmentChars_append]
    exact congrArg (segmentChars init ++ ·) (List.append_nil _)
  have inside : '/' ∉ last := free last (by simp)
  by_cases empty : last = []
  · subst empty
    exact ⟨init, by rw [if_pos (by simp)]; rw [← rooted], by rw [text, slashed, if_pos (by simp)]⟩
  · have ends : (segmentChars init ++ '/' :: last).getLast? ≠ some '/' := by
      rw [List.getLast?_append_cons, List.getLast?_cons_of_ne_nil empty]
      exact fun slash => inside (List.mem_of_getLast? slash)
    refine ⟨init ++ [last], by rw [if_neg (by simpa using empty)], ?_⟩
    rw [text, slashed, if_neg ends]

/-! ## Descending -/

section Descending

variable {name s : List Char}

theorem ofChars_append {front : List Char} (free : ∀ mark ∈ ['?', '#'], mark ∉ front)
    (style : Style) (s : List Char) :
    Parts.ofChars style (front ++ s) =
      { Parts.ofChars style s with body := front ++ (Parts.ofChars style s).body } := by
  simp only [Parts.ofChars, cutAt_append (free '#' (by simp)), cutAt_append (free '?' (by simp))]

theorem descend_web (web : Style.ofScheme base.scheme = .web port)
    (rooted : base.path = .rooted segments) (letters : ∀ c ∈ name, isAlphanumeric c = true)
    (s : List Char) :
    base.descend (name ++ '/' :: s) = .ok { base with
      path := .rooted (Walk.run (.web port) ⟨segments.dropLast ++ [percentEncode inPath name], false⟩
        (Text.pieces (Style.web port).separates
          (Parts.ofChars (.web port) (trimmedEnd s)).body)).segments
      query := (Parts.ofChars (.web port) (trimmedEnd s)).query
      fragment := (Parts.ofChars (.web port) (trimmedEnd s)).fragment } := by
  have plain := plainSegment_of_alphanumeric letters
  have front : trimmed (name ++ '/' :: s) = (name ++ ['/']) ++ trimmedEnd s := by
    have some : name ++ ['/'] ≠ [] := by simp
    rw [List.append_cons]
    refine trimmed_append (fun c head => ?_) (trimmedEnd_eq_self_iff.mpr ?_) some s
    · rcases name with _ | ⟨d, rest⟩
      · obtain rfl := Option.some.inj head
        decide
      · have bounds := bounds_of_isAlphanumeric (letters c (List.mem_of_head? head))
        omega
    · intro c last
      rw [List.getLast?_concat] at last
      obtain rfl := Option.some.inj last
      decide
  have free : ∀ mark ∈ ['?', '#'], mark ∉ name ++ ['/'] := by
    intro mark either present
    rcases List.mem_append.mp present with inside | slash
    · have inert := plain.inert mark inside
      rcases List.mem_pair.mp either with rfl | rfl <;> exact absurd inert (by decide)
    · obtain rfl := List.mem_singleton.mp slash
      exact absurd either (by decide)
  have walked (rest : List Char) :
      segmentsAfter (.web port) segments.dropLast ((name ++ ['/']) ++ rest) =
        (Walk.run (.web port) ⟨segments.dropLast ++ [percentEncode inPath name], false⟩
          (Text.pieces (Style.web port).separates rest)).segments := by
    rw [segmentsAfter_web, List.append_assoc, List.singleton_append,
      Text.pieces_append (by rfl), plain.pieces, List.singleton_append, Walk.run, plain.take]
  rw [descend, rooted]
  simp only [web, front, ofChars_append free, walked]

theorem descend_plain (web : Style.ofScheme base.scheme = .web port)
    (rooted : base.path = .rooted segments) (letters : ∀ c ∈ name, isAlphanumeric c = true)
    (plain : PlainSegment s) :
    base.descend (name ++ '/' :: s) = .ok { base with
      path := .rooted (segments.dropLast ++ [percentEncode inPath name, percentEncode inPath s])
      query := none
      fragment := none } := by
  rw [descend_web web rooted letters, plain.ofChars, plain.pieces, Walk.run, Walk.run, plain.take,
    List.append_assoc]
  rfl

end Descending

end EvmWallet.Url
