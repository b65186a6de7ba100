import EvmWallet.Proofs.Json.Grammar

/-!
# Nothing but the grammar is read

Whatever the reader takes is a text of the value that it gives, so that it reads exactly the
grammar: `parse?_eq_some_iff`. One invariant is kept along the text, `Reached`: the characters taken
so far are the beginning of a document, with these containers open (`Opens`) and with this token begun
(`BeginsNumber`, `BeginsString`). Every step keeps it (`Reached.step`), and so does a run.
-/

namespace EvmWallet.Json

/-! ## What is open -/

/-- Items in front of another one, newest first, each with its comma. -/
inductive ItemsBefore : List Value → List Char → Prop where
  | nil : ItemsBefore [] []
  | comma {v : Value} {before : List Value} {t a s b : List Char} : ItemsBefore before t → Blank a →
      Spells v s → Blank b → ItemsBefore (v :: before) (t ++ (a ++ (s ++ (b ++ [',']))))

/-- Fields in front of another one, newest first, each with its comma. -/
inductive FieldsBefore : List (Text × Value) → List Char → Prop where
  | nil : FieldsBefore [] []
  | comma {k : Text} {v : Value} {before : List (Text × Value)} {t a n b c s d : List Char} :
      FieldsBefore before t → Blank a → SpellsText k n → Blank b → Blank c → Spells v s → Blank d →
      FieldsBefore ((k, v) :: before) (t ++ (a ++ (n ++ (b ++ ':' :: (c ++ (s ++ (d ++ [','])))))))

/-- The beginning of a document up to the place of a value, with the containers around it. -/
inductive Opens : List Frame → List Char → Prop where
  | document {a : List Char} : Blank a → Opens [] a
  | item {stack : List Frame} {before : List Value} {s t a : List Char} : Opens stack s →
      ItemsBefore before t → Blank a → Opens (.item before :: stack) (s ++ '[' :: (t ++ a))
  | field {stack : List Frame} {before : List (Text × Value)} {k : Text} {s t a n b c : List Char} :
      Opens stack s → FieldsBefore before t → Blank a → SpellsText k n → Blank b → Blank c →
      Opens (.field before k :: stack) (s ++ '\x7b' :: (t ++ (a ++ (n ++ (b ++ ':' :: c)))))

/-- The beginning of a document up to the first quote of a string. -/
inductive OpensString : Role → List Frame → List Char → Prop where
  | value {stack : List Frame} {s : List Char} : Opens stack s → OpensString .value stack s
  | key {stack : List Frame} {before : List (Text × Value)} {s t a : List Char} : Opens stack s →
      FieldsBefore before t → Blank a → OpensString (.key before) stack (s ++ '\x7b' :: (t ++ a))

theorem Blank.concat {a : List Char} (h : Blank a) {c : Char} (space : isSpace c = true) :
    Blank (a ++ [c]) := by
  intro d hd
  rcases List.mem_append.mp hd with early | last
  · exact h d early
  · rwa [List.mem_singleton.mp last]

theorem Opens.concat {stack : List Frame} {s : List Char} (h : Opens stack s) {c : Char}
    (space : isSpace c = true) : Opens stack (s ++ [c]) := by
  cases h with
  | document blank => exact .document (blank.concat space)
  | item opens before blank =>
    have wider := Opens.item opens before (blank.concat space)
    simpa using wider
  | field opens before one name two three =>
    have wider := Opens.field opens before one name two (three.concat space)
    simpa using wider

/-- Items complete those in front of them. -/
theorem ItemsBefore.complete {before items : List Value} {t u : List Char}
    (h : ItemsBefore before t) (more : SpellsItems items u) :
    SpellsItems (before.reverse ++ items) (t ++ u) := by
  induction h generalizing items u with
  | nil => exact more
  | comma _ front spelled back ih =>
    have joined := ih (.cons front spelled back more)
    simpa using joined

/-- Fields complete those in front of them. -/
theorem FieldsBefore.complete {before fields : List (Text × Value)} {t u : List Char}
    (h : FieldsBefore before t) (more : SpellsFields fields u) :
    SpellsFields (before.reverse ++ fields) (t ++ u) := by
  induction h generalizing fields u with
  | nil => exact more
  | comma _ one name two three spelled four ih =>
    have joined := ih (.cons one name two three spelled four more)
    simpa using joined

/-! ## Numbers that are begun -/

/-- The beginning of a number that ends in a part of it. -/
inductive BeginsNumber : NumberPart → List Char → Prop where
  | signed (negative : Bool) : BeginsNumber .sign (sign negative)
  | zero (negative : Bool) : BeginsNumber .zero (sign negative ++ ['0'])
  | whole (negative : Bool) {c : Char} {s : List Char} : Text.isDigit c = true → c ≠ '0' →
      (∀ d ∈ s, Text.isDigit d = true) → BeginsNumber .whole (sign negative ++ c :: s)
  | point (negative : Bool) {s : List Char} : IsWhole s →
      BeginsNumber .point (sign negative ++ (s ++ ['.']))
  | fraction (negative : Bool) {s f : List Char} : IsWhole s → IsDigits f →
      BeginsNumber .fraction (sign negative ++ (s ++ '.' :: f))
  | exponent (negative : Bool) {s f : List Char} {e : Char} : IsWhole s → IsFraction f →
      e = 'e' ∨ e = 'E' → BeginsNumber .exponent (sign negative ++ (s ++ (f ++ [e])))
  | exponentSign (negative : Bool) {s f : List Char} {e c : Char} : IsWhole s → IsFraction f →
      e = 'e' ∨ e = 'E' → c = '+' ∨ c = '-' →
      BeginsNumber .exponentSign (sign negative ++ (s ++ (f ++ [e, c])))
  | exponentDigits (negative : Bool) {s f signs d : List Char} {e : Char} : IsWhole s →
      IsFraction f → e = 'e' ∨ e = 'E' → signs = [] ∨ signs = ['+'] ∨ signs = ['-'] → IsDigits d →
      BeginsNumber .exponentDigits (sign negative ++ (s ++ (f ++ e :: (signs ++ d))))

theorem isDigits_singleton {c : Char} (digit : Text.isDigit c = true) : IsDigits [c] :=
  ⟨by simp, fun d hd => by rwa [List.mem_singleton.mp hd]⟩

theorem IsDigits.concat {s : List Char} (h : IsDigits s) {c : Char} (digit : Text.isDigit c = true) :
    IsDigits (s ++ [c]) := by
  refine ⟨by simp, fun d hd => ?_⟩
  rcases List.mem_append.mp hd with early | last
  · exact h.2 d early
  · rwa [List.mem_singleton.mp last]

/-- A letter that begins an exponent ends a number up to there. -/
theorem BeginsNumber.letter {s f : List Char} (negative : Bool) (whole : IsWhole s)
    (fraction : IsFraction f) {c : Char} {q : NumberPart}
    (next : (if c = 'e' || c = 'E' then some NumberPart.exponent else none) = some q) :
    BeginsNumber q (sign negative ++ (s ++ (f ++ [c]))) := by
  split at next
  · rename_i letter
    cases next
    exact .exponent negative whole fraction (by simpa using letter)
  · exact absurd next (by simp)

/-- What may follow a whole part. -/
theorem BeginsNumber.afterWhole {s : List Char} (negative : Bool) (whole : IsWhole s) {c : Char}
    {q : NumberPart}
    (next : (if c = '.' then some NumberPart.point
      else if c = 'e' || c = 'E' then some .exponent else none) = some q) :
    BeginsNumber q (sign negative ++ (s ++ [c])) := by
  split at next
  · rename_i point
    cases next
    exact point ▸ .point negative whole
  · exact .letter negative whole .none next

theorem BeginsNumber.next {p q : NumberPart} {w : List Char} (h : BeginsNumber p w) {c : Char}
    (next : p.next? c = some q) : BeginsNumber q (w ++ [c]) := by
  cases h with
  | signed negative =>
    by_cases zero : c = '0'
    · obtain rfl : NumberPart.zero = q := by simpa [NumberPart.next?, zero] using next
      exact zero ▸ .zero negative
    · have digit := isDigit_of_next? next
      obtain rfl : NumberPart.whole = q := by simpa [NumberPart.next?, zero, digit] using next
      exact .whole negative digit zero fun d hd => absurd hd List.not_mem_nil
  | zero negative =>
    rw [List.append_assoc]
    exact .afterWhole negative .zero next
  | @whole negative first s digit nonzero digits =>
    rw [List.append_assoc]
    by_cases more : Text.isDigit c = true
    · obtain rfl : NumberPart.whole = q := by simpa [NumberPart.next?, more] using next
      exact .whole negative digit nonzero fun d hd => by
        rcases List.mem_append.mp hd with early | last
        · exact digits d early
        · rwa [List.mem_singleton.mp last]
    · rw [NumberPart.next?, if_neg more] at next
      exact .afterWhole negative (.digits digit nonzero digits) next
  | point negative whole =>
    by_cases digit : Text.isDigit c = true
    · obtain rfl : NumberPart.fraction = q := by simpa [NumberPart.next?, digit] using next
      have begun := BeginsNumber.fraction negative whole (isDigits_singleton digit)
      simpa using begun
    · exact absurd next (by simp [NumberPart.next?, digit])
  | fraction negative whole digits =>
    by_cases digit : Text.isDigit c = true
    · obtain rfl : NumberPart.fraction = q := by simpa [NumberPart.next?, digit] using next
      have begun := BeginsNumber.fraction negative whole (digits.concat digit)
      simpa using begun
    · rw [NumberPart.next?, if_neg digit] at next
      have begun := BeginsNumber.letter negative whole (.digits digits) next
      simpa using begun
  | exponent negative whole fraction letter =>
    by_cases signed : c = '+' ∨ c = '-'
    · obtain rfl : NumberPart.exponentSign = q := by simpa [NumberPart.next?, signed] using next
      have begun := BeginsNumber.exponentSign negative whole fraction letter signed
      simpa using begun
    · by_cases digit : Text.isDigit c = true
      · obtain rfl : NumberPart.exponentDigits = q := by
          simpa [NumberPart.next?, signed, digit] using next
        have begun := BeginsNumber.exponentDigits negative whole fraction letter (.inl rfl)
          (isDigits_singleton digit)
        simpa using begun
      · exact absurd next (by simp [NumberPart.next?, signed, digit])
  | @exponentSign negative s f e mark whole fraction letter signed =>
    by_cases digit : Text.isDigit c = true
    · obtain rfl : NumberPart.exponentDigits = q := by simpa [NumberPart.next?, digit] using next
      have signs : [mark] = [] ∨ [mark] = ['+'] ∨ [mark] = ['-'] := by simpa using signed
      have begun := BeginsNumber.exponentDigits negative whole fraction letter signs
        (isDigits_singleton digit)
      simpa using begun
    · exact absurd next (by simp [NumberPart.next?, digit])
  | exponentDigits negative whole fraction letter signs digits =>
    by_cases digit : Text.isDigit c = true
    · obtain rfl : NumberPart.exponentDigits = q := by simpa [NumberPart.next?, digit] using next
      have begun := BeginsNumber.exponentDigits negative whole fraction letter signs
        (digits.concat digit)
      simpa using begun
    · exact absurd next (by simp [NumberPart.next?, digit])

/-- A number that can end here is spelled by what was written of it. -/
theorem BeginsNumber.spells {p : NumberPart} {w : List Char} (h : BeginsNumber p w) {n : Numeral}
    (closed : closeNumber w p = some n) : SpellsNumber n w := by
  cases h with
  | signed | point | exponent | exponentSign => exact absurd closed (by simp [closeNumber])
  | zero negative =>
    rw [closeNumber_whole .zero negative (.inl rfl)] at closed
    exact Option.some.inj closed ▸ .whole negative .zero
  | whole negative digit nonzero digits =>
    have whole := IsWhole.digits digit nonzero digits
    rw [closeNumber_whole whole negative (.inr rfl)] at closed
    exact Option.some.inj closed ▸ .whole negative whole
  | @fraction negative s f whole digits =>
    have spelled := SpellsNumber.real negative whole (.digits digits) .none (by simp)
    rw [List.append_nil] at spelled
    exact Option.some.inj closed ▸ spelled
  | exponentDigits negative whole fraction letter signs digits =>
    exact Option.some.inj closed ▸
      .real negative whole fraction (.digits letter signs digits) (by simp)

/-! ## Strings that are begun -/

/-- Digits of a code unit, so many of which are still to come. -/
inductive BeginsCode : Nat → Nat → List Char → Prop where
  | none : BeginsCode 4 0 []
  | digit {missing value d : Nat} {s : List Char} {c : Char} : BeginsCode (missing + 1) value s →
      Bytes.hexValue? c = some d → BeginsCode missing (16 * value + d) (s ++ [c])

/-- The beginning of a string behind its first quote. -/
inductive BeginsString : List Nat → StringPart → List Char → Prop where
  | plain {units : List Nat} {s : List Char} : SpellsUnits units.reverse s →
      BeginsString units .plain s
  | escape {units : List Nat} {s : List Char} : SpellsUnits units.reverse s →
      BeginsString units .escape (s ++ ['\\'])
  | code {units : List Nat} {s ds : List Char} {missing value : Nat} :
      SpellsUnits units.reverse s → BeginsCode (missing + 1) value ds →
      BeginsString units (.code (missing + 1) value) (s ++ '\\' :: 'u' :: ds)

theorem beginsString_nil : BeginsString [] .plain [] := .plain .nil

theorem BeginsCode.le_four {missing value : Nat} {s : List Char} (h : BeginsCode missing value s) :
    missing ≤ 4 := by
  induction h with
  | none => exact Nat.le_refl 4
  | digit _ _ ih => omega

/-- The code unit of four digits. -/
theorem BeginsCode.spells {value : Nat} {s : List Char} (h : BeginsCode 0 value s) :
    SpellsUnit value ('\\' :: 'u' :: s) := by
  -- The first digit is the one of which four were still to come.
  rcases h with _ | ⟨h, fourth⟩
  rcases h with _ | ⟨h, third⟩
  rcases h with _ | ⟨h, second⟩
  rcases h with _ | ⟨h, first⟩
  rcases h with _ | ⟨h, zeroth⟩
  · simpa using SpellsUnit.code first second third fourth
  · exact absurd h.le_four (by decide)

theorem SpellsUnits.concat {units : List Nat} {s : List Char} (h : SpellsUnits units s) {u : Nat}
    {t : List Char} (last : SpellsUnit u t) : SpellsUnits (units ++ [u]) (s ++ t) := by
  induction h with
  | nil => simpa using SpellsUnits.cons last .nil
  | cons first _ ih =>
    rw [List.append_assoc]
    exact .cons first ih

/-- One code unit more. -/
theorem BeginsString.unit {units : List Nat} {s : List Char} (h : SpellsUnits units.reverse s)
    {u : Nat} {t : List Char} (last : SpellsUnit u t) : BeginsString (u :: units) .plain (s ++ t) := by
  refine .plain ?_
  rw [List.reverse_cons]
  exact h.concat last

/-! ## The invariant -/

/-- The reader can have come to a state by these characters. -/
inductive Reached : State → List Char → Prop where
  | value {stack : List Frame} {s : List Char} : Opens stack s → Reached ⟨.value, stack⟩ s
  | firstItem {stack : List Frame} {s a : List Char} : Opens stack s → Blank a →
      Reached ⟨.firstItem, stack⟩ (s ++ '[' :: a)
  | firstKey {stack : List Frame} {s a : List Char} : Opens stack s → Blank a →
      Reached ⟨.firstKey, stack⟩ (s ++ '\x7b' :: a)
  | key {stack : List Frame} {before : List (Text × Value)} {s t a : List Char} : Opens stack s →
      FieldsBefore before t → Blank a → Reached ⟨.key before, stack⟩ (s ++ '\x7b' :: (t ++ a))
  | colon {stack : List Frame} {before : List (Text × Value)} {k : Text} {s t a n b : List Char} :
      Opens stack s → FieldsBefore before t → Blank a → SpellsText k n → Blank b →
      Reached ⟨.colon before k, stack⟩ (s ++ '\x7b' :: (t ++ (a ++ (n ++ b))))
  | literal {stack : List Frame} {v : Value} {s w rest : List Char} : Opens stack s →
      Spells v (w ++ rest) → Reached ⟨.literal rest v, stack⟩ (s ++ w)
  | number {stack : List Frame} {part : NumberPart} {s w : List Char} : Opens stack s →
      BeginsNumber part w → Reached ⟨.number w part, stack⟩ (s ++ w)
  | string {stack : List Frame} {role : Role} {units : List Nat} {part : StringPart}
      {s w : List Char} : OpensString role stack s → BeginsString units part w →
      Reached ⟨.string role units part, stack⟩ (s ++ '\x22' :: w)
  /-- Behind a value, and perhaps white space. -/
  | behind {stack : List Frame} {v : Value} {s w b : List Char} : Opens stack s → Spells v w →
      Blank b → Reached (complete v stack) (s ++ (w ++ b))

section Steps

variable {stack : List Frame} {st st' : State} {s w : List Char} {v : Value} {c : Char}

theorem Reached.whole (opens : Opens stack s) (spelled : Spells v w) :
    Reached (complete v stack) (s ++ w) := by
  have reached := Reached.behind opens spelled blank_nil
  rwa [List.append_nil] at reached

theorem reached_of_stepValue (opens : Opens stack s) (next : stepValue c stack = some st) :
    Reached st (s ++ [c]) := by
  unfold stepValue at next
  split at next
  case h_1 => exact Option.some.inj next ▸ .string (.value opens) beginsString_nil
  case h_2 => exact Option.some.inj next ▸ .firstItem opens blank_nil
  case h_3 => exact Option.some.inj next ▸ .firstKey opens blank_nil
  case h_4 => exact Option.some.inj next ▸ .literal opens .null
  case h_5 => exact Option.some.inj next ▸ .literal opens .yes
  case h_6 => exact Option.some.inj next ▸ .literal opens .no
  case h_7 => exact Option.some.inj next ▸ .number opens (.signed true)
  case h_8 =>
    obtain ⟨p, first, rfl⟩ := Option.map_eq_some_iff.mp next
    exact .number opens ((BeginsNumber.signed false).next first)

/-- Behind a value, a comma leads to the next one and a bracket closes the container. -/
theorem reached_of_stepAfter {b : List Char} (opens : Opens stack s) (spelled : Spells v w)
    (blank : Blank b) (next : stepAfter c (complete v stack) = some st) :
    Reached st (s ++ (w ++ b) ++ [c]) := by
  unfold stepAfter at next
  by_cases space : isSpace c = true
  · rw [if_pos space] at next
    have reached := Reached.behind opens spelled (blank.concat space)
    simpa [← Option.some.inj next] using reached
  · rw [if_neg space] at next
    cases opens with
    | document => exact absurd next (by simp [complete])
    | @item stack before s t a opens earlier front =>
      change (if c = ',' then some ⟨.value, .item (v :: before) :: stack⟩
        else if c = ']' then some (complete (.list (v :: before).reverse) stack) else none) = _ at next
      split at next
      · rename_i comma
        have reached := Reached.value (.item opens (earlier.comma front spelled blank) blank_nil)
        simpa [← Option.some.inj next, comma] using reached
      · split at next
        · rename_i bracket
          have items := earlier.complete (.last front spelled blank)
          have reached := Reached.whole opens (.list items)
          simpa [← Option.some.inj next, bracket] using reached
        · exact absurd next (by simp)
    | @field stack before k s t a n b' d opens earlier one name two three =>
      change (if c = ',' then some ⟨.key ((k, v) :: before), stack⟩
        else if c = '\x7d' then some (complete (.object ((k, v) :: before).reverse) stack)
        else none) = _ at next
      split at next
      · rename_i comma
        have reached := Reached.key opens (earlier.comma one name two three spelled blank) blank_nil
        simpa [← Option.some.inj next, comma] using reached
      · split at next
        · rename_i bracket
          have fields := earlier.complete (.last one name two three spelled blank)
          have reached := Reached.whole opens (.object fields)
          simpa [← Option.some.inj next, bracket] using reached
        · exact absurd next (by simp)

theorem reached_of_completeString {role : Role} {units : List Nat} (opens : OpensString role stack s)
    (spelled : SpellsUnits units.reverse w) :
    Reached (completeString role units stack) (s ++ '\x22' :: (w ++ ['\x22'])) := by
  have text : SpellsText (closeString units) ('\x22' :: (w ++ ['\x22'])) := .quoted spelled
  cases opens with
  | value opens => exact .whole opens (.string text)
  | key opens earlier blank =>
    have reached := Reached.colon opens earlier blank text blank_nil
    simpa [completeString] using reached

theorem reached_of_stepString {role : Role} {units : List Nat} {part : StringPart}
    (opens : OpensString role stack s) (begun : BeginsString units part w)
    (next : stepString c role units part stack = some st) :
    Reached st (s ++ '\x22' :: (w ++ [c])) := by
  cases begun with
  | plain spelled =>
    rw [stepString] at next
    split at next
    · rename_i quote
      exact Option.some.inj next ▸ quote ▸ reached_of_completeString opens spelled
    split at next
    · rename_i backslash
      exact Option.some.inj next ▸ backslash ▸ .string opens (.escape spelled)
    split at next
    · exact absurd next (by simp)
    · rename_i quote backslash printed
      exact Option.some.inj next ▸
        .string opens (.unit spelled (.plain quote backslash (by omega)))
  | escape spelled =>
    rw [stepString] at next
    rw [List.append_assoc]
    split at next
    · rename_i code
      exact Option.some.inj next ▸ code ▸ .string opens (.code spelled .none)
    · obtain ⟨u, short, rfl⟩ := Option.map_eq_some_iff.mp next
      exact .string opens (.unit spelled (.escape short))
  | @code s ds missing value spelled begun =>
    rw [stepString] at next
    rw [List.append_assoc]
    obtain ⟨d, digit, rfl⟩ := Option.map_eq_some_iff.mp next
    have more := begun.digit digit
    cases missing with
    | zero => exact .string opens (.unit spelled more.spells)
    | succ missing => exact .string opens (.code spelled more)

/-- A letter of a literal. -/
theorem reached_of_literal {rest : List Char} (opens : Opens stack s) (spelled : Spells v (w ++ rest))
    (next : step ⟨.literal rest v, stack⟩ c = some st) : Reached st (s ++ w ++ [c]) := by
  rw [List.append_assoc]
  match rest with
  | [] => exact absurd next (by simp [step])
  | [r] =>
    simp only [step] at next
    split at next
    · rename_i same
      exact Option.some.inj next ▸ .whole opens (same ▸ spelled)
    · exact absurd next (by simp)
  | r :: r' :: more =>
    simp only [step] at next
    split at next
    · rename_i same
      refine Option.some.inj next ▸ .literal opens ?_
      simpa [same] using spelled
    · exact absurd next (by simp)

/-- Every step keeps the invariant. -/
theorem Reached.step (h : Reached st s) (next : Json.step st c = some st') :
    Reached st' (s ++ [c]) := by
  cases h with
  | @value stack _ opens =>
    simp only [Json.step] at next
    split at next
    · rename_i space
      exact Option.some.inj next ▸ .value (opens.concat space)
    · exact reached_of_stepValue opens next
  | @firstItem stack s a opens blank =>
    simp only [Json.step] at next
    rw [List.append_assoc, List.cons_append]
    split at next
    · rename_i space
      exact Option.some.inj next ▸ .firstItem opens (blank.concat space)
    split at next
    · rename_i bracket
      exact Option.some.inj next ▸ bracket ▸ .whole opens (.emptyList blank)
    · have reached := reached_of_stepValue (.item opens .nil blank) next
      simpa using reached
  | @firstKey stack s a opens blank =>
    simp only [Json.step] at next
    rw [List.append_assoc, List.cons_append]
    split at next
    · rename_i space
      exact Option.some.inj next ▸ .firstKey opens (blank.concat space)
    split at next
    · rename_i bracket
      exact Option.some.inj next ▸ bracket ▸ .whole opens (.emptyObject blank)
    split at next
    · rename_i quote
      have reached := Reached.string (.key opens .nil blank) beginsString_nil
      simpa [← Option.some.inj next, quote] using reached
    · exact absurd next (by simp)
  | @key stack before s t a opens earlier blank =>
    simp only [Json.step] at next
    split at next
    · rename_i space
      have reached := Reached.key opens earlier (blank.concat space)
      simpa [← Option.some.inj next] using reached
    split at next
    · rename_i quote
      have reached := Reached.string (.key opens earlier blank) beginsString_nil
      simpa [← Option.some.inj next, quote] using reached
    · exact absurd next (by simp)
  | @colon stack before k s t a n b opens earlier blank name rest =>
    simp only [Json.step] at next
    split at next
    · rename_i space
      have reached := Reached.colon opens earlier blank name (rest.concat space)
      simpa [← Option.some.inj next] using reached
    split at next
    · rename_i colon
      have reached := Reached.value (.field opens earlier blank name rest blank_nil)
      simpa [← Option.some.inj next, colon] using reached
    · exact absurd next (by simp)
  | literal opens spelled => exact reached_of_literal opens spelled next
  | @number stack part s w opens begun =>
    simp only [Json.step] at next
    split at next
    · rename_i p more
      rw [List.append_assoc]
      exact Option.some.inj next ▸ .number opens (begun.next more)
    · obtain ⟨n, closed, after⟩ := Option.bind_eq_some_iff.mp next
      have reached := reached_of_stepAfter opens (.number (begun.spells closed)) blank_nil after
      simpa using reached
  | string opens begun =>
    rw [List.append_assoc, List.cons_append]
    exact reached_of_stepString opens begun next
  | behind opens spelled blank =>
    rw [step_complete] at next
    exact reached_of_stepAfter opens spelled blank next

theorem Reached.run (h : Reached st s) {t : List Char} (taken : Json.run st t = some st') :
    Reached st' (s ++ t) := by
  induction t generalizing st s with
  | nil => exact Option.some.inj taken ▸ (List.append_nil s).symm ▸ h
  | cons c t ih =>
    obtain ⟨mid, next, rest⟩ := Option.bind_eq_some_iff.mp taken
    have reached := ih (h.step next) rest
    rwa [List.append_assoc] at reached

/-- Where a document may end, its value is spelled. -/
theorem Reached.spelled (h : Reached st s) (ended : st.result? = some v) {text : String}
    (same : text.toList = s) : Spelled v text := by
  cases h with
  | @number stack part s w opens begun =>
    cases opens with
    | document blank =>
      obtain ⟨n, closed, rfl⟩ := Option.map_eq_some_iff.mp ended
      exact .document blank (.number (begun.spells closed)) blank_nil (by simpa using same)
    | item | field => exact absurd ended (by simp [State.result?])
  | behind opens spelled blank =>
    cases opens with
    | document front => exact Option.some.inj ended ▸ .document front spelled blank same
    | item | field => exact absurd ended (by simp [State.result?, complete])
  | _ => exact absurd ended (by simp [State.result?])

end Steps

/-- The reader reads exactly the texts of the grammar, each as the value that it spells. -/
theorem parse?_eq_some_iff {v : Value} {text : String} : parse? text = some v ↔ Spelled v text := by
  refine ⟨fun read => ?_, parse?_of_spelled⟩
  obtain ⟨st, taken, ended⟩ := Option.bind_eq_some_iff.mp read
  have start : Reached .start [] := .value (.document blank_nil)
  exact (start.run taken).spelled ended rfl

end EvmWallet.Json
