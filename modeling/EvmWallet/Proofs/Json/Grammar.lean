import EvmWallet.Json.Reader
import EvmWallet.Json.Real

/-!
# The grammar of JSON, and that all of it is read

`Spells v s` says that the characters `s` are a text of the value `v`, with white space and
escapes in any of the places where the format has one. The reader takes every such text as that
value: `parse?_of_spelled`. The proof follows the reader along the text; a number has no end of
its own, so that behind a value the reader may still stand inside it (`Took`).
-/

namespace EvmWallet.Json

/-! ## Texts of values -/

/-- White space, or nothing. -/
def Blank (s : List Char) : Prop := ∀ c ∈ s, isSpace c = true

/-- Digits, at least one. -/
def IsDigits (s : List Char) : Prop := s ≠ [] ∧ ∀ c ∈ s, Text.isDigit c = true

/-- A whole part has no zero in front of other digits. -/
inductive IsWhole : List Char → Prop where
  | zero : IsWhole ['0']
  | digits {c : Char} {s : List Char} : Text.isDigit c = true → c ≠ '0' →
      (∀ d ∈ s, Text.isDigit d = true) → IsWhole (c :: s)

/-- A fraction, if there is one. -/
inductive IsFraction : List Char → Prop where
  | none : IsFraction []
  | digits {s : List Char} : IsDigits s → IsFraction ('.' :: s)

/-- An exponent, if there is one. -/
inductive IsExponent : List Char → Prop where
  | none : IsExponent []
  | digits {e : Char} {signs s : List Char} : e = 'e' ∨ e = 'E' →
      signs = [] ∨ signs = ['+'] ∨ signs = ['-'] → IsDigits s → IsExponent (e :: (signs ++ s))

/-- A text of a number. -/
inductive SpellsNumber : Numeral → List Char → Prop where
  | whole {s : List Char} (negative : Bool) : IsWhole s →
      SpellsNumber (.whole negative (Text.addDigits 0 s)) (sign negative ++ s)
  | real {s f e : List Char} (negative : Bool) : IsWhole s → IsFraction f → IsExponent e →
      f ++ e ≠ [] →
      SpellsNumber (.real (sign negative ++ (s ++ (f ++ e)))) (sign negative ++ (s ++ (f ++ e)))

/-- How a code unit stands in a string: as a character, behind a backslash, or by its number. -/
inductive SpellsUnit : Nat → List Char → Prop where
  | plain {c : Char} : c ≠ '\x22' → c ≠ '\\' → 32 ≤ c.toNat → SpellsUnit c.toNat [c]
  | escape {c : Char} {u : Nat} : shortEscape? c = some u → SpellsUnit u ['\\', c]
  | code {a b c d : Char} {i j k l : Nat} : Bytes.hexValue? a = some i →
      Bytes.hexValue? b = some j → Bytes.hexValue? c = some k → Bytes.hexValue? d = some l →
      SpellsUnit (16 * (16 * (16 * i + j) + k) + l) ['\\', 'u', a, b, c, d]

/-- How code units stand in a string, one after the other. -/
inductive SpellsUnits : List Nat → List Char → Prop where
  | nil : SpellsUnits [] []
  | cons {u : Nat} {units : List Nat} {s t : List Char} :
      SpellsUnit u s → SpellsUnits units t → SpellsUnits (u :: units) (s ++ t)

/-- A text of a string: its code units between quotes. -/
inductive SpellsText : Text → List Char → Prop where
  | quoted {units : List Nat} {s : List Char} : SpellsUnits units s →
      SpellsText ((textOfUnits units).map String.ofList) ('\x22' :: (s ++ ['\x22']))

mutual
/-- A text of a value, from its first character to its last. -/
inductive Spells : Value → List Char → Prop where
  | null : Spells .null "null".toList
  | yes : Spells (.bool true) "true".toList
  | no : Spells (.bool false) "false".toList
  | number {n : Numeral} {s : List Char} : SpellsNumber n s → Spells (.number n) s
  | string {t : Text} {s : List Char} : SpellsText t s → Spells (.string t) s
  | emptyList {s : List Char} : Blank s → Spells (.list []) ('[' :: (s ++ [']']))
  | list {items : List Value} {s : List Char} : SpellsItems items s →
      Spells (.list items) ('[' :: (s ++ [']']))
  | emptyObject {s : List Char} : Blank s → Spells (.object []) ('\x7b' :: (s ++ ['\x7d']))
  | object {fields : List (Text × Value)} {s : List Char} : SpellsFields fields s →
      Spells (.object fields) ('\x7b' :: (s ++ ['\x7d']))

/-- A text of items, with commas between them. -/
inductive SpellsItems : List Value → List Char → Prop where
  | last {v : Value} {a s b : List Char} : Blank a → Spells v s → Blank b →
      SpellsItems [v] (a ++ (s ++ b))
  | cons {v : Value} {items : List Value} {a s b t : List Char} : Blank a → Spells v s →
      Blank b → SpellsItems items t → SpellsItems (v :: items) (a ++ (s ++ (b ++ ',' :: t)))

/-- A text of fields, with commas between them and a colon in each. -/
inductive SpellsFields : List (Text × Value) → List Char → Prop where
  | last {k : Text} {v : Value} {a n b c s d : List Char} : Blank a → SpellsText k n → Blank b →
      Blank c → Spells v s → Blank d →
      SpellsFields [(k, v)] (a ++ (n ++ (b ++ ':' :: (c ++ (s ++ d)))))
  | cons {k : Text} {v : Value} {fields : List (Text × Value)} {a n b c s d t : List Char} :
      Blank a → SpellsText k n → Blank b → Blank c → Spells v s → Blank d →
      SpellsFields fields t →
      SpellsFields ((k, v) :: fields) (a ++ (n ++ (b ++ ':' :: (c ++ (s ++ (d ++ ',' :: t))))))
end

/-- A document with one value: a text of it, and white space around. -/
inductive Spelled : Value → String → Prop where
  | document {v : Value} {a s b : List Char} {text : String} : Blank a → Spells v s → Blank b →
      text.toList = a ++ (s ++ b) → Spelled v text

/-! ## White space -/

/-- Characters that may stand behind a value. -/
def Delimits (c : Char) : Prop := isSpace c = true ∨ c = ',' ∨ c = ']' ∨ c = '\x7d'

theorem Blank.head {c : Char} {s : List Char} (h : Blank (c :: s)) : isSpace c = true :=
  h c List.mem_cons_self

theorem Blank.tail {c : Char} {s : List Char} (h : Blank (c :: s)) : Blank s :=
  fun d hd => h d (List.mem_cons_of_mem c hd)

theorem blank_nil : Blank [] := fun _ h => absurd h List.not_mem_nil

/-- A state that white space leaves as it is. -/
def State.Idle (s : State) : Prop := ∀ c, isSpace c = true → step s c = some s

theorem State.Idle.run {s : State} (idle : s.Idle) {w : List Char} (h : Blank w) :
    Json.run s w = some s := by
  induction w with
  | nil => rfl
  | cons c w ih =>
    rw [Json.run, idle c h.head]
    exact ih h.tail

theorem idle_value (stack : List Frame) : State.Idle ⟨.value, stack⟩ := by
  intro c h
  show (if isSpace c then _ else _) = _
  rw [if_pos h]

theorem idle_firstItem (stack : List Frame) : State.Idle ⟨.firstItem, stack⟩ := by
  intro c h
  show (if isSpace c then _ else _) = _
  rw [if_pos h]

theorem idle_firstKey (stack : List Frame) : State.Idle ⟨.firstKey, stack⟩ := by
  intro c h
  show (if isSpace c then _ else _) = _
  rw [if_pos h]

theorem idle_key (before : List (Text × Value)) (stack : List Frame) :
    State.Idle ⟨.key before, stack⟩ := by
  intro c h
  show (if isSpace c then _ else _) = _
  rw [if_pos h]

theorem idle_colon (before : List (Text × Value)) (key : Text) (stack : List Frame) :
    State.Idle ⟨.colon before key, stack⟩ := by
  intro c h
  show (if isSpace c then _ else _) = _
  rw [if_pos h]

/-! ## Behind a value -/

/-- The reader has taken a value: it stands behind it, or in it if that is a number that could
go on. -/
inductive Took (v : Value) (stack : List Frame) : State → Prop where
  | whole : Took v stack (complete v stack)
  | number {n : Numeral} {written : List Char} {part : NumberPart} : v = .number n →
      closeNumber written part = some n → Took v stack ⟨.number written part, stack⟩

theorem step_complete (v : Value) (stack : List Frame) (c : Char) :
    step (complete v stack) c = stepAfter c (complete v stack) := by
  cases stack with
  | nil => rfl
  | cons f stack => cases f <;> rfl

theorem idle_complete (v : Value) (stack : List Frame) : (complete v stack).Idle := by
  intro c h
  rw [step_complete, stepAfter, if_pos h]

theorem isDigit_of_delimits {c : Char} (h : Delimits c) : Text.isDigit c = false := by
  rcases h with space | rfl | rfl | rfl
  · simp only [isSpace, Bool.or_eq_true, decide_eq_true_eq] at space
    rcases space with ((rfl | rfl) | rfl) | rfl <;> rfl
  all_goals rfl

/-- No number goes on with a delimiter. -/
theorem next?_of_delimits {c : Char} (h : Delimits c) {written : List Char} {part : NumberPart}
    {n : Numeral} (closed : closeNumber written part = some n) : part.next? c = none := by
  have digit := isDigit_of_delimits h
  have point : c ≠ '.' ∧ c ≠ 'e' ∧ c ≠ 'E' := by
    rcases h with space | rfl | rfl | rfl
    · simp only [isSpace, Bool.or_eq_true, decide_eq_true_eq] at space
      rcases space with ((rfl | rfl) | rfl) | rfl <;> decide
    all_goals decide
  cases part with
  | sign | point | exponent | exponentSign => exact absurd closed (by simp [closeNumber])
  | _ => simp [NumberPart.next?, digit, point]

/-- A delimiter ends the value. -/
theorem Took.step {v : Value} {stack : List Frame} {s : State} (took : Took v stack s) {c : Char}
    (h : Delimits c) : Json.step s c = stepAfter c (complete v stack) := by
  cases took with
  | whole => exact step_complete v stack c
  | @number n written part same closed =>
    subst same
    have last := next?_of_delimits h closed
    simp only [Json.step, last, closed, Option.bind_some]

/-- White space behind a value leaves it taken. -/
theorem Took.run {v : Value} {stack : List Frame} {s : State} (took : Took v stack s)
    {w : List Char} (h : Blank w) : ∃ s', Json.run s w = some s' ∧ Took v stack s' := by
  cases w with
  | nil => exact ⟨s, rfl, took⟩
  | cons c w =>
    refine ⟨complete v stack, ?_, .whole⟩
    rw [Json.run, took.step (.inl h.head), stepAfter, if_pos h.head]
    exact (idle_complete v stack).run h.tail

/-- The document may end behind its value. -/
theorem Took.result? {v : Value} {s : State} (took : Took v [] s) : s.result? = some v := by
  cases took with
  | whole => rfl
  | @number n written part same closed =>
    subst same
    show (closeNumber written part).map Value.number = _
    rw [closed, Option.map_some]

theorem Took.comma_item {v : Value} {before : List Value} {stack : List Frame} {s : State}
    (took : Took v (.item before :: stack) s) :
    Json.step s ',' = some ⟨.value, .item (v :: before) :: stack⟩ := by
  rw [took.step (.inr (.inl rfl))]
  rfl

theorem Took.close_list {v : Value} {before : List Value} {stack : List Frame} {s : State}
    (took : Took v (.item before :: stack) s) :
    Json.step s ']' = some (complete (.list (v :: before).reverse) stack) := by
  rw [took.step (.inr (.inr (.inl rfl)))]
  rfl

theorem Took.comma_field {v : Value} {k : Text} {before : List (Text × Value)}
    {stack : List Frame} {s : State} (took : Took v (.field before k :: stack) s) :
    Json.step s ',' = some ⟨.key ((k, v) :: before), stack⟩ := by
  rw [took.step (.inr (.inl rfl))]
  rfl

theorem Took.close_object {v : Value} {k : Text} {before : List (Text × Value)}
    {stack : List Frame} {s : State} (took : Took v (.field before k :: stack) s) :
    Json.step s '\x7d' = some (complete (.object ((k, v) :: before).reverse) stack) := by
  rw [took.step (.inr (.inr (.inr rfl)))]
  rfl

/-! ## Strings -/

theorem shortEscape?_ne_u {c : Char} {u : Nat} (h : shortEscape? c = some u) : c ≠ 'u' := by
  rintro rfl
  exact absurd h (by simp [shortEscape?])

theorem run_unit {u : Nat} {s : List Char} (h : SpellsUnit u s) (role : Role) (units : List Nat)
    (stack : List Frame) :
    run ⟨.string role units .plain, stack⟩ s = some ⟨.string role (u :: units) .plain, stack⟩ := by
  cases h with
  | @plain c quote backslash printed =>
    have plain : stepString c role units .plain stack =
        some ⟨.string role (c.toNat :: units) .plain, stack⟩ := by
      rw [stepString, if_neg quote, if_neg backslash, if_neg (by omega)]
    simp only [run, step, plain, Option.bind_some]
  | @escape c u short =>
    have escaped : stepString c role units .escape stack =
        some ⟨.string role (u :: units) .plain, stack⟩ := by
      rw [stepString, if_neg (shortEscape?_ne_u short), short, Option.map_some]
    show run ⟨.string role units .escape, stack⟩ [c] = _
    simp only [run, step, escaped, Option.bind_some]
  | @code a b c d i j k l first second third fourth =>
    show run ⟨.string role units (.code 4 0), stack⟩ [a, b, c, d] = _
    simp [run, step, stepString, first, second, third, fourth]

theorem run_units {units : List Nat} {s : List Char} (h : SpellsUnits units s) (role : Role)
    (before : List Nat) (stack : List Frame) :
    run ⟨.string role before .plain, stack⟩ s =
      some ⟨.string role (units.reverse ++ before) .plain, stack⟩ := by
  induction h generalizing before with
  | nil => rfl
  | @cons u units s t one more ih =>
    rw [run_append, run_unit one, Option.bind_some, ih, List.reverse_cons, List.append_assoc]
    rfl

/-- A string is taken from the character behind its first quote on. -/
theorem run_quoted {units : List Nat} {s : List Char} (h : SpellsUnits units s) (role : Role)
    (stack : List Frame) :
    run ⟨.string role [] .plain, stack⟩ (s ++ ['\x22']) =
      some (completeString role units.reverse stack) := by
  rw [run_append, run_units h, Option.bind_some, List.append_nil]
  rfl

theorem closeString_reverse (units : List Nat) :
    closeString units.reverse = (textOfUnits units).map String.ofList := by
  rw [closeString, List.reverse_reverse]

theorem run_text {t : Text} {s : List Char} (h : SpellsText t s) (stack : List Frame) :
    run ⟨.value, stack⟩ s = some (complete (.string t) stack) := by
  cases h with
  | @quoted units s body =>
    show run ⟨.string .value [] .plain, stack⟩ (s ++ ['\x22']) = _
    rw [run_quoted body, completeString, closeString_reverse]

theorem run_key {t : Text} {s : List Char} (h : SpellsText t s) (before : List (Text × Value))
    (stack : List Frame) : run ⟨.key before, stack⟩ s = some ⟨.colon before t, stack⟩ := by
  cases h with
  | @quoted units s body =>
    show run ⟨.string (.key before) [] .plain, stack⟩ (s ++ ['\x22']) = _
    rw [run_quoted body, completeString, closeString_reverse]

/-! ## Numbers -/

/-- The part of a number in which further characters end. -/
def NumberPart.advance : NumberPart → List Char → Option NumberPart
  | p, [] => some p
  | p, c :: s => (p.next? c).bind (advance · s)

theorem NumberPart.advance_append (p : NumberPart) (s t : List Char) :
    p.advance (s ++ t) = (p.advance s).bind (·.advance t) := by
  induction s generalizing p with
  | nil => rfl
  | cons c s ih =>
    show (p.next? c).bind _ = ((p.next? c).bind _).bind _
    cases p.next? c with
    | none => rfl
    | some q => exact ih q

theorem run_advance {p q : NumberPart} {s : List Char} (h : p.advance s = some q)
    (written : List Char) (stack : List Frame) :
    run ⟨.number written p, stack⟩ s = some ⟨.number (written ++ s) q, stack⟩ := by
  induction s generalizing p written with
  | nil =>
    rw [NumberPart.advance, Option.some.injEq] at h
    rw [run, h, List.append_nil]
  | cons c s ih =>
    obtain ⟨r, next, rest⟩ := Option.bind_eq_some_iff.mp h
    have stepped : step ⟨.number written p, stack⟩ c = some ⟨.number (written ++ [c]) r, stack⟩ := by
      simp only [step, next]
    rw [run, stepped, Option.bind_some, ih rest, List.append_assoc]
    rfl

/-- A part that takes any further digit. -/
def NumberPart.Loops (p : NumberPart) : Prop := ∀ c, Text.isDigit c = true → p.next? c = some p

theorem NumberPart.Loops.advance {p : NumberPart} (loops : p.Loops) {s : List Char}
    (digits : ∀ c ∈ s, Text.isDigit c = true) : p.advance s = some p := by
  induction s with
  | nil => rfl
  | cons c s ih =>
    rw [NumberPart.advance, loops c (digits c List.mem_cons_self), Option.bind_some]
    exact ih fun d hd => digits d (List.mem_cons_of_mem c hd)

theorem loops_whole : NumberPart.whole.Loops := fun c h => by simp [NumberPart.next?, h]

theorem loops_fraction : NumberPart.fraction.Loops := fun c h => by simp [NumberPart.next?, h]

theorem loops_exponentDigits : NumberPart.exponentDigits.Loops :=
  fun c h => by simp [NumberPart.next?, h]

/-- Digits behind a part that takes one and then loops. -/
theorem advance_digits {p q : NumberPart} (loops : q.Loops)
    (first : ∀ c, Text.isDigit c = true → p.next? c = some q) {s : List Char} (h : IsDigits s) :
    p.advance s = some q := by
  obtain ⟨nonempty, digits⟩ := h
  cases s with
  | nil => exact absurd rfl nonempty
  | cons c s =>
    rw [NumberPart.advance, first c (digits c List.mem_cons_self), Option.bind_some]
    exact loops.advance fun d hd => digits d (List.mem_cons_of_mem c hd)

/-- A whole part ends where a fraction or an exponent may begin. -/
theorem advance_whole {s : List Char} (h : IsWhole s) :
    ∃ p, NumberPart.sign.advance s = some p ∧ (p = .zero ∨ p = .whole) := by
  cases h with
  | zero => exact ⟨.zero, rfl, .inl rfl⟩
  | @digits c s digit nonzero more =>
    refine ⟨.whole, ?_, .inr rfl⟩
    rw [NumberPart.advance]
    have next : NumberPart.sign.next? c = some .whole := by simp [NumberPart.next?, digit, nonzero]
    rw [next, Option.bind_some]
    exact loops_whole.advance more

theorem advance_fraction {p : NumberPart} (hp : p = .zero ∨ p = .whole) {s : List Char}
    (h : IsFraction s) :
    ∃ q, p.advance s = some q ∧ (s = [] ∧ q = p ∨ s ≠ [] ∧ q = .fraction) := by
  cases h with
  | none => exact ⟨p, rfl, .inl ⟨rfl, rfl⟩⟩
  | @digits s digits =>
    refine ⟨.fraction, ?_, .inr ⟨by simp, rfl⟩⟩
    have point : p.next? '.' = some .point := by rcases hp with rfl | rfl <;> rfl
    rw [NumberPart.advance, point, Option.bind_some]
    exact advance_digits loops_fraction (fun c h => by simp [NumberPart.next?, h]) digits

theorem advance_exponent {p : NumberPart} (hp : p = .zero ∨ p = .whole ∨ p = .fraction)
    {s : List Char} (h : IsExponent s) :
    ∃ q, p.advance s = some q ∧ (s = [] ∧ q = p ∨ s ≠ [] ∧ q = .exponentDigits) := by
  cases h with
  | none => exact ⟨p, rfl, .inl ⟨rfl, rfl⟩⟩
  | @digits e signs s letter signed digits =>
    refine ⟨.exponentDigits, ?_, .inr ⟨by simp, rfl⟩⟩
    have begins : p.next? e = some .exponent := by
      rcases hp with rfl | rfl | rfl <;> rcases letter with rfl | rfl <;> rfl
    rw [NumberPart.advance, begins, Option.bind_some, NumberPart.advance_append]
    have plain : ∀ c, Text.isDigit c = true → NumberPart.exponent.next? c = some .exponentDigits := by
      intro c h
      have unsigned : c ≠ '+' ∧ c ≠ '-' := by
        constructor <;> rintro rfl <;> exact absurd h (by decide)
      simp [NumberPart.next?, h, unsigned]
    rcases signed with rfl | rfl | rfl
    · exact advance_digits loops_exponentDigits plain digits
    · exact advance_digits (p := .exponentSign) loops_exponentDigits
        (fun c h => by simp [NumberPart.next?, h]) digits
    · exact advance_digits (p := .exponentSign) loops_exponentDigits
        (fun c h => by simp [NumberPart.next?, h]) digits

/-- A number without its sign begins with a digit. -/
theorem isDigit_of_next? {c : Char} {p : NumberPart} (h : NumberPart.sign.next? c = some p) :
    Text.isDigit c = true := by
  by_cases zero : c = '0'
  · rw [zero]
    rfl
  · cases digit : Text.isDigit c with
    | true => rfl
    | false => exact absurd h (by simp [NumberPart.next?, zero, digit])

theorem isSpace_of_isDigit {c : Char} (h : Text.isDigit c = true) : isSpace c = false := by
  cases space : isSpace c with
  | false => rfl
  | true => exact absurd (h.symm.trans (isDigit_of_delimits (.inl space))) (by simp)

/-- A value that starts like a number is one. -/
theorem stepValue_number {c : Char} {p : NumberPart} (h : NumberPart.sign.next? c = some p)
    (stack : List Frame) : stepValue c stack = some ⟨.number [c] p, stack⟩ := by
  have digit := isDigit_of_next? h
  unfold stepValue
  split
  case h_8 => rw [h, Option.map_some]
  all_goals exact absurd digit (by decide)

/-- A number without its sign, from the place where the sign may be. -/
theorem run_unsigned {s : List Char} {p : NumberPart} (h : NumberPart.sign.advance s = some p)
    (nonempty : s ≠ []) (stack : List Frame) :
    run ⟨.value, stack⟩ s = some ⟨.number s p, stack⟩ := by
  cases s with
  | nil => exact absurd rfl nonempty
  | cons c s =>
    obtain ⟨q, first, rest⟩ := Option.bind_eq_some_iff.mp h
    have stepped : step ⟨.value, stack⟩ c = some ⟨.number [c] q, stack⟩ := by
      show (if isSpace c then _ else stepValue c stack) = _
      rw [isSpace_of_isDigit (isDigit_of_next? first)]
      exact stepValue_number first stack
    rw [run, stepped, Option.bind_some, run_advance rest]
    rfl

theorem run_signed {s : List Char} {p : NumberPart} (h : NumberPart.sign.advance s = some p)
    (nonempty : s ≠ []) (negative : Bool) (stack : List Frame) :
    run ⟨.value, stack⟩ (sign negative ++ s) = some ⟨.number (sign negative ++ s) p, stack⟩ := by
  cases negative with
  | false => exact run_unsigned h nonempty stack
  | true =>
    show run ⟨.number ['-'] .sign, stack⟩ s = _
    rw [run_advance h]
    rfl

theorem IsWhole.ne_nil {s : List Char} (h : IsWhole s) : s ≠ [] := by
  cases h <;> simp

theorem IsWhole.unsigned {s : List Char} (h : IsWhole s) : ∀ t, s ≠ '-' :: t := by
  rintro t rfl
  cases h with
  | digits digit => exact absurd digit (by decide)

/-- A whole number is closed as what its digits say. -/
theorem closeNumber_whole {s : List Char} (h : IsWhole s) (negative : Bool) {p : NumberPart}
    (hp : p = .zero ∨ p = .whole) :
    closeNumber (sign negative ++ s) p = some (.whole negative (Text.addDigits 0 s)) := by
  have whole : closeNumber (sign negative ++ s) p = closeNumber (sign negative ++ s) .whole := by
    rcases hp with rfl | rfl <;> rfl
  rw [whole]
  cases negative with
  | true => rfl
  | false =>
    show closeNumber s .whole = _
    rw [closeNumber]
    exact h.unsigned

theorem run_number {n : Numeral} {s : List Char} (h : SpellsNumber n s) (stack : List Frame) :
    ∃ st, run ⟨.value, stack⟩ s = some st ∧ Took (.number n) stack st := by
  cases h with
  | @whole s negative whole =>
    obtain ⟨p, advanced, hp⟩ := advance_whole whole
    exact ⟨_, run_signed advanced whole.ne_nil negative stack,
      .number rfl (closeNumber_whole whole negative hp)⟩
  | @real s f e negative whole fraction exponent more =>
    obtain ⟨p, first, hp⟩ := advance_whole whole
    obtain ⟨q, second, hq⟩ := advance_fraction hp fraction
    have open_q : q = .zero ∨ q = .whole ∨ q = .fraction := by
      rcases hq with ⟨-, rfl⟩ | ⟨-, rfl⟩
      · rcases hp with rfl | rfl <;> simp
      · simp
    obtain ⟨r, third, hr⟩ := advance_exponent open_q exponent
    have advanced : NumberPart.sign.advance (s ++ (f ++ e)) = some r := by
      rw [NumberPart.advance_append, first, Option.bind_some, NumberPart.advance_append, second,
        Option.bind_some, third]
    -- With a fraction or an exponent the number ends in one of the parts that keep what is written.
    have last : r = .fraction ∨ r = .exponentDigits := by
      rcases hr with ⟨none, rfl⟩ | ⟨-, rfl⟩
      · rcases hq with ⟨empty, -⟩ | ⟨-, rfl⟩
        · exact absurd (by rw [empty, none]; rfl) more
        · exact .inl rfl
      · exact .inr rfl
    refine ⟨_, run_signed advanced (by simp [whole.ne_nil]) negative stack, .number rfl ?_⟩
    rcases last with rfl | rfl <;> rfl

/-! ## Values -/

/-- A character that begins a value is no white space and closes no list. -/
theorem Spells.head {v : Value} {s : List Char} (h : Spells v s) :
    ∃ c rest, s = c :: rest ∧ isSpace c = false ∧ c ≠ ']' := by
  cases h with
  | null | yes | no => exact ⟨_, _, rfl, rfl, by decide⟩
  | emptyList | list | emptyObject | object => exact ⟨_, _, rfl, rfl, by decide⟩
  | string text =>
    cases text with
    | quoted => exact ⟨_, _, rfl, rfl, by decide⟩
  | number number =>
    have digits {s : List Char} (whole : IsWhole s) (negative : Bool) (t : List Char) :
        ∃ c rest, sign negative ++ (s ++ t) = c :: rest ∧ isSpace c = false ∧ c ≠ ']' := by
      cases negative with
      | true => exact ⟨_, _, rfl, rfl, by decide⟩
      | false =>
        cases whole with
        | zero => exact ⟨_, _, rfl, rfl, by decide⟩
        | @digits c s digit =>
          refine ⟨c, s ++ t, rfl, isSpace_of_isDigit digit, ?_⟩
          rintro rfl
          exact absurd digit (by decide)
    cases number with
    | whole negative whole => simpa using digits whole negative []
    | real negative whole => exact digits whole negative _

/-- The first item of a list is read like any other. -/
theorem run_firstItem {v : Value} {a s : List Char} (blank : Blank a) (h : Spells v s)
    (t : List Char) (stack : List Frame) :
    run ⟨.firstItem, stack⟩ (a ++ (s ++ t)) = run ⟨.value, .item [] :: stack⟩ (a ++ (s ++ t)) := by
  rw [run_append, run_append, (idle_firstItem stack).run blank, (idle_value _).run blank,
    Option.bind_some, Option.bind_some]
  obtain ⟨c, rest, rfl, visible, open_list⟩ := h.head
  have same : step ⟨.firstItem, stack⟩ c = step ⟨.value, .item [] :: stack⟩ c := by
    show (if isSpace c then _ else if c = ']' then _ else _) = (if isSpace c then _ else _)
    rw [visible, if_neg open_list]
    rfl
  rw [List.cons_append, run, run, same]

theorem SpellsItems.first {items : List Value} {s : List Char} (h : SpellsItems items s)
    (t : List Char) (stack : List Frame) :
    run ⟨.firstItem, stack⟩ (s ++ t) = run ⟨.value, .item [] :: stack⟩ (s ++ t) := by
  cases h with
  | last blank spells =>
    rw [List.append_assoc, List.append_assoc]
    exact run_firstItem blank spells _ stack
  | cons blank spells =>
    rw [List.append_assoc, List.append_assoc]
    exact run_firstItem blank spells _ stack

/-- The first key of an object is read like any other. -/
theorem run_firstKey {k : Text} {a n : List Char} (blank : Blank a) (h : SpellsText k n)
    (t : List Char) (stack : List Frame) :
    run ⟨.firstKey, stack⟩ (a ++ (n ++ t)) = run ⟨.key [], stack⟩ (a ++ (n ++ t)) := by
  rw [run_append, run_append, (idle_firstKey stack).run blank, (idle_key _ _).run blank,
    Option.bind_some, Option.bind_some]
  cases h with
  | quoted => rfl

theorem SpellsFields.first {fields : List (Text × Value)} {s : List Char}
    (h : SpellsFields fields s) (t : List Char) (stack : List Frame) :
    run ⟨.firstKey, stack⟩ (s ++ t) = run ⟨.key [], stack⟩ (s ++ t) := by
  cases h with
  | last blank name =>
    rw [List.append_assoc, List.append_assoc]
    exact run_firstKey blank name _ stack
  | cons blank name =>
    rw [List.append_assoc, List.append_assoc]
    exact run_firstKey blank name _ stack

/-- A key with its colon, up to the place of the value. -/
theorem run_named {k : Text} {a n b c : List Char} (before_key : Blank a) (name : SpellsText k n)
    (before_colon : Blank b) (after_colon : Blank c) (t : List Char)
    (before : List (Text × Value)) (stack : List Frame) :
    run ⟨.key before, stack⟩ (a ++ (n ++ (b ++ ':' :: (c ++ t)))) =
      run ⟨.value, .field before k :: stack⟩ t := by
  rw [run_append, (idle_key before stack).run before_key, Option.bind_some, run_append,
    run_key name, Option.bind_some, run_append, (idle_colon before k stack).run before_colon,
    Option.bind_some]
  show run ⟨.value, .field before k :: stack⟩ (c ++ t) = _
  rw [run_append, (idle_value _).run after_colon, Option.bind_some]

mutual
/-- Every text of a value is taken as it. -/
theorem run_spells {v : Value} {s : List Char} (h : Spells v s) (stack : List Frame) :
    ∃ st, run ⟨.value, stack⟩ s = some st ∧ Took v stack st := by
  cases h with
  | null => exact ⟨_, rfl, .whole⟩
  | yes => exact ⟨_, rfl, .whole⟩
  | no => exact ⟨_, rfl, .whole⟩
  | number number => exact run_number number stack
  | string text => exact ⟨_, run_text text stack, .whole⟩
  | @emptyList s blank =>
    refine ⟨complete (.list []) stack, ?_, .whole⟩
    show run ⟨.firstItem, stack⟩ (s ++ [']']) = _
    rw [run_append, (idle_firstItem stack).run blank, Option.bind_some]
    rfl
  | @list items s spelled =>
    refine ⟨complete (.list items) stack, ?_, .whole⟩
    show run ⟨.firstItem, stack⟩ (s ++ [']']) = _
    rw [spelled.first [']'] stack]
    exact run_items spelled [] stack
  | @emptyObject s blank =>
    refine ⟨complete (.object []) stack, ?_, .whole⟩
    show run ⟨.firstKey, stack⟩ (s ++ ['\x7d']) = _
    rw [run_append, (idle_firstKey stack).run blank, Option.bind_some]
    rfl
  | @object fields s spelled =>
    refine ⟨complete (.object fields) stack, ?_, .whole⟩
    show run ⟨.firstKey, stack⟩ (s ++ ['\x7d']) = _
    rw [spelled.first ['\x7d'] stack]
    exact run_fields spelled [] stack

/-- Items join those in front of them. -/
theorem run_items {items : List Value} {s : List Char} (h : SpellsItems items s)
    (before : List Value) (stack : List Frame) :
    run ⟨.value, .item before :: stack⟩ (s ++ [']']) =
      some (complete (.list (before.reverse ++ items)) stack) := by
  cases h with
  | @last v a s b front spelled back =>
    obtain ⟨st, taken, took⟩ := run_spells spelled (.item before :: stack)
    obtain ⟨st', rested, took'⟩ := took.run back
    rw [List.append_assoc, List.append_assoc, run_append, (idle_value _).run front,
      Option.bind_some, run_append, taken, Option.bind_some, run_append, rested, Option.bind_some,
      run, took'.close_list, List.reverse_cons]
    rfl
  | @cons v items a s b t front spelled back more =>
    obtain ⟨st, taken, took⟩ := run_spells spelled (.item before :: stack)
    obtain ⟨st', rested, took'⟩ := took.run back
    rw [List.append_assoc, List.append_assoc, List.append_assoc, run_append,
      (idle_value _).run front, Option.bind_some, run_append, taken, Option.bind_some, run_append,
      rested, Option.bind_some, List.cons_append, run, took'.comma_item, Option.bind_some,
      run_items more, List.reverse_cons, List.append_assoc]
    rfl

/-- Fields join those in front of them. -/
theorem run_fields {fields : List (Text × Value)} {s : List Char} (h : SpellsFields fields s)
    (before : List (Text × Value)) (stack : List Frame) :
    run ⟨.key before, stack⟩ (s ++ ['\x7d']) =
      some (complete (.object (before.reverse ++ fields)) stack) := by
  cases h with
  | @last k v a n b c s d one name two three spelled back =>
    obtain ⟨st, taken, took⟩ := run_spells spelled (.field before k :: stack)
    obtain ⟨st', rested, took'⟩ := took.run back
    simp only [List.append_assoc, List.cons_append]
    rw [run_named one name two three, run_append, taken, Option.bind_some, run_append, rested,
      Option.bind_some, run, took'.close_object, List.reverse_cons]
    rfl
  | @cons k v fields a n b c s d t one name two three spelled back more =>
    obtain ⟨st, taken, took⟩ := run_spells spelled (.field before k :: stack)
    obtain ⟨st', rested, took'⟩ := took.run back
    simp only [List.append_assoc, List.cons_append]
    rw [run_named one name two three, run_append, taken, Option.bind_some, run_append, rested,
      Option.bind_some, run, took'.comma_field, Option.bind_some, run_fields more,
      List.reverse_cons, List.append_assoc]
    rfl
end

/-- A document is read as the value that it spells. -/
theorem parse?_of_spelled {v : Value} {text : String} (h : Spelled v text) :
    parse? text = some v := by
  obtain ⟨before, spells, after, same⟩ := h
  obtain ⟨st, taken, took⟩ := run_spells spells []
  obtain ⟨st', rested, took'⟩ := took.run after
  rw [parse?, same, State.start, run_append, (idle_value []).run before, Option.bind_some,
    run_append, taken, Option.bind_some, rested, Option.bind_some, took'.result?]

end EvmWallet.Json
