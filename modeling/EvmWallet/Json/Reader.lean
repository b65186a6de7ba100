import EvmWallet.Bytes.Hex
import EvmWallet.Json.Value
import EvmWallet.Text.Digits

/-!
# Reading JSON

A machine that takes a document one character at a time. Its state is what is open around
the current place (`Frame`) and what may come next there (`Mode`); `step` refuses a
character that the grammar has no place for, and `run` is `step` along the text, so that
reading `s ++ t` is reading `s` and then `t` (`run_append`).

The grammar is the strict one: no leading zeros, no trailing commas, no control characters
in strings, and nothing but white space around the one value. Nesting is not limited.
-/

namespace EvmWallet.Json

/-! ## States -/

/-- A container that is open, with what has been read of it, newest first. -/
inductive Frame where
  | item (before : List Value)
  | field (before : List (Text × Value)) (key : Text)

/-- Where a number stands. -/
inductive NumberPart where
  | sign
  | zero
  | whole
  | point
  | fraction
  | exponent
  | exponentSign
  | exponentDigits
  deriving DecidableEq

/-- Where a string stands: between characters, after a backslash, or inside a code point
escape with so many digits still to come. -/
inductive StringPart where
  | plain
  | escape
  | code (missing : Nat) (value : Nat)

/-- What a string is: a value, or the key of a field after those read so far. -/
inductive Role where
  | value
  | key (before : List (Text × Value))

/-- What may come next. Strings hold the code units read so far, newest first. -/
inductive Mode where
  | value
  | firstItem
  | firstKey
  | key (before : List (Text × Value))
  | colon (before : List (Text × Value)) (key : Text)
  | literal (rest : List Char) (v : Value)
  | number (written : List Char) (part : NumberPart)
  | string (role : Role) (units : List Nat) (part : StringPart)
  | afterItem (items : List Value)
  | afterField (fields : List (Text × Value))
  | finished (v : Value)

/-- A place in a document. -/
structure State where
  mode : Mode
  stack : List Frame

/-- White space between tokens. -/
def isSpace (c : Char) : Bool := c = ' ' || c = '\n' || c = '\r' || c = '\t'

/-! ## Tokens -/

/-- The text of code units: a high surrogate joins the low one after it, and a surrogate
that finds no partner leaves no text. -/
def textOfUnits : List Nat → Option (List Char)
  | [] => some []
  | [u] => if 0xD800 ≤ u ∧ u < 0xE000 then none else some [Char.ofNat u]
  | u :: w :: rest =>
    if 0xD800 ≤ u ∧ u < 0xDC00 ∧ 0xDC00 ≤ w ∧ w < 0xE000 then
      (textOfUnits rest).map (Char.ofNat (0x10000 + (u - 0xD800) * 0x400 + (w - 0xDC00)) :: ·)
    else if 0xD800 ≤ u ∧ u < 0xE000 then none
    else (textOfUnits (w :: rest)).map (Char.ofNat u :: ·)

/-- The text of a string whose code units are given newest first. -/
def closeString (units : List Nat) : Text := (textOfUnits units.reverse).map String.ofList

/-- The number that was written. -/
def closeNumber (written : List Char) : NumberPart → Option Numeral
  | .zero | .whole =>
    match written with
    | '-' :: ds => some (.whole true (Text.addDigits 0 ds))
    | ds => some (.whole false (Text.addDigits 0 ds))
  | .fraction | .exponentDigits => some (.real written)
  | .sign | .point | .exponent | .exponentSign => none

/-- The part of a number that a further character belongs to. -/
def NumberPart.next? (p : NumberPart) (c : Char) : Option NumberPart :=
  match p with
  | .sign => if c = '0' then some .zero else if Text.isDigit c then some .whole else none
  | .zero =>
    if c = '.' then some .point else if c = 'e' || c = 'E' then some .exponent else none
  | .whole =>
    if Text.isDigit c then some .whole
    else if c = '.' then some .point
    else if c = 'e' || c = 'E' then some .exponent else none
  | .point => if Text.isDigit c then some .fraction else none
  | .fraction =>
    if Text.isDigit c then some .fraction
    else if c = 'e' || c = 'E' then some .exponent else none
  | .exponent =>
    if c = '+' || c = '-' then some .exponentSign
    else if Text.isDigit c then some .exponentDigits else none
  | .exponentSign | .exponentDigits => if Text.isDigit c then some .exponentDigits else none

/-- The code unit that an escape of one character names. -/
def shortEscape? (c : Char) : Option Nat :=
  match c with
  | '\x22' => some 0x22
  | '\\' => some 0x5C
  | '/' => some 0x2F
  | 'b' => some 8
  | 'f' => some 0xC
  | 'n' => some 0xA
  | 'r' => some 0xD
  | 't' => some 9
  | _ => none

/-! ## Steps -/

/-- A value is complete: it joins the container around it. -/
def complete (v : Value) : List Frame → State
  | [] => ⟨.finished v, []⟩
  | .item before :: stack => ⟨.afterItem (v :: before), stack⟩
  | .field before key :: stack => ⟨.afterField ((key, v) :: before), stack⟩

/-- A string is complete. -/
def completeString (role : Role) (units : List Nat) (stack : List Frame) : State :=
  match role with
  | .value => complete (.string (closeString units)) stack
  | .key before => ⟨.colon before (closeString units), stack⟩

/-- The first character of a value. -/
def stepValue (c : Char) (stack : List Frame) : Option State :=
  match c with
  | '\x22' => some ⟨.string .value [] .plain, stack⟩
  | '[' => some ⟨.firstItem, stack⟩
  | '\x7b' => some ⟨.firstKey, stack⟩
  | 'n' => some ⟨.literal "ull".toList .null, stack⟩
  | 't' => some ⟨.literal "rue".toList (.bool true), stack⟩
  | 'f' => some ⟨.literal "alse".toList (.bool false), stack⟩
  | '-' => some ⟨.number ['-'] .sign, stack⟩
  | _ => ((NumberPart.sign.next? c).map fun p => ⟨.number [c] p, stack⟩)

/-- A character after a complete value. -/
def stepAfter (c : Char) (s : State) : Option State :=
  if isSpace c then some s
  else
    match s.mode with
    | .afterItem items =>
      if c = ',' then some ⟨.value, .item items :: s.stack⟩
      else if c = ']' then some (complete (.list items.reverse) s.stack)
      else none
    | .afterField fields =>
      if c = ',' then some ⟨.key fields, s.stack⟩
      else if c = '\x7d' then some (complete (.object fields.reverse) s.stack)
      else none
    | _ => none

/-- A character inside a string. -/
def stepString (c : Char) (role : Role) (units : List Nat) (part : StringPart)
    (stack : List Frame) : Option State :=
  match part with
  | .plain =>
    if c = '\x22' then some (completeString role units stack)
    else if c = '\\' then some ⟨.string role units .escape, stack⟩
    else if c.toNat < 32 then none
    else some ⟨.string role (c.toNat :: units) .plain, stack⟩
  | .escape =>
    if c = 'u' then some ⟨.string role units (.code 4 0), stack⟩
    else (shortEscape? c).map fun u => ⟨.string role (u :: units) .plain, stack⟩
  | .code missing value =>
    (Bytes.hexValue? c).map fun d =>
      if missing ≤ 1 then ⟨.string role ((16 * value + d) :: units) .plain, stack⟩
      else ⟨.string role units (.code (missing - 1) (16 * value + d)), stack⟩

/-- The state after one more character, if the grammar allows it. -/
def step (s : State) (c : Char) : Option State :=
  match s.mode with
  | .value => if isSpace c then some s else stepValue c s.stack
  | .firstItem =>
    if isSpace c then some s
    else if c = ']' then some (complete (.list []) s.stack)
    else stepValue c (.item [] :: s.stack)
  | .firstKey =>
    if isSpace c then some s
    else if c = '\x7d' then some (complete (.object []) s.stack)
    else if c = '\x22' then some ⟨.string (.key []) [] .plain, s.stack⟩
    else none
  | .key before =>
    if isSpace c then some s
    else if c = '\x22' then some ⟨.string (.key before) [] .plain, s.stack⟩
    else none
  | .colon before key =>
    if isSpace c then some s
    else if c = ':' then some ⟨.value, .field before key :: s.stack⟩
    else none
  | .literal rest v =>
    match rest with
    | [] => none
    | [r] => if c = r then some (complete v s.stack) else none
    | r :: more => if c = r then some ⟨.literal more v, s.stack⟩ else none
  | .number written part =>
    match part.next? c with
    | some p => some ⟨.number (written ++ [c]) p, s.stack⟩
    | none => (closeNumber written part).bind fun n => stepAfter c (complete (.number n) s.stack)
  | .string role units part => stepString c role units part s.stack
  | .afterItem _ | .afterField _ | .finished _ => stepAfter c s

/-- The state after a text. -/
def run : State → List Char → Option State
  | s, [] => some s
  | s, c :: rest => (step s c).bind (run · rest)

/-- Reading two texts one after the other is reading their concatenation. -/
theorem run_append (s : State) (t u : List Char) :
    run s (t ++ u) = (run s t).bind (run · u) := by
  induction t generalizing s with
  | nil => rfl
  | cons c r ih =>
    simp only [List.cons_append, run]
    cases step s c with
    | none => rfl
    | some s' => exact ih s'

/-- The value of a document that ends here. -/
def State.result? (s : State) : Option Value :=
  match s.mode, s.stack with
  | .finished v, [] => some v
  | .number written part, [] => (closeNumber written part).map .number
  | _, _ => none

/-- Before the first character. -/
def State.start : State := ⟨.value, []⟩

/-- The value that a text holds. -/
def parse? (s : String) : Option Value := (run .start s.toList).bind State.result?

end EvmWallet.Json
