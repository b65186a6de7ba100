import EvmWallet.Json.Value

/-!
# Typed readings of JSON values

How the types of the library are read from JSON. A record is an object, in which fields that
are not its own are skipped and its own may not be repeated, or a list of its fields in their
order. A choice of one of several cases is the name of a case without content, or an object
whose only key is the name of a case.
-/

namespace EvmWallet.Json

namespace Value

/-! ## Plain values -/

/-- The text of a string. -/
def text? : Value → Option String
  | .string s => s
  | _ => none

/-- A truth value. -/
def bool? : Value → Option Bool
  | .bool b => some b
  | _ => none

/-- The items of a list. -/
def list? : Value → Option (List Value)
  | .list items => some items
  | _ => none

/-- A natural number below `limit`, written as an integer without a sign. -/
def natBelow? (limit : Nat) : Value → Option Nat
  | .number (.whole false n) => if n < limit then some n else none
  | _ => none

/-- A list read item by item. -/
def listOf? {α : Type} (f : Value → Option α) (v : Value) : Option (List α) :=
  v.list?.bind (·.mapM f)

/-- A value that may be `null`. -/
def nullable? {α : Type} (f : Value → Option α) : Value → Option (Option α)
  | .null => some none
  | v => (f v).map some

/-! ## Records -/

/-- The names of the keys of an object, if all are texts. -/
def keys? (fields : List (Text × Value)) : Option (List String) := fields.mapM (·.1)

/-- The values of the named fields, in the order of the names, `none` for one that is absent.
A list may stop after `least` fields. -/
def fields? (names : List String) (least : Nat) : Value → Option (List (Option Value))
  | .object fields =>
    match keys? fields with
    | none => none
    | some keys =>
      if names.all (fun n => keys.count n ≤ 1) then
        some (names.map fun n => fields.lookup (some n))
      else
        none
  | .list items =>
    if least ≤ items.length ∧ items.length ≤ names.length then
      some ((items.map some) ++ List.replicate (names.length - items.length) none)
    else
      none
  | _ => none

/-- The values of a record whose fields are all required, in a list too. -/
def record? (names : List String) (v : Value) : Option (List (Option Value)) :=
  v.fields? names names.length

/-! ## Choices -/

/-- The case that a value names, with its content if it has one. -/
def case? : Value → Option (String × Option Value)
  | .string (some name) => some (name, none)
  | .object [(some name, v)] => some (name, some v)
  | _ => none

/-- Whether a case has no content: it is named alone or with `null`. -/
def isUnit : Option Value → Bool
  | none => true
  | some .null => true
  | some _ => false

end Value

/-- A required field. -/
def required {α : Type} (f : Value → Option α) (field : Option Value) : Option α :=
  field.bind f

/-- A field that may be absent or `null`. -/
def optional {α : Type} (f : Value → Option α) : Option Value → Option (Option α)
  | none => some none
  | some v => v.nullable? f

end EvmWallet.Json
