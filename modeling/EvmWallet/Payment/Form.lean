import EvmWallet.Payment.Method

/-!
# Payment forms

The fields that a checkout asks the user to fill in, and a form with their values.
-/

namespace EvmWallet.Payment

/-- A field that the user is asked to fill in. -/
structure Field where
  key : String
  inputType : String
  isOptional : Bool
  deriving DecidableEq, Repr

namespace Field

def toJson (f : Field) : Json.Value :=
  .record [
    ("key", .text f.key), ("input_type", .text f.inputType), ("optional", .bool f.isOptional)]

def ofJson? (v : Json.Value) : Option Field := do
  match ← v.record? ["key", "input_type", "optional"] with
  | [key, inputType, isOptional] =>
    return {
      key := ← Json.required Json.Value.text? key
      inputType := ← Json.required Json.Value.text? inputType
      isOptional := ← Json.required Json.Value.bool? isOptional }
  | _ => none

end Field

/-- A filled form: the method it is for, and one value for each key. -/
structure Form where
  method : Method
  values : List (String × String)
  deriving DecidableEq, Repr

namespace Form

/-- A form with nothing filled in. -/
def blank (m : Method) : Form := ⟨m, []⟩

/-- Puts a value under a key, in place of the one that was there. -/
def put (key value : String) : List (String × String) → List (String × String)
  | [] => [(key, value)]
  | (k, v) :: rest => if k = key then (key, value) :: rest else (k, v) :: put key value rest

/-- Fills in the value for a key. -/
def fill (f : Form) (key value : String) : Form := { f with values := put key value f.values }

/-- The values as JSON. -/
def valuesJson (f : Form) : Json.Value := .record (f.values.map fun (k, v) => (k, .text v))

def toJson (f : Form) : Json.Value :=
  .record [("payment_method", f.method.toJson), ("values", f.valuesJson)]

/-- The values of an object of texts; of a repeated key the last counts. -/
def valuesOfJson? : Json.Value → Option (List (String × String))
  | .object fields =>
    fields.foldlM (fun values (k, v) => do return put (← k) (← v.text?) values) []
  | _ => none

def ofJson? (v : Json.Value) : Option Form := do
  match ← v.record? ["payment_method", "values"] with
  | [method, values] =>
    return ⟨← Json.required Method.ofJson? method, ← Json.required valuesOfJson? values⟩
  | _ => none

end Form

end EvmWallet.Payment
