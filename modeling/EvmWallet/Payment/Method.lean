import EvmWallet.Json.Decode

/-!
# Payment methods

What a checkout offers to pay with. Methods are told apart by the identifier of their kind.
-/

namespace EvmWallet.Payment

/-- A kind of payment method: two that the wallet knows how to show, and any other by its
identifier. -/
inductive Kind where
  | card
  | payPal
  | other (id : String)
  deriving DecidableEq, Repr

namespace Kind

/-- The identifier of a kind. -/
def id : Kind → String
  | card => "card"
  | payPal => "paypal"
  | other id => id

/-- The kind of an identifier. -/
def ofId (s : String) : Kind :=
  if s = "card" then card else if s = "paypal" then payPal else other s

/-- An identifier names a kind that has it. -/
theorem id_ofId (s : String) : (ofId s).id = s := by
  unfold ofId
  split
  · simp [id, *]
  · split <;> simp [id, *]

def toJson : Kind → Json.Value
  | card => .text "Card"
  | payPal => .text "PayPal"
  | other id => .record [("Other", .text id)]

def ofJson? (v : Json.Value) : Option Kind := do
  match ← v.case? with
  | ("Card", content) => if Json.Value.isUnit content then some card else none
  | ("PayPal", content) => if Json.Value.isUnit content then some payPal else none
  | ("Other", content) => (Json.required Json.Value.text? content).map other
  | _ => none

end Kind

/-- A payment method on offer. -/
structure Method where
  kind : String
  name : String
  logoUrl : Option String
  deriving DecidableEq, Repr

namespace Method

/-- A method without a logo. -/
def named (kind name : String) : Method := ⟨kind, name, none⟩

/-- Whether the method is of the kind with this identifier. -/
def isOfKind (m : Method) (kind : String) : Bool := m.kind == kind

def toJson (m : Method) : Json.Value :=
  .record [
    ("type", .text m.kind), ("name", .text m.name), ("logo_url", .option .text m.logoUrl)]

def ofJson? (v : Json.Value) : Option Method := do
  match ← v.record? ["type", "name", "logo_url"] with
  | [kind, name, logoUrl] =>
    return {
      kind := ← Json.required Json.Value.text? kind
      name := ← Json.required Json.Value.text? name
      logoUrl := ← Json.optional Json.Value.text? logoUrl }
  | _ => none

end Method

end EvmWallet.Payment
