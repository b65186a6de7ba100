import EvmWallet.Json.Decode

/-!
# Payment outcomes

How a checkout ends: with a receipt, with a reason why it failed, or cancelled.
-/

namespace EvmWallet.Payment

/-- What the processor returns for a payment that went through. -/
structure Receipt where
  payload : String
  status : String
  deriving DecidableEq, Repr

namespace Receipt

def toJson (r : Receipt) : Json.Value :=
  .record [("payload", .text r.payload), ("status", .text r.status)]

def ofJson? (v : Json.Value) : Option Receipt := do
  match ← v.record? ["payload", "status"] with
  | [payload, status] =>
    return ⟨← Json.required Json.Value.text? payload, ← Json.required Json.Value.text? status⟩
  | _ => none

end Receipt

/-- How a payment ended. -/
inductive Outcome where
  | processed (receipt : Receipt)
  | failed (reason : String)
  | cancelled
  deriving DecidableEq, Repr

namespace Outcome

/-- Whether the payment went through. -/
def isProcessed : Outcome → Bool
  | processed _ => true
  | _ => false

def toJson : Outcome → Json.Value
  | processed r => .record [("Processed", r.toJson)]
  | failed reason => .record [("Failed", .text reason)]
  | cancelled => .text "Cancelled"

def ofJson? (v : Json.Value) : Option Outcome := do
  match ← v.case? with
  | ("Processed", content) => (Json.required Receipt.ofJson? content).map processed
  | ("Failed", content) => (Json.required Json.Value.text? content).map failed
  | ("Cancelled", content) => if Json.Value.isUnit content then some cancelled else none
  | _ => none

end Outcome

end EvmWallet.Payment
