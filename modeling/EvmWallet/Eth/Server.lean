import EvmWallet.Bytes.Utf8
import EvmWallet.Eth.BalanceCall
import EvmWallet.Http
import EvmWallet.Json.Decode
import EvmWallet.Json.Reader
import EvmWallet.Json.Shown
import EvmWallet.Network
import EvmWallet.Url.Reader

/-!
# Chain servers

A server that executes transactions of a chain without recording them. A request names the
method with its parameters; the reply is a document that holds either a result or an error,
and the status that it comes with does not matter.
-/

namespace EvmWallet.Eth

/-- A server of a chain. -/
structure Server where
  url : Url

/-- What a server replies. -/
inductive Reply where
  | result (bytes : List UInt8)
  | refusal (code : Int) (reason : String) (detail : Option Json.Value)

namespace Reply

/-- The digits of a result, which may stand behind `0x`. -/
def bytes? (v : Json.Value) : Option (List UInt8) :=
  v.text?.bind fun s => Bytes.ofHexChars? (Address.dropMark s.toList)

/-- An integer of 64 bits, zero without a sign. -/
def code? : Json.Value → Option Int
  | .number (.whole negative n) =>
    if negative then (if 0 < n ∧ n ≤ UInt64.size / 2 then some (-(n : Int)) else none)
    else if n < UInt64.size / 2 then some n else none
  | _ => none

/-- The nesting for which there is room in the detail of a refusal. -/
def detailRoom : Nat := 125

/-- An error in a reply. -/
def refusal? (v : Json.Value) : Option Reply := do
  match ← v.fields? ["code", "message", "data"] 3 with
  | [code, reason, detail] =>
    return refusal (← Json.required code? code) (← Json.required Json.Value.text? reason)
      (← Json.optional (Option.guard (Json.Value.fits detailRoom)) detail)
  | _ => none

/-- Whether an object has no other keys than these. -/
def hasOnly (names : List String) : Json.Value → Bool
  | .object fields => fields.all fun (k, _) => k.elim false names.contains
  | _ => false

/-- The reply that a document is. -/
def ofJson? (v : Json.Value) : Option Reply := do
  if hasOnly ["jsonrpc", "id", "result", "error"] v then
    match ← v.fields? ["jsonrpc", "id", "result", "error"] 4 with
    | [some (.string (some "2.0")), some id, success, failure] =>
      discard (id.natBelow? UInt64.size)
      match success, failure with
      | some v, none => return result (← bytes? v)
      | none, some v => refusal? v
      | _, _ => none
    | _ => none
  else none

/-- The wording of the detail of a refusal. -/
def detailText : Option Json.Value → String
  | none => "None"
  | some v => "Some(" ++ String.ofList v.shown ++ ")"

/-- The wording of a refusal. -/
def refusalText (code : Int) (reason : String) (detail : Option Json.Value) : String :=
  "(code: " ++ toString code ++ ", message: " ++ reason ++ ", data: " ++ detailText detail ++ ")"

end Reply

namespace Server

/-- The server at a URL. -/
def ofUrl (url : String) : Except Token.Error Server :=
  match Url.ofString url with
  | .ok u => .ok ⟨u⟩
  | .error e => .error (.network ("Failed to create provider: " ++ e.message))

/-- The server of a network. -/
def ofNetwork (n : Network) : Except Token.Error Server := ofUrl n.rpcUrl

/-- The parameters of a call: the transaction, and the latest block. -/
def callParameters (t : Transaction) : Json.Value :=
  .list [
    .record [
      ("type", .text "0x00"), ("from", .text t.sender.text), ("to", .text t.target.text),
      ("data", .text (Bytes.hex t.data))],
    .text "latest"]

/-- The bytes in the answer to a call. -/
def readAnswer : Option Http.Response → Except Token.Error (List UInt8)
  | none => .error (.rpc "eth_call failed")
  | some r =>
    match (Bytes.decodeUtf8? r.content).bind fun s => (Json.parse? s).bind Reply.ofJson? with
    | some (.result bytes) => .ok bytes
    | some (.refusal code reason detail) =>
      .error (.rpc ("eth_call failed: " ++ Reply.refusalText code reason detail))
    | none => .error (.rpc "eth_call failed: Deserialization Error")

/-- What a call answers, given how requests are answered. -/
def call (s : Server) (deliver : Url → Json.Value → Option Http.Response) (t : Transaction) :
    Except Token.Error (List UInt8) :=
  readAnswer (deliver s.url (callParameters t))

end Server

end EvmWallet.Eth
