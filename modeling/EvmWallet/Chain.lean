import EvmWallet.Json.Decode
import EvmWallet.Text.Digits
import EvmWallet.Text.Case
import EvmWallet.Text.Quoted

/-!
# Chains

The EVM chains a wallet can be told to use: five that are known by name, and any other given
by a name and a number. Two chains are equal only if they are the same known chain or agree
in both name and number.
-/

namespace EvmWallet

/-- An EVM chain. -/
inductive Chain where
  | ethereum
  | ropsten
  | kovan
  | polygon
  | binanceSmartChain
  | custom (name : String) (id : UInt64)
  deriving DecidableEq, Repr

namespace Chain

/-- The number that transactions of the chain carry. -/
def id : Chain → UInt64
  | ethereum => 1
  | ropsten => 3
  | kovan => 42
  | polygon => 137
  | binanceSmartChain => 56
  | custom _ id => id

/-- The name shown to the user. -/
def displayName : Chain → String
  | ethereum => "Ethereum"
  | ropsten => "Ropsten (Test)"
  | kovan => "Kovan (Test)"
  | polygon => "Polygon"
  | binanceSmartChain => "BNB Smart Chain"
  | custom name _ => name

/-- Dashes and spaces become underscores. -/
def underscored (s : String) : String :=
  String.ofList (s.toList.map fun c => if c = '-' ∨ c = ' ' then '_' else c)

/-- What names the chain in an environment variable: capitals, with underscores for dashes
and spaces. The number of a custom chain does not enter. -/
def environmentKey : Chain → String
  | ethereum => "ETHEREUM"
  | ropsten => "ROPSTEN"
  | kovan => "KOVAN"
  | polygon => "POLYGON"
  | binanceSmartChain => "BSC"
  | custom name _ => underscored (Text.upper name)

/-- Whether the chain carries value; the two test chains do not. -/
def isMain : Chain → Bool
  | ropsten | kovan => false
  | _ => true

/-- The chain as a diagnostic shows it. -/
def describe : Chain → String
  | ethereum => "Ethereum"
  | ropsten => "Ropsten"
  | kovan => "Kovan"
  | polygon => "Polygon"
  | binanceSmartChain => "BinanceSmartChain"
  | custom name id =>
    "Custom \x7b name: " ++ Text.quoted name ++ ", chain_id: "
      ++ String.ofList (Text.digits id.toNat) ++ " \x7d"

/-! ## JSON -/

/-- A chain in JSON: the name of a known one, or an object under `Custom`. -/
def toJson : Chain → Json.Value
  | custom name id =>
    .record [("Custom", .record [("name", .text name), ("chain_id", .nat id.toNat)])]
  | c => .text c.describe

/-- The known chain of a name. -/
def ofName? (name : String) : Option Chain :=
  [ethereum, ropsten, kovan, polygon, binanceSmartChain].find? (·.describe == name)

/-- A number of 64 bits in JSON. -/
def wordOfJson? (v : Json.Value) : Option UInt64 :=
  (v.natBelow? UInt64.size).map UInt64.ofNat

/-- The name and number of a custom chain. -/
def customOfJson? (v : Json.Value) : Option Chain := do
  match ← v.record? ["name", "chain_id"] with
  | [name, id] =>
    return custom (← Json.required Json.Value.text? name) (← Json.required wordOfJson? id)
  | _ => none

/-- The chain that a JSON value stands for. -/
def ofJson? (v : Json.Value) : Option Chain := do
  match ← v.case? with
  | ("Custom", content) => Json.required customOfJson? content
  | (name, content) => if Json.Value.isUnit content then ofName? name else none

end Chain

end EvmWallet
