import EvmWallet.Network
import EvmWallet.Payment.Method

/-!
# Settings

What a wallet is configured with: its networks and which chain is the default one, the token
explorer it asks, and the kind of payment method it prefers. The settings are a JSON document
and read back from it.
-/

namespace EvmWallet

/-- Where tokens are looked up. -/
structure ExplorerAccess where
  baseUrl : String
  apiKey : String
  deriving DecidableEq, Repr

/-- How the user prefers to pay. -/
structure PaymentPreference where
  defaultKind : Payment.Kind
  deriving DecidableEq, Repr

/-- The settings of a wallet. -/
structure Settings where
  networks : List Network
  defaultChain : Chain
  explorer : ExplorerAccess
  payment : PaymentPreference
  deriving DecidableEq, Repr

namespace Settings

/-- Ethereum and Polygon through public servers, a public explorer, and cards. -/
def standard : Settings where
  networks := [.ethereum, .polygon]
  defaultChain := .ethereum
  explorer := ⟨"https://api.ethplorer.io", "freekey"⟩
  payment := ⟨.card⟩

/-- The first network of a chain, as it is configured. -/
def network? (s : Settings) (chain : Chain) : Option Network := Network.find? s.networks chain

/-! ## Changes -/

/-- Replaces the first network of the same chain, or adds the network at the end. -/
def putNetwork (n : Network) : List Network → List Network
  | [] => [n]
  | m :: rest => if m.chain = n.chain then n :: rest else m :: putNetwork n rest

/-- One choice of whoever configures a wallet. -/
inductive Change where
  | defaultChain (chain : Chain)
  | network (n : Network)
  | explorer (access : ExplorerAccess)
  | paymentKind (kind : Payment.Kind)
  deriving Repr

/-- The settings after a choice. -/
def apply (s : Settings) : Change → Settings
  | .defaultChain chain => { s with defaultChain := chain }
  | .network n => { s with networks := putNetwork n s.networks }
  | .explorer access => { s with explorer := access }
  | .paymentKind kind => { s with payment := ⟨kind⟩ }

/-- The standard settings after choices in order. -/
def build (changes : List Change) : Settings := changes.foldl apply standard

end Settings

/-! ## JSON -/

namespace ExplorerAccess

def toJson (e : ExplorerAccess) : Json.Value :=
  .record [("base_url", .text e.baseUrl), ("api_key", .text e.apiKey)]

def ofJson? (v : Json.Value) : Option ExplorerAccess := do
  match ← v.record? ["base_url", "api_key"] with
  | [baseUrl, apiKey] =>
    return ⟨← Json.required Json.Value.text? baseUrl, ← Json.required Json.Value.text? apiKey⟩
  | _ => none

end ExplorerAccess

namespace PaymentPreference

def toJson (p : PaymentPreference) : Json.Value :=
  .record [("default_payment_type", p.defaultKind.toJson)]

def ofJson? (v : Json.Value) : Option PaymentPreference := do
  match ← v.record? ["default_payment_type"] with
  | [kind] => return ⟨← Json.required Payment.Kind.ofJson? kind⟩
  | _ => none

end PaymentPreference

namespace Settings

def toJson (s : Settings) : Json.Value :=
  .record [
    ("networks", .list (s.networks.map Network.toJson)), ("default_network", s.defaultChain.toJson),
    ("token_explorer", s.explorer.toJson), ("payment", s.payment.toJson)]

def ofJson? (v : Json.Value) : Option Settings := do
  match ← v.record? ["networks", "default_network", "token_explorer", "payment"] with
  | [networks, defaultChain, explorer, payment] =>
    return {
      networks := ← Json.required (·.listOf? Network.ofJson?) networks
      defaultChain := ← Json.required Chain.ofJson? defaultChain
      explorer := ← Json.required ExplorerAccess.ofJson? explorer
      payment := ← Json.required PaymentPreference.ofJson? payment }
  | _ => none

end Settings

end EvmWallet
