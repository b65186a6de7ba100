import EvmWallet.Decimal
import EvmWallet.Text.Case

/-!
# Tokens

An ERC-20 token as a wallet lists it, and a holding of one. A token is identified by the
address of its contract, whose letters may be of either case.
-/

namespace EvmWallet

/-- What is known of a token. -/
structure Token where
  address : String
  name : String
  symbol : String
  decimals : UInt32
  deriving DecidableEq, Repr

namespace Token

/-- The contract's address in lower case. -/
def contract (t : Token) : String := Text.asciiLower t.address

/-- Whether two tokens name one contract. -/
def sameContract (t u : Token) : Bool := Text.sameUpToAsciiCase t.address u.address

/-- Naming one contract is having one lower case address. -/
theorem sameContract_iff {t u : Token} : t.sameContract u = true ↔ t.contract = u.contract :=
  Text.sameUpToAsciiCase_iff

/-! ## JSON -/

def toJson (t : Token) : Json.Value :=
  .record [
    ("address", .text t.address), ("name", .text t.name), ("symbol", .text t.symbol),
    ("decimals", .nat t.decimals.toNat)]

/-- A number of fraction digits in JSON. -/
def decimalsOfJson? (v : Json.Value) : Option UInt32 :=
  (v.natBelow? UInt32.size).map UInt32.ofNat

def ofJson? (v : Json.Value) : Option Token := do
  match ← v.record? ["address", "name", "symbol", "decimals"] with
  | [address, name, symbol, decimals] =>
    return {
      address := ← Json.required Json.Value.text? address
      name := ← Json.required Json.Value.text? name
      symbol := ← Json.required Json.Value.text? symbol
      decimals := ← Json.required decimalsOfJson? decimals }
  | _ => none

end Token

/-- A token with its balance for one wallet. The balance is `none` while it is not known,
which is not the same as zero. -/
structure Holding where
  token : Token
  balance : Option Decimal
  deriving DecidableEq

namespace Holding

/-- A token whose balance is not known. -/
def unknown (t : Token) : Holding := ⟨t, none⟩

def toJson (h : Holding) : Json.Value :=
  .record [("info", h.token.toJson), ("balance", .option Decimal.toJson h.balance)]

def ofJson? (v : Json.Value) : Option Holding := do
  match ← v.record? ["info", "balance"] with
  | [info, balance] =>
    return ⟨← Json.required Token.ofJson? info, ← Json.optional Decimal.ofJson? balance⟩
  | _ => none

end Holding

end EvmWallet
