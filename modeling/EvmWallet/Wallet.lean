import EvmWallet.Json.Decode
import EvmWallet.Text.Blank
import EvmWallet.Text.Case

/-!
# Wallets

A wallet is an address. Two wallets are the same when their addresses agree in lower case.
-/

namespace EvmWallet

/-- A wallet's address as it was given. -/
structure Wallet where
  address : String
  deriving Repr

namespace Wallet

/-- The wallet of an address, without blanks around it. -/
def ofAddress (address : String) : Wallet := ⟨Text.trim address⟩

/-- The lower case address, which identifies the wallet. -/
def key (w : Wallet) : String := Text.lower w.address

/-- Wallets are compared by key. -/
instance : BEq Wallet := ⟨fun a b => a.key == b.key⟩

/-! ## JSON -/

def toJson (w : Wallet) : Json.Value := .record [("address", .text w.address)]

def ofJson? (v : Json.Value) : Option Wallet := do
  match ← v.record? ["address"] with
  | [address] => return ⟨← Json.required Json.Value.text? address⟩
  | _ => none

end Wallet

end EvmWallet
