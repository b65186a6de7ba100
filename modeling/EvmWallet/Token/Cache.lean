import EvmWallet.Token
import EvmWallet.Wallet

/-!
# The token cache

For each wallet the tokens it is known to hold, at most one for a contract. Putting a token
replaces the one of the same contract where it stands, and adds it at the end if there is
none. Wallets that are equal share their list.
-/

namespace EvmWallet.Token

/-! ## Lists -/

/-- A list with a token in the place of the one with its contract, or at the end. -/
def putInto (t : Token) : List Token → List Token
  | [] => [t]
  | u :: rest => if u.sameContract t then t :: rest else u :: putInto t rest

/-- A list without the tokens of a contract. -/
def dropFrom (t : Token) (tokens : List Token) : List Token :=
  tokens.filter (!·.sameContract t)

/-! ## The cache -/

/-- The list of each wallet, by the wallet's key. -/
structure Cache where
  list : String → List Token

namespace Cache

/-- Nothing is known of any wallet. -/
def empty : Cache := ⟨fun _ => []⟩

/-- The tokens of a wallet. -/
def tokens (c : Cache) (w : Wallet) : List Token := c.list w.key

/-- The cache with another list for one wallet. -/
def update (c : Cache) (w : Wallet) (f : List Token → List Token) : Cache :=
  ⟨fun key => if key = w.key then f (c.list key) else c.list key⟩

/-- Puts a token on the list of a wallet. -/
def put (c : Cache) (w : Wallet) (t : Token) : Cache := c.update w (putInto t)

/-- Takes a token off the list of a wallet. -/
def delete (c : Cache) (w : Wallet) (t : Token) : Cache := c.update w (dropFrom t)

theorem list_update_self (c : Cache) (w : Wallet) (f : List Token → List Token) :
    (c.update w f).list w.key = f (c.list w.key) := by simp [update]

theorem list_update_other (c : Cache) (w : Wallet) (f : List Token → List Token) {key : String}
    (h : key ≠ w.key) : (c.update w f).list key = c.list key := by simp [update, h]

end Cache

end EvmWallet.Token
