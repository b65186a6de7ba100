import EvmWallet.Eth.BalanceCall
import EvmWallet.Network
import EvmWallet.Token
import EvmWallet.Wallet

/-!
# What a portfolio depends on

The cache, the explorer and the servers of the chains, each of which may refuse at any time.
They act on a world of their own, so that whatever they remember is theirs. `logged` makes
them keep a record of the requests they get.
-/

namespace EvmWallet.Token

/-- Requests to the outside and how the world answers them. -/
structure Services (World Client : Type) where
  /-- The cached tokens of a wallet. -/
  cached : Wallet → StateM World (Except Error (List Token))
  put : Wallet → Token → StateM World (Except Error Unit)
  delete : Wallet → Token → StateM World (Except Error Unit)
  /-- The tokens that the explorer lists for an address. -/
  listed : String → StateM World (Except Error (List Token))
  /-- A client of a network. -/
  connect : Network → StateM World (Except Error Client)
  /-- What a transaction answers at the latest block. -/
  call : Client → Eth.Transaction → StateM World (Except Error (List UInt8))

/-- A request to a service. -/
inductive Request (Client : Type) where
  | cached (w : Wallet)
  | put (w : Wallet) (t : Token)
  | delete (w : Wallet) (t : Token)
  | listed (address : String)
  | connect (n : Network)
  | call (client : Client) (t : Eth.Transaction)

namespace Services

variable {World Client : Type}

/-- Records a request and lets the world answer it. -/
def recorded {α : Type} (r : Request Client) (act : StateM World α) :
    StateM (World × List (Request Client)) α :=
  fun (world, log) =>
    let (a, world) := act world
    (a, (world, log ++ [r]))

/-- The same services with a record of all requests. -/
def logged (s : Services World Client) : Services (World × List (Request Client)) Client where
  cached w := recorded (.cached w) (s.cached w)
  put w t := recorded (.put w t) (s.put w t)
  delete w t := recorded (.delete w t) (s.delete w t)
  listed address := recorded (.listed address) (s.listed address)
  connect n := recorded (.connect n) (s.connect n)
  call client t := recorded (.call client t) (s.call client t)

end Services

end EvmWallet.Token
