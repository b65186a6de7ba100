import EvmWallet.Board
import EvmWallet.Token.Amount
import EvmWallet.Token.Services

/-!
# Portfolios

The tokens of a wallet with their balances. What is cached is shown first; then the cache is
brought up to date from the explorer, and the balances are read from the chain through a
client of the network that is in use. A token that cannot be stored or removed and a balance
that cannot be read are passed over; an explorer or a cache that cannot be read ends the
work.
-/

namespace EvmWallet.Token

variable {World Client : Type}

/-! ## Balances -/

/-- The balance of a token, through a client. -/
def balance (s : Services World Client) (client : Client) (w : Wallet) (t : Token) :
    StateM World (Except Error Decimal) :=
  match Eth.Address.ofString w.address, Eth.Address.ofString t.address with
  | .error e, _ => pure (.error e)
  | .ok _, .error e => pure (.error e)
  | .ok owner, .ok contract => do
    let answer ← s.call client (Eth.balanceTransaction owner contract)
    return answer.bind fun bytes => (Eth.decodeBalance bytes).bind (ofBaseUnits · t.decimals)

/-- A token with its balance, if that can be read. -/
def holding (s : Services World Client) (client : Option Client) (w : Wallet) (t : Token) :
    StateM World Holding :=
  match client with
  | none => pure (.unknown t)
  | some client => do
    let b ← balance s client w t
    return ⟨t, b.toOption⟩

/-! ## The connection -/

/-- The client in use, and which network it was made for: the reader remembers when it last
looked. -/
structure Connection (Client : Type) where
  reader : Reader
  client : Option Client

namespace Connection

/-- No client yet. -/
def ofBoard (networks : Board Network) : Connection Client := ⟨networks.reader, none⟩

/-- Whether another network may have been put to use since the client was made. Of a closed
board nothing new is learned. -/
def outdated (c : Connection Client) (networks : Board Network) : Bool :=
  (networks.changed? c.reader).getD false

/-- The client, which is made anew if there is none or another network is in use. A network
that no client can be made for leaves none. -/
def obtain (s : Services World Client) (networks : Board Network) (c : Connection Client) :
    StateM World (Except Error Client × Connection Client) := do
  match c.client, c.outdated networks with
  | some client, false => return (.ok client, c)
  | _, _ =>
    let client ← s.connect networks.value
    return (client, ⟨networks.reader, client.toOption⟩)

section Obtain

variable {networks : Board Network} {c : Connection Client}

theorem outdated_iff (unclosed : networks.closed = false) :
    c.outdated networks = true ↔ c.reader.seen ≠ networks.posts := by
  simp [outdated, Board.changed?, unclosed]

theorem outdated_of_closed (closed : networks.closed = true) : c.outdated networks = false := by
  simp [outdated, Board.changed?, closed]

/-- Either there is a client to use, or one is to be made. -/
theorem current_or_lacks (networks : Board Network) (c : Connection Client) :
    (∃ client, c.client = some client ∧ c.outdated networks = false) ∨
      (c.client = none ∨ c.outdated networks = true) := by
  cases c.client with
  | none => exact .inr (.inl rfl)
  | some client =>
    cases c.outdated networks with
    | true => exact .inr (.inr rfl)
    | false => exact .inl ⟨client, rfl, rfl⟩

theorem obtain_of_current (s : Services World Client) {client : Client}
    (has : c.client = some client) (current : c.outdated networks = false) :
    c.obtain s networks = pure (.ok client, c) := by
  unfold obtain
  rw [has, current]

theorem obtain_of_lacks (s : Services World Client)
    (lacks : c.client = none ∨ c.outdated networks = true) :
    c.obtain s networks = do
      let client ← s.connect networks.value
      return (client, ⟨networks.reader, client.toOption⟩) := by
  unfold obtain
  rcases lacks with none | old
  · rw [none]
  · rw [old]
    cases c.client <;> rfl

end Obtain

end Connection

/-! ## Portfolios -/

/-- The cached tokens, their balances not known. -/
def fetchCached (s : Services World Client) (w : Wallet) :
    StateM World (Except Error (List Holding)) := do
  let tokens ← s.cached w
  return tokens.map (·.map .unknown)

/-- Puts tokens into the cache one after the other, and counts those that it took. -/
def store (s : Services World Client) (w : Wallet) : List Token → StateM World Nat
  | [] => pure 0
  | t :: rest => do
    let taken ← s.put w t
    let more ← store s w rest
    return (if taken.isOk then 1 else 0) + more

/-- Takes tokens out of the cache one after the other. -/
def discard (s : Services World Client) (w : Wallet) : List Token → StateM World Unit
  | [] => pure ()
  | t :: rest => do
    let _ ← s.delete w t
    discard s w rest

/-- The cached tokens that are not listed. -/
def stale (listed cached : List Token) : List Token :=
  cached.filter fun t => !listed.any (·.sameContract t)

/-- Brings the cache of a wallet up to date, and counts the tokens that were stored. -/
def refresh (s : Services World Client) (w : Wallet) : StateM World (Except Error Nat) := do
  match ← s.listed w.address with
  | .error e => return .error e
  | .ok listed =>
    let stored ← store s w listed
    match ← s.cached w with
    | .error e => return .error e
    | .ok cached =>
      discard s w (stale listed cached)
      return .ok stored

/-- The tokens with their balances, one after the other. -/
def holdings (s : Services World Client) (client : Option Client) (w : Wallet) :
    List Token → StateM World (List Holding)
  | [] => pure []
  | t :: rest => do
    let h ← holding s client w t
    let more ← holdings s client w rest
    return h :: more

/-- The cached tokens with their balances as the network in use has them. -/
def fetchWithBalances (s : Services World Client) (networks : Board Network) (w : Wallet)
    (c : Connection Client) : StateM World (Except Error (List Holding) × Connection Client) := do
  match ← s.cached w with
  | .error e => return (.error e, c)
  | .ok tokens =>
    let (client, c) ← c.obtain s networks
    let all ← holdings s client.toOption w tokens
    return (.ok all, c)

/-! ## The two answers of a fetch -/

/-- What a fetch has still to give. -/
inductive Stage where
  | cached
  | refreshed
  | finished
  deriving DecidableEq, Repr

/-- The next answer of a fetch, if there is one, and what comes after it. -/
def next (s : Services World Client) (networks : Board Network) (w : Wallet)
    (c : Connection Client) (stage : Stage) :
    StateM World (Option (Except Error (List Holding)) × Connection Client × Stage) := do
  match stage with
  | .finished => return (none, c, .finished)
  | .cached =>
    match ← fetchCached s w with
    | .ok tokens => return (some (.ok tokens), c, .refreshed)
    | .error e => return (some (.error e), c, .finished)
  | .refreshed =>
    match ← refresh s w with
    | .error e => return (some (.error e), c, .finished)
    | .ok _ =>
      let (answer, c) ← fetchWithBalances s networks w c
      return (some answer, c, .finished)

/-- All answers of a fetch. -/
def fetch (s : Services World Client) (networks : Board Network) (w : Wallet)
    (c : Connection Client) :
    StateM World (List (Except Error (List Holding)) × Connection Client) := do
  let (first, c, stage) ← next s networks w c .cached
  let (second, c, _) ← next s networks w c stage
  return (first.toList ++ second.toList, c)

/-- All answers of a fetch for the wallet of an address. -/
def fetchAddress (s : Services World Client) (networks : Board Network) (address : String)
    (c : Connection Client) :
    StateM World (List (Except Error (List Holding)) × Connection Client) :=
  fetch s networks (.ofAddress address) c

end EvmWallet.Token
