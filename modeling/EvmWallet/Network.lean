import EvmWallet.Chain

/-!
# Networks

A network is a chain together with the server through which the wallet reaches it.
-/

namespace EvmWallet

/-- An EVM network the wallet can talk to. -/
structure Network where
  chain : Chain
  name : String
  symbol : String
  rpcUrl : String
  chainId : UInt64
  isMain : Bool
  deriving DecidableEq, Repr

namespace Network

/-- The network of a chain, with the chain's own name and number. -/
def ofChain (chain : Chain) (symbol rpcUrl : String) : Network :=
  { chain, name := chain.displayName, symbol, rpcUrl, chainId := chain.id, isMain := chain.isMain }

/-- The main Ethereum network through a public server. -/
def ethereum : Network := ofChain .ethereum "ETH" "https://eth.llamarpc.com"

/-- The Polygon network through a public server. -/
def polygon : Network := ofChain .polygon "POL" "https://polygon-rpc.com"

/-- The first network of a chain. -/
def find? (networks : List Network) (chain : Chain) : Option Network :=
  networks.find? (·.chain = chain)

/-! ## JSON -/

def toJson (n : Network) : Json.Value :=
  .record [
    ("chain", n.chain.toJson), ("name", .text n.name), ("symbol", .text n.symbol),
    ("rpc_server_url", .text n.rpcUrl), ("chain_id", .nat n.chainId.toNat),
    ("is_main_network", .bool n.isMain)]

def ofJson? (v : Json.Value) : Option Network := do
  match ← v.record?
      ["chain", "name", "symbol", "rpc_server_url", "chain_id", "is_main_network"] with
  | [chain, name, symbol, rpcUrl, chainId, isMain] =>
    return {
      chain := ← Json.required Chain.ofJson? chain
      name := ← Json.required Json.Value.text? name
      symbol := ← Json.required Json.Value.text? symbol
      rpcUrl := ← Json.required Json.Value.text? rpcUrl
      chainId := ← Json.required Chain.wordOfJson? chainId
      isMain := ← Json.required Json.Value.bool? isMain }
  | _ => none

end Network

end EvmWallet
