/-!
# Token errors

Why a token operation failed, and how each cause is worded.
-/

namespace EvmWallet.Token

/-- The causes of failure. -/
inductive Error where
  /-- A text that is no address, as it was given. -/
  | invalidAddress (given : String)
  /-- The server refused a call or gave no usable answer. -/
  | rpc (reason : String)
  /-- A service could not be reached or named. -/
  | network (reason : String)
  /-- An answer that cannot be read. -/
  | decode (reason : String)
  /-- A call that answered nothing. -/
  | emptyResponse
  /-- A balance with more than 96 bits before the point. -/
  | balanceOverflow
  /-- The cache refused. -/
  | storage (reason : String)
  deriving DecidableEq, Repr

/-- The wording of a cause. -/
def Error.message : Error → String
  | invalidAddress given => "Invalid address: " ++ given
  | rpc reason => "RPC error: " ++ reason
  | network reason => "Network error: " ++ reason
  | decode reason => "Decode error: " ++ reason
  | emptyResponse => "Empty response from contract call"
  | balanceOverflow => "Balance does not fit a decimal"
  | storage reason => "Storage error: " ++ reason

end EvmWallet.Token
