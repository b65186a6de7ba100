/-!
# Payment errors

Why a payment step is refused, and how each cause is worded.
-/

namespace EvmWallet.Payment

/-- The causes of a refused payment step. -/
inductive Error where
  /-- A step for which nothing has been asked. -/
  | invalidState (what : String)
  /-- A request that has been answered already. -/
  | callbackConsumed
  | noActiveSession
  | channelClosed
  | methodNotFound (kind : String)
  deriving DecidableEq, Repr

/-- The wording of a cause. -/
def Error.message : Error → String
  | invalidState what => "Invalid state: " ++ what
  | callbackConsumed => "Callback already consumed"
  | noActiveSession => "No active payment session"
  | channelClosed => "Payment status channel closed"
  | methodNotFound kind => "Payment method not found: " ++ kind

end EvmWallet.Payment
