import EvmWallet.Board
import EvmWallet.Settings.Profile

/-!
# Network selection

The networks on offer and, on a board, the one in use. Selecting the network that is in use
already is not noticed by anybody.
-/

namespace EvmWallet.Network

/-- The network in use, and those that can be offered. -/
structure Selection where
  current : Board Network
  available : List Network

namespace Selection

/-- A selection of a first network. -/
def ofNetworks (first : Network) (available : List Network) : Selection :=
  ⟨.showing first, available⟩

/-- The network in use. -/
def selected (s : Selection) : Network := s.current.value

/-- The first available network of a chain. -/
def find? (s : Selection) (chain : Chain) : Option Network := Network.find? s.available chain

/-- Puts another network to use. -/
def select (s : Selection) (n : Network) : Selection := { s with current := s.current.postIfNew n }

theorem select_selected (s : Selection) : s.select s.selected = s :=
  congrArg (mk · s.available) (if_pos rfl)

theorem select_other {s : Selection} {n : Network} (other : s.selected ≠ n) :
    s.select n = { s with current := s.current.post n } :=
  congrArg (mk · s.available) (if_neg other)

/-- Ends the selection; readers keep the last network. -/
def close (s : Selection) : Selection := { s with current := s.current.close }

/-- The networks of a profile, each redirected as the profile says, with its default in use. -/
def ofProfile (p : Profile) : Except Settings.Error Selection :=
  p.defaultNetwork.map fun first =>
    ofNetworks first (p.settings.networks.filterMap fun n => p.network? n.chain)

end Selection

end EvmWallet.Network
