import EvmWallet.Bytes.Word
import EvmWallet.Eth.Address

/-!
# The balance call

How an owner's balance is asked of a token's contract. The call data is the selector of
`balanceOf(address)` followed by the owner, padded to a word; the answer is one word, and
whatever follows it is ignored.
-/

namespace EvmWallet.Eth

/-- The first four bytes of the hash of `balanceOf(address)`. -/
def balanceSelector : List UInt8 := [0x70, 0xa0, 0x82, 0x31]

/-- The call data that asks for an owner's balance. -/
def balanceCall (owner : Address) : List UInt8 :=
  balanceSelector ++ List.replicate 12 0 ++ owner.bytes

/-- A transaction that is executed without being recorded. It is of the legacy kind, with no
price, limit or count of its own. -/
structure Transaction where
  sender : Address
  target : Address
  data : List UInt8
  deriving DecidableEq

/-- The transaction that asks a contract for an owner's balance. -/
def balanceTransaction (owner contract : Address) : Transaction :=
  ⟨owner, contract, balanceCall owner⟩

/-- The balance in the answer to a balance call. -/
def decodeBalance (answer : List UInt8) : Except Token.Error Bytes.Word :=
  if answer.isEmpty then .error .emptyResponse
  else
    match Bytes.word? answer with
    | some w => .ok w
    | none => .error (.decode "balanceOf: Invalid data")

end EvmWallet.Eth
