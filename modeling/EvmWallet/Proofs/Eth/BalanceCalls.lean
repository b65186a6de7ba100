import EvmWallet.Eth.Server
import EvmWallet.Proofs.Eth.Spellings
import EvmWallet.Proofs.Portfolio.Balances

/-!
# The format of a balance call

A balance call names its owner and its contract, and the two can be told from it; its answer starts
with the balance in thirty-two bytes, most significant first, and nothing else is taken for one. The
main statement is `balance_call_format`.
-/

namespace EvmWallet

/-! ## Words -/

namespace Bytes

open Token (bigEndian)

theorem addBytes_concat (n : Nat) (bytes : List UInt8) (b : UInt8) :
    addBytes n (bytes ++ [b]) = 256 * addBytes n bytes + b.toNat := by
  rw [addBytes_append]
  rfl

/-- Bytes are those of the number that they spell. -/
theorem bytesOfNat_addBytes (bytes : List UInt8) :
    bytesOfNat bytes.length (addBytes 0 bytes) = bytes := by
  induction bytes using List.reverseRecOn with
  | nil => rfl
  | append_singleton bytes b ih =>
    have byte : b.toNat < 256 := b.toNat_lt
    have front : (256 * addBytes 0 bytes + b.toNat) / 256 = addBytes 0 bytes := by omega
    have last : (256 * addBytes 0 bytes + b.toNat) % 256 = b.toNat := by omega
    rw [addBytes_concat, List.length_append, List.length_singleton, bytesOfNat, front, last, ih,
      UInt8.ofNat_toNat]

/-- The thirty-two bytes of a word are those that spell it. -/
theorem eq_ofWord_iff {bytes : List UInt8} {w : Word} :
    bytes = ofWord w ↔ bytes.length = 32 ∧ bigEndian bytes = w.toNat := by
  rw [← Token.addBytes_eq]
  constructor
  · intro same
    rw [same]
    refine ⟨length_ofWord w, ?_⟩
    rw [ofWord, addBytes_bytesOfNat]
    exact Nat.mod_eq_of_lt w.isLt
  · rintro ⟨long, spelled⟩
    rw [ofWord, ← spelled, ← long, bytesOfNat_addBytes]

end Bytes

/-! ## Calls -/

namespace Eth

open Token (bigEndian)

theorem Address.bytes_inj {a b : Address} : a.bytes = b.bytes ↔ a = b := by
  cases a
  cases b
  simp

theorem balanceCall_eq (owner : Address) :
    balanceCall owner = [0x70, 0xa0, 0x82, 0x31] ++ (List.replicate 12 0 ++ owner.bytes) :=
  List.append_assoc _ _ _

theorem length_balanceCall (owner : Address) : (balanceCall owner).length = 36 := by
  simp [balanceCall_eq, owner.length_eq]

/-- The owner stands at the end of the call data. -/
theorem drop_balanceCall (owner : Address) : (balanceCall owner).drop 16 = owner.bytes := by
  simp [balanceCall_eq]

theorem balanceCall_inj {owner owner' : Address} :
    balanceCall owner = balanceCall owner' ↔ owner = owner' := by
  constructor
  · intro same
    rw [← Address.bytes_inj, ← drop_balanceCall, ← drop_balanceCall, same]
  · rintro rfl
    rfl

theorem hex_balanceCall (owner : Address) :
    Bytes.hex (balanceCall owner) =
      "0x70a08231000000000000000000000000" ++ String.ofList (Bytes.hexChars owner.bytes) := by
  have behind : Bytes.hexChars (balanceCall owner) =
      Bytes.hexChars ([0x70, 0xa0, 0x82, 0x31] ++ List.replicate 12 0) ++
        Bytes.hexChars owner.bytes := List.flatMap_append
  rw [← String.toList_inj, String.toList_append, Bytes.hex, behind]
  simp only [String.toList_ofList]
  rfl

/-! ## Answers -/

theorem bigEndian_lt {bytes : List UInt8} (long : bytes.length = 32) :
    bigEndian bytes < 2 ^ 256 := by
  have same := Bytes.addBytes_bytesOfNat bytes.length (Bytes.addBytes 0 bytes)
  rw [Bytes.bytesOfNat_addBytes, Token.addBytes_eq, long] at same
  rw [same]
  exact Nat.mod_lt _ (Nat.pow_pos (by decide))

/-- Thirty-two bytes are those of the word that they spell. -/
theorem ofWord_ofNat_bigEndian {bytes : List UInt8} (long : bytes.length = 32) :
    Bytes.ofWord (BitVec.ofNat 256 (bigEndian bytes)) = bytes := by
  have spelled : bigEndian bytes = (BitVec.ofNat 256 (bigEndian bytes)).toNat := by
    rw [BitVec.toNat_ofNat, Nat.mod_eq_of_lt (bigEndian_lt long)]
  exact (Bytes.eq_ofWord_iff.mpr ⟨long, spelled⟩).symm

/-- An answer is read as the word whose bytes it starts with. -/
theorem decodeBalance_eq_ok_iff_starts {answer : List UInt8} {w : Bytes.Word} :
    decodeBalance answer = .ok w ↔ ∃ rest, answer = Bytes.ofWord w ++ rest := by
  rw [Token.decodeBalance_eq_ok_iff]
  constructor
  · intro ⟨long, same⟩
    have first : (answer.take 32).length = 32 := List.length_take_of_le long
    refine ⟨answer.drop 32, ?_⟩
    rw [same, ofWord_ofNat_bigEndian first, List.take_append_drop]
  · intro ⟨rest, same⟩
    obtain ⟨long, spelled⟩ := Bytes.eq_ofWord_iff.mp (rfl : Bytes.ofWord w = _)
    have first : answer.take 32 = Bytes.ofWord w := by
      rw [same, ← long, List.take_left]
    refine ⟨?_, ?_⟩
    · rw [same, List.length_append, long]
      exact Nat.le_add_right 32 _
    · rw [first, spelled, BitVec.ofNat_toNat, BitVec.setWidth_eq]

theorem decodeBalance_eq_error_iff {answer : List UInt8} {e : Token.Error} :
    decodeBalance answer = .error e ↔ answer = [] ∧ e = .emptyResponse ∨
      1 ≤ answer.length ∧ answer.length ≤ 31 ∧ e = .decode "balanceOf: Invalid data" := by
  unfold decodeBalance Bytes.word?
  cases answer with
  | nil => simp [eq_comm]
  | cons b rest =>
    generalize BitVec.ofNat 256 (Bytes.addBytes 0 ((b :: rest).take 32)) = w
    by_cases long : 32 ≤ (b :: rest).length
    · have short : ¬(b :: rest).length ≤ 31 := by omega
      simp only [if_pos long, short]
      simp
    · have short : (b :: rest).length ≤ 31 := by omega
      simp only [if_neg long, short]
      simp [eq_comm]

/-- The transaction that asks a contract for an owner's balance goes from the one to the other, with
thirty-six bytes: selector, twelve zeros, owner. It is sent as one of type zero, and its owner and its
contract can be told from it, the owner from the call data alone. A word has thirty-two bytes, which
are those that spell it with the most significant first. An answer is read as a word exactly if it
starts with the bytes of that word; it is refused as empty exactly if it is, and as no data exactly if
it has one to thirty-one bytes. -/
theorem balance_call_format (owner contract : Address) :
    let t := balanceTransaction owner contract
    (t.sender = owner ∧ t.target = contract ∧ t.data.length = 36 ∧
      t.data = [0x70, 0xa0, 0x82, 0x31] ++ (List.replicate 12 0 ++ owner.bytes) ∧
      t.data.drop 16 = owner.bytes) ∧
    (Server.callParameters t = .list [
        .record [("type", .text "0x00"), ("from", .text owner.text), ("to", .text contract.text),
          ("data", .text ("0x70a08231000000000000000000000000" ++
            String.ofList (Bytes.hexChars owner.bytes)))],
        .text "latest"] ∧
      Address.ofString owner.text = .ok owner ∧ Address.ofString contract.text = .ok contract) ∧
    (∀ owner' contract', balanceTransaction owner' contract' = t ↔
      owner' = owner ∧ contract' = contract) ∧
    (∀ owner', balanceCall owner' = balanceCall owner ↔ owner' = owner) ∧
    (∀ (w : Bytes.Word) bytes, bytes = Bytes.ofWord w ↔
      bytes.length = 32 ∧ bigEndian bytes = w.toNat) ∧
    (∀ answer w, decodeBalance answer = .ok w ↔ ∃ rest, answer = Bytes.ofWord w ++ rest) ∧
    ∀ answer e, decodeBalance answer = .error e ↔ answer = [] ∧ e = .emptyResponse ∨
      1 ≤ answer.length ∧ answer.length ≤ 31 ∧ e = .decode "balanceOf: Invalid data" := by
  have read (a : Address) : Address.ofString a.text = .ok a := by
    rw [Address.ofString_eq_ok_iff, Address.ofChars?_eq_some_iff_written]
    exact a.written_text
  intro t
  refine ⟨⟨rfl, rfl, length_balanceCall owner, balanceCall_eq owner, drop_balanceCall owner⟩,
    ⟨?_, read owner, read contract⟩, fun owner' contract' => ?_, fun owner' => balanceCall_inj,
    fun w bytes => Bytes.eq_ofWord_iff, fun answer w => decodeBalance_eq_ok_iff_starts,
    fun answer e => decodeBalance_eq_error_iff⟩
  · rw [← hex_balanceCall]
    rfl
  · show balanceTransaction owner' contract' = balanceTransaction owner contract ↔ _
    unfold balanceTransaction
    simp only [Transaction.mk.injEq]
    constructor
    · rintro ⟨sender, target, -⟩
      exact ⟨sender, target⟩
    · rintro ⟨rfl, rfl⟩
      exact ⟨rfl, rfl, rfl⟩

end Eth

end EvmWallet
