/-!
# Machine words

The 256-bit word of the EVM as thirty-two bytes, most significant first.
-/

namespace EvmWallet.Bytes

/-- A 256-bit word. -/
abbrev Word := BitVec 256

/-- The number that bytes spell, most significant first, after the number `n`. -/
def addBytes (n : Nat) (bytes : List UInt8) : Nat := bytes.foldl (fun v b => 256 * v + b.toNat) n

/-- The lowest `count` bytes of a number, most significant first. -/
def bytesOfNat : Nat → Nat → List UInt8
  | 0, _ => []
  | count + 1, n => bytesOfNat count (n / 256) ++ [UInt8.ofNat (n % 256)]

/-- The thirty-two bytes of a word. -/
def ofWord (w : Word) : List UInt8 := bytesOfNat 32 w.toNat

/-- The word at the head of a byte string, if it is long enough. -/
def word? (bytes : List UInt8) : Option Word :=
  if 32 ≤ bytes.length then some (BitVec.ofNat 256 (addBytes 0 (bytes.take 32))) else none

theorem length_bytesOfNat (count n : Nat) : (bytesOfNat count n).length = count := by
  induction count generalizing n with
  | zero => rfl
  | succ k ih => simp [bytesOfNat, ih]

/-- A word takes thirty-two bytes. -/
theorem length_ofWord (w : Word) : (ofWord w).length = 32 := length_bytesOfNat 32 _

theorem addBytes_append (n : Nat) (s t : List UInt8) :
    addBytes n (s ++ t) = addBytes (addBytes n s) t := List.foldl_append

/-- The bytes of a number spell it, as far as they reach. -/
theorem addBytes_bytesOfNat (count n : Nat) :
    addBytes 0 (bytesOfNat count n) = n % Nat.pow 256 count := by
  induction count generalizing n with
  | zero => simp [bytesOfNat, addBytes, Nat.mod_one]
  | succ k ih =>
    rw [bytesOfNat, addBytes_append, ih]
    have : (UInt8.ofNat (n % 256)).toNat = n % 256 := by simp
    simp only [addBytes, List.foldl_cons, List.foldl_nil, this]
    have power : Nat.pow 256 (k + 1) = 256 * Nat.pow 256 k := Nat.pow_succ'
    rw [power, Nat.mod_mul]
    omega

/-- A word is read back from its bytes, whatever follows them. -/
theorem word?_ofWord (w : Word) (rest : List UInt8) : word? (ofWord w ++ rest) = some w := by
  have take : (ofWord w ++ rest).take 32 = ofWord w := by
    rw [List.take_append_of_le_length (by simp [length_ofWord])]
    exact List.take_of_length_le (by simp [length_ofWord])
  have long : 32 ≤ (ofWord w ++ rest).length := by
    rw [List.length_append, length_ofWord]
    exact Nat.le_add_right 32 _
  have value : addBytes 0 (ofWord w) = w.toNat := by
    rw [ofWord, addBytes_bytesOfNat]
    exact Nat.mod_eq_of_lt w.isLt
  rw [word?, if_pos long, take, value, BitVec.ofNat_toNat, BitVec.setWidth_eq]

end EvmWallet.Bytes
