import EvmWallet.Proofs.Json.Documents
import EvmWallet.Proofs.Number.Positional
import EvmWallet.Proofs.Token.Amounts
import EvmWallet.Token

/-!
# Holdings in documents

Amounts, tokens and holdings are read back from the JSON that is made of them (`ofJson?_toJson`),
and that JSON is printed as a text that spells it (`printable_toJson`). A holding with a balance that
came from base units is read from every such text, its balance digit by digit; a balance that is not
known stays so: `holding_in_texts`.
-/

namespace EvmWallet

open Json

/-! ## Amounts -/

namespace Decimal

theorem ofJson?_toJson {d : Decimal} (signed : d.mantissa = 0 → d.negative = false) :
    ofJson? d.toJson = some d := ofString?_toString signed

theorem printable_toJson (d : Decimal) : d.toJson.Printable := printable_text _

end Decimal

/-! ## Tokens -/

namespace Token

theorem decimalsOfJson?_nat (n : UInt32) : decimalsOfJson? (.nat n.toNat) = some n := by
  rw [decimalsOfJson?, natBelow?_nat n.toNat_lt, Option.map_some, UInt32.ofNat_toNat]

theorem ofJson?_toJson (t : Token) : ofJson? t.toJson = some t := by
  have read : t.toJson.record? ["address", "name", "symbol", "decimals"] =
      some [some (.text t.address), some (.text t.name), some (.text t.symbol),
        some (.nat t.decimals.toNat)] :=
    record?_record rfl (by decide)
  unfold ofJson?
  rw [read]
  simp [required, Value.text?, decimalsOfJson?_nat]

theorem printable_toJson (t : Token) : t.toJson.Printable :=
  printable_record (by simp [printable_text, printable_nat])

theorem unsigned_of_ofBaseUnits {raw : Bytes.Word} {decimals : UInt32} {d : Decimal}
    (h : ofBaseUnits raw decimals = .ok d) : d.negative = false :=
  (ofBaseUnits_eq_ok_iff.mp h).unsigned

end Token

/-! ## Holdings -/

namespace Holding

variable {h : Holding}

theorem ofJson?_toJson (signed : ∀ d ∈ h.balance, d.mantissa = 0 → d.negative = false) :
    ofJson? h.toJson = some h := by
  have read : h.toJson.record? ["info", "balance"] =
      some [some h.token.toJson, some (.option Decimal.toJson h.balance)] :=
    record?_record rfl (by decide)
  have balance : Json.optional Decimal.ofJson? (some (.option Decimal.toJson h.balance)) =
      some h.balance := by
    cases known : h.balance with
    | none => rfl
    | some d =>
      show (Decimal.ofJson? d.toJson).map some = some (some d)
      rw [Decimal.ofJson?_toJson (signed d known)]
      rfl
  unfold ofJson?
  rw [read]
  simp [required, Token.ofJson?_toJson, balance]

theorem printable_toJson (h : Holding) : h.toJson.Printable := by
  have balance : (Value.option Decimal.toJson h.balance).Printable := by
    cases h.balance with
    | none => exact .null
    | some d => exact d.printable_toJson
  exact printable_record (by simp [balance, Token.printable_toJson])

/-- A holding whose balance, if it is known, came from base units is written to a text and read from
it, or from any other text of the same JSON, as the same: the token with the texts and the decimals
that it has, the balance with its mantissa and its scale. A balance stands there as a text with all
its digits, as many of them behind the point as its scale is, and `null` is what stands for a balance
exactly if that is not known. -/
theorem holding_in_texts (h : Holding)
    (known : ∀ d ∈ h.balance, ∃ raw decimals, Token.ofBaseUnits raw decimals = .ok d) :
    Spelled h.toJson h.toJson.print ∧
    (∀ text, Spelled h.toJson text → (Json.parse? text).bind ofJson? = some h) ∧
    ∃ v, h.toJson = .record [("info", h.token.toJson), ("balance", v)] ∧
      (v = .null ↔ h.balance = none) ∧
      ∀ d ∈ h.balance, ∃ s, v = .text s ∧ Decimal.SpellsParts d.mantissa d.scale s.toList := by
  have unsigned : ∀ d ∈ h.balance, d.negative = false := by
    intro d there
    obtain ⟨raw, decimals, made⟩ := known d there
    exact Token.unsigned_of_ofBaseUnits made
  refine ⟨spelled_print h.printable_toJson, fun text spelled => ?_,
    .option Decimal.toJson h.balance, rfl, ?_, fun d there => ?_⟩
  · rw [parse?_of_spelled spelled, Option.bind_some]
    exact ofJson?_toJson fun d there _ => unsigned d there
  · cases h.balance <;> simp [Value.option, Decimal.toJson]
  · refine ⟨toString d, ?_, ?_⟩
    · rw [Option.mem_def.mp there]
      rfl
    · show Decimal.SpellsParts d.mantissa d.scale (String.ofList d.chars).toList
      rw [String.toList_ofList, Decimal.chars, unsigned d there]
      exact Decimal.spellsParts_pointed d.mantissa d.scale

/-- Nothing of a token, at eighteen decimals, and a balance that ends in zeros; the name of the token
needs escapes. -/
theorem holding_in_texts_zeros :
    let token : Token := ⟨"0x6B17", "\"a\\b\"\n\x01é𝄞", "", 4294967295⟩
    let nothing : Holding := ⟨token, some ⟨false, 0, 18, by decide, by decide⟩⟩
    let round : Holding := ⟨token, some ⟨false, 1500, 3, by decide, by decide⟩⟩
    (Json.parse? nothing.toJson.print).bind ofJson? = some nothing ∧
      (Json.parse? round.toJson.print).bind ofJson? = some round := by
  intro token nothing round
  obtain ⟨spelled, read, -⟩ := holding_in_texts nothing
    fun d there => ⟨0, 18, congrArg Except.ok (Option.some.inj there)⟩
  obtain ⟨spelled', read', -⟩ := holding_in_texts round
    fun d there => ⟨1500, 3, congrArg Except.ok (Option.some.inj there)⟩
  exact ⟨read _ spelled, read' _ spelled'⟩

end Holding

end EvmWallet
