import EvmWallet.Json.Decode
import EvmWallet.Json.Printer
import EvmWallet.Proofs.Json.Grammar
import Mathlib.Data.List.Nodup

/-!
# Documents that are written

What is printed of a value built from texts, numbers, truth values, lists and records spells that
value (`Value.Printable`, one lemma for each way to build one), and so reads back as it. A record
is read back field by field: `record?_record`.
-/

namespace EvmWallet.Json

/-! ## Printing -/

/-- What is printed of a value spells it. -/
def Value.Printable (v : Value) : Prop := Spells v v.chars

theorem spellsUnit_hex {n : Nat} (h : n < 256) :
    SpellsUnit n ['\\', 'u', '0', '0', Bytes.hexDigit (n / 16), Bytes.hexDigit (n % 16)] := by
  have zero : Bytes.hexValue? '0' = some 0 := rfl
  have spelled := SpellsUnit.code zero zero (Bytes.hexValue?_hexDigit (n := n / 16) (by omega))
    (Bytes.hexValue?_hexDigit (n := n % 16) (by omega))
  have same : 16 * (16 * (16 * 0 + 0) + n / 16) + n % 16 = n := by omega
  rwa [same] at spelled

/-- Each character of a text is printed as its code unit. -/
theorem spellsUnit_stringChar (c : Char) : SpellsUnit c.toNat (stringChar c) := by
  unfold stringChar
  -- The seven characters with short escapes come first.
  iterate 7
    split
    · rename_i short
      subst short
      exact .escape rfl
  by_cases control : c.toNat < 32
  · rw [if_pos control]
    exact spellsUnit_hex (by omega)
  · rw [if_neg control]
    exact .plain (by assumption) (by assumption) (by omega)

theorem spellsUnits_flatMap (s : List Char) :
    SpellsUnits (s.map Char.toNat) (s.flatMap stringChar) := by
  induction s with
  | nil => exact .nil
  | cons c s ih => exact .cons (spellsUnit_stringChar c) ih

theorem not_surrogate (c : Char) : ¬ (0xD800 ≤ c.toNat ∧ c.toNat < 0xE000) := by
  have valid : c.toNat < 0xD800 ∨ 0xDFFF < c.toNat ∧ c.toNat < 0x110000 := c.valid
  omega

/-- Code points of characters make the text of these characters. -/
theorem textOfUnits_map_toNat (s : List Char) : textOfUnits (s.map Char.toNat) = some s := by
  induction s with
  | nil => rfl
  | cons c s ih =>
    have alone := not_surrogate c
    cases s with
    | nil =>
      show (if _ then none else some [Char.ofNat c.toNat]) = _
      rw [if_neg alone, Char.ofNat_toNat]
    | cons d s =>
      show (if _ then _ else if _ then none else _) = _
      rw [if_neg (by omega), if_neg alone]
      show Option.map _ (textOfUnits (List.map Char.toNat (d :: s))) = _
      rw [ih, Option.map_some, Char.ofNat_toNat]

theorem spellsText_stringChars (s : String) : SpellsText (some s) (stringChars s) := by
  have spelled := SpellsText.quoted (spellsUnits_flatMap s.toList)
  rwa [textOfUnits_map_toNat, Option.map_some, String.ofList_toList] at spelled

theorem printable_text (s : String) : (Value.text s).Printable := .string (spellsText_stringChars s)

theorem printable_bool (b : Bool) : (Value.bool b).Printable := by
  cases b with
  | true => exact .yes
  | false => exact .no

/-- The digits of a number start with a zero only if there is no other digit. -/
theorem isWhole_digits (n : Nat) : IsWhole (Text.digits n) := by
  have more {m : Nat} (h : IsWhole (Text.digits m)) (positive : 0 < m) {d : Char}
      (digit : Text.isDigit d = true) : IsWhole (Text.digits m ++ [d]) := by
    have value := Text.addDigits_digits m
    generalize Text.digits m = s at h value
    cases h with
    | zero => exact absurd value (by simp [Text.addDigits, Text.digitValue]; omega)
    | @digits c s first nonzero rest =>
      refine .digits first nonzero fun e he => ?_
      rcases List.mem_append.mp he with he | he
      · exact rest e he
      · rw [List.mem_singleton.mp he]
        exact digit
  induction n using Text.digits.induct with
  | case1 n small =>
    rw [Text.digits, if_pos small]
    rcases Nat.eq_zero_or_pos n with rfl | positive
    · exact .zero
    · refine .digits (Text.isDigit_digitChar small) ?_ fun d hd => absurd hd List.not_mem_nil
      intro zero
      have value := Text.digitValue_digitChar small
      rw [zero] at value
      exact absurd value (by simp [Text.digitValue]; omega)
  | case2 n large ih =>
    rw [Text.digits, if_neg large]
    exact more ih (by omega) (Text.isDigit_digitChar (Nat.mod_lt n (by omega)))

theorem printable_nat (n : Nat) : (Value.nat n).Printable := by
  have spelled := SpellsNumber.whole false (isWhole_digits n)
  rw [Text.addDigits_digits] at spelled
  exact .number spelled

theorem spellsItems_itemsChars (v : Value) (items : List Value)
    (h : ∀ w ∈ v :: items, w.Printable) : SpellsItems (v :: items) (itemsChars (v :: items)) := by
  induction items generalizing v with
  | nil =>
    have spelled := SpellsItems.last blank_nil (h v List.mem_cons_self) blank_nil
    rwa [List.nil_append, List.append_nil] at spelled
  | cons w items ih =>
    exact .cons blank_nil (h v List.mem_cons_self) blank_nil
      (ih w fun u hu => h u (List.mem_cons_of_mem v hu))

theorem printable_list {items : List Value} (h : ∀ v ∈ items, v.Printable) :
    (Value.list items).Printable := by
  cases items with
  | nil => exact .emptyList blank_nil
  | cons v items => exact .list (spellsItems_itemsChars v items h)

/-- The fields of a record, as an object has them. -/
def named (fields : List (String × Value)) : List (Text × Value) :=
  fields.map fun (name, v) => (some name, v)

theorem spellsFields_fieldsChars (f : String × Value) (fields : List (String × Value))
    (h : ∀ g ∈ f :: fields, g.2.Printable) :
    SpellsFields (named (f :: fields)) (fieldsChars (named (f :: fields))) := by
  induction fields generalizing f with
  | nil =>
    have spelled := SpellsFields.last blank_nil (spellsText_stringChars f.1) blank_nil blank_nil
      (h f List.mem_cons_self) blank_nil
    rwa [List.nil_append, List.nil_append, List.nil_append, List.append_nil] at spelled
  | cons g fields ih =>
    exact .cons blank_nil (spellsText_stringChars f.1) blank_nil blank_nil
      (h f List.mem_cons_self) blank_nil (ih g fun u hu => h u (List.mem_cons_of_mem f hu))

theorem printable_record {fields : List (String × Value)} (h : ∀ f ∈ fields, f.2.Printable) :
    (Value.record fields).Printable := by
  cases fields with
  | nil => exact .emptyObject blank_nil
  | cons f fields => exact .object (spellsFields_fieldsChars f fields h)

/-- A printed document spells its value. -/
theorem spelled_print {v : Value} (h : v.Printable) : Spelled v v.print := by
  refine .document blank_nil h blank_nil ?_
  rw [Value.print, String.toList_ofList, List.nil_append, List.append_nil]

/-! ## Reading records -/

theorem keys?_named (fields : List (String × Value)) :
    Value.keys? (named fields) = some (fields.map (·.1)) := by
  induction fields with
  | nil => rfl
  | cons f fields ih =>
    have rest : (named fields).mapM (·.1) = some (fields.map (·.1)) := ih
    show ((some f.1, f.2) :: named fields).mapM (·.1) = _
    rw [List.mapM_cons, rest]
    rfl

theorem lookup_named {fields : List (String × Value)} (distinct : (fields.map (·.1)).Nodup)
    {f : String × Value} (h : f ∈ fields) : (named fields).lookup (some f.1) = some f.2 := by
  induction fields with
  | nil => exact absurd h List.not_mem_nil
  | cons g fields ih =>
    rw [List.map_cons, List.nodup_cons] at distinct
    show ((some g.1, g.2) :: named fields).lookup (some f.1) = _
    rw [List.lookup_cons]
    rcases List.mem_cons.mp h with rfl | later
    · simp
    · have other : f.1 ≠ g.1 := fun same => distinct.1 (same ▸ List.mem_map_of_mem later)
      have unequal : (some f.1 == some g.1) = false := by simpa using other
      rw [unequal]
      exact ih distinct.2 later

/-- A record is read back field by field. -/
theorem record?_record {fields : List (String × Value)} {names : List String}
    (same : fields.map (·.1) = names) (distinct : names.Nodup) :
    (Value.record fields).record? names = some (fields.map fun f => some f.2) := by
  subst same
  have once : (fields.map (·.1)).all (fun n => (fields.map (·.1)).count n ≤ 1) = true := by
    rw [List.all_eq_true]
    intro n _
    exact decide_eq_true (List.nodup_iff_count_le_one.mp distinct n)
  show (Value.object (named fields)).fields? _ _ = _
  simp only [Value.fields?, keys?_named]
  rw [if_pos once, List.map_map]
  refine congrArg some (List.map_congr_left fun f h => ?_)
  exact lookup_named distinct h

/-- A list is read back item by item. -/
theorem listOf?_map {α : Type} {f : Value → Option α} {g : α → Value} (h : ∀ a, f (g a) = some a)
    (items : List α) : (Value.list (items.map g)).listOf? f = some items := by
  show (items.map g).mapM f = some items
  induction items with
  | nil => rfl
  | cons a items ih =>
    rw [List.map_cons, List.mapM_cons, h, ih]
    rfl

theorem natBelow?_nat {limit n : Nat} (h : n < limit) : (Value.nat n).natBelow? limit = some n :=
  if_pos h

end EvmWallet.Json
