import EvmWallet.Json.Decode
import Mathlib.Data.List.Count
import Mathlib.Data.List.Forall2

/-!
# What is read of a record

`Record` says which values a JSON value gives to named fields: those of an object, wherever they
stand in it and whatever else it holds, or those of a list, one after the other. A record is read as
exactly these: `fields?_eq_some_iff`.
-/

namespace EvmWallet.Json

/-! ## Plain values -/

theorem text?_eq_some_iff {v : Value} {s : String} : v.text? = some s ↔ v = .text s := by
  cases v <;> simp [Value.text?]

theorem natBelow?_eq_some_iff {v : Value} {limit k : Nat} :
    v.natBelow? limit = some k ↔ k < limit ∧ v = .nat k := by
  constructor
  · intro read
    unfold Value.natBelow? at read
    split at read
    · split at read
      · rename_i small
        exact Option.some.inj read ▸ ⟨small, rfl⟩
      · exact absurd read (by simp)
    · exact absurd read (by simp)
  · rintro ⟨small, rfl⟩
    exact if_pos small

/-! ## Items -/

/-- A list is read item by item. -/
theorem mapM_eq_some_iff {α β : Type} {f : α → Option β} {items : List α} {read : List β} :
    items.mapM f = some read ↔ List.Forall₂ (fun a b => f a = some b) items read := by
  induction items generalizing read with
  | nil => simp [eq_comm]
  | cons a items ih =>
    rw [List.mapM_cons, List.forall₂_cons_left_iff]
    constructor
    · intro all
      obtain ⟨b, first, all⟩ := Option.bind_eq_some_iff.mp all
      obtain ⟨rest, later, all⟩ := Option.bind_eq_some_iff.mp all
      exact ⟨b, rest, first, ih.mp later, (Option.some.inj all).symm⟩
    · rintro ⟨b, rest, first, later, rfl⟩
      rw [first, ih.mpr later]
      rfl

theorem listOf?_eq_some_iff {α : Type} {f : Value → Option α} {v : Value} {read : List α} :
    v.listOf? f = some read ↔
      ∃ items, v = .list items ∧ List.Forall₂ (fun w a => f w = some a) items read := by
  unfold Value.listOf?
  cases v with
  | list items => simp [Value.list?, mapM_eq_some_iff]
  | _ => simp [Value.list?]

/-- A field that may be missing is read as one if it is absent or `null`. -/
theorem optional_eq_some_iff {α : Type} {f : Value → Option α} {field : Option Value}
    {read : Option α} :
    Json.optional f field = some read ↔ (field = none ∨ field = some .null) ∧ read = none ∨
      ∃ v a, field = some v ∧ v ≠ .null ∧ f v = some a ∧ read = some a := by
  rcases field with _ | v
  · simp [Json.optional, eq_comm]
  by_cases null : v = .null
  · subst null
    simp [Json.optional, Value.nullable?, eq_comm]
  · have given : Json.optional f (some v) = (f v).map some := by
      cases v with
      | null => exact absurd rfl null
      | _ => rfl
    rw [given, Option.map_eq_some_iff]
    simp [null, eq_comm]

/-! ## Fields of an object -/

/-- The value of an object's field, or nothing if there is no such field. No field stands twice. -/
inductive HasField (fields : List (Text × Value)) (name : String) : Option Value → Prop where
  | absent : (∀ f ∈ fields, f.1 ≠ some name) → HasField fields name none
  | once {before after : List (Text × Value)} {v : Value} :
      fields = before ++ (some name, v) :: after → (∀ f ∈ before ++ after, f.1 ≠ some name) →
      HasField fields name (some v)

section Fields

variable {fields : List (Text × Value)} {name : String} {x : Option Value}

theorem keys?_eq_some_iff {keys : List String} :
    Value.keys? fields = some keys ↔ fields.map (·.1) = keys.map some := by
  rw [← List.forall₂_eq_eq_eq, List.forall₂_map_left_iff, List.forall₂_map_right_iff]
  exact mapM_eq_some_iff

/-- The keys of an object are read if all of them are texts. -/
theorem exists_keys?_iff :
    (∃ keys, Value.keys? fields = some keys) ↔ ∀ f ∈ fields, ∃ key, f.1 = some key := by
  constructor
  · rintro ⟨keys, read⟩ f there
    have present : f.1 ∈ keys.map some := keys?_eq_some_iff.mp read ▸ List.mem_map_of_mem there
    obtain ⟨key, -, same⟩ := List.mem_map.mp present
    exact ⟨key, same.symm⟩
  · intro texts
    induction fields with
    | nil => exact ⟨[], rfl⟩
    | cons f fields ih =>
      obtain ⟨key, first⟩ := texts f List.mem_cons_self
      obtain ⟨keys, rest⟩ := ih fun g later => texts g (List.mem_cons_of_mem f later)
      refine ⟨key :: keys, keys?_eq_some_iff.mpr ?_⟩
      rw [List.map_cons, List.map_cons, first, keys?_eq_some_iff.mp rest]

theorem count_eq_zero_iff :
    (fields.map (·.1)).count (some name) = 0 ↔ ∀ f ∈ fields, f.1 ≠ some name := by
  rw [List.count_eq_zero, List.mem_map]
  push Not
  rfl

/-- A field that stands in an object at most once is looked up. -/
theorem hasField_iff :
    HasField fields name x ↔
      (fields.map (·.1)).count (some name) ≤ 1 ∧ fields.lookup (some name) = x := by
  constructor
  · rintro (absent | ⟨rfl, others⟩)
    · refine ⟨by rw [count_eq_zero_iff.mpr absent]; exact Nat.zero_le 1, ?_⟩
      exact List.lookup_eq_none_iff.mpr fun f there => by simpa using (absent f there).symm
    · rename_i before after v
      have none := count_eq_zero_iff.mpr others
      rw [List.map_append, List.count_append] at none
      refine ⟨?_, List.lookup_eq_some_iff.mpr ⟨before, after, rfl, fun f early => ?_⟩⟩
      · rw [List.map_append, List.map_cons, List.count_append, List.count_cons_self]
        omega
      · simpa using (others f (List.mem_append_left after early)).symm
  · rintro ⟨once, found⟩
    cases x with
    | none =>
      refine .absent fun f there same => ?_
      have unequal := List.lookup_eq_none_iff.mp found f there
      simp [same] at unequal
    | some v =>
      obtain ⟨before, after, rfl, early⟩ := List.lookup_eq_some_iff.mp found
      refine .once rfl (count_eq_zero_iff.mp ?_)
      rw [List.map_append, List.map_cons, List.count_append, List.count_cons_self] at once
      rw [List.map_append, List.count_append]
      omega

theorem forall₂_hasField_iff {names : List String} {values : List (Option Value)} :
    List.Forall₂ (HasField fields) names values ↔
      (∀ n ∈ names, (fields.map (·.1)).count (some n) ≤ 1) ∧
        names.map (fun n => fields.lookup (some n)) = values := by
  induction names generalizing values with
  | nil => simp [eq_comm]
  | cons n names ih =>
    rw [List.forall₂_cons_left_iff, List.forall_mem_cons]
    constructor
    · rintro ⟨x, rest, first, later, rfl⟩
      obtain ⟨once, rfl⟩ := hasField_iff.mp first
      obtain ⟨each, rfl⟩ := ih.mp later
      exact ⟨⟨once, each⟩, rfl⟩
    · rintro ⟨⟨once, each⟩, rfl⟩
      exact ⟨_, _, hasField_iff.mpr ⟨once, rfl⟩, ih.mpr ⟨each, rfl⟩, rfl⟩

end Fields

/-! ## Records -/

/-- The values of named fields. In a list the last ones may be missing, down to `least` fields. -/
inductive Record (names : List String) (least : Nat) : Value → List (Option Value) → Prop where
  | object {fields : List (Text × Value)} {values : List (Option Value)} :
      (∀ f ∈ fields, ∃ key, f.1 = some key) → List.Forall₂ (HasField fields) names values →
      Record names least (.object fields) values
  | list {items : List Value} {missing : Nat} : least ≤ items.length →
      items.length + missing = names.length →
      Record names least (.list items) (items.map some ++ List.replicate missing none)

theorem fields?_object_eq_some_iff {fields : List (Text × Value)} {names : List String}
    {least : Nat} {values : List (Option Value)} :
    (Value.object fields).fields? names least = some values ↔
      (∀ f ∈ fields, ∃ key, f.1 = some key) ∧ List.Forall₂ (HasField fields) names values := by
  rw [forall₂_hasField_iff, ← exists_keys?_iff]
  simp only [Value.fields?]
  cases read : Value.keys? fields with
  | none => simp
  | some keys =>
    have counts (n : String) : (fields.map (·.1)).count (some n) = keys.count n := by
      rw [keys?_eq_some_iff.mp read,
        List.count_map_of_injective keys some fun a b same => Option.some.inj same]
    simp only [counts, List.all_eq_true, decide_eq_true_eq]
    split
    case isTrue once => simpa using fun _ => once
    case isFalse twice => simp [twice]

/-- What is read of a record is what it gives to its fields. -/
theorem fields?_eq_some_iff {v : Value} {names : List String} {least : Nat}
    {values : List (Option Value)} :
    v.fields? names least = some values ↔ Record names least v values := by
  cases v with
  | object fields =>
    rw [fields?_object_eq_some_iff]
    constructor
    · rintro ⟨texts, each⟩
      exact .object texts each
    · rintro ⟨texts, each⟩
      exact ⟨texts, each⟩
  | list items =>
    simp only [Value.fields?]
    constructor
    · intro read
      split at read
      · rename_i fits
        exact Option.some.inj read ▸ .list fits.1 (by omega)
      · exact absurd read (by simp)
    · rintro (_ | ⟨enough, fits⟩)
      rename_i missing
      have rest : names.length - items.length = missing := by omega
      rw [if_pos ⟨enough, by omega⟩, rest]
  | null | bool | number | string =>
    refine ⟨fun read => absurd read (by simp [Value.fields?]), fun record => ?_⟩
    cases record

/-- A value is one record of the same fields. -/
theorem Record.unique {names : List String} {least : Nat} {v : Value}
    {values others : List (Option Value)} (h : Record names least v values)
    (h' : Record names least v others) : values = others :=
  Option.some.inj ((fields?_eq_some_iff.mpr h).symm.trans (fields?_eq_some_iff.mpr h'))

end EvmWallet.Json
