import EvmWallet.Token.Cache

/-!
# Token lists as maps

A list of tokens with different contracts is a map from contracts to tokens that remembers in which
order its contracts came. `contracts` and `held?` are its two views: they are known for a list after
a put (`contracts_putInto`, `held?_putInto`) and after a deletion (`contracts_dropFrom`,
`held?_dropFrom`), and so for any number of them (`putAll`, `dropAll`).
-/

namespace EvmWallet.Token

/-! ## The two views -/

/-- The contracts of a list, in its order. -/
def contracts (tokens : List Token) : List String := tokens.map contract

/-- The first token of a contract. -/
def held? (tokens : List Token) (k : String) : Option Token := tokens.find? (·.contract = k)

/-- No contract stands on the list twice. -/
def Distinct (tokens : List Token) : Prop := (contracts tokens).Nodup

instance (tokens : List Token) : Decidable (Distinct tokens) :=
  inferInstanceAs (Decidable (contracts tokens).Nodup)

section Views

variable {tokens : List Token} {t u : Token} {k : String}

@[simp] theorem contracts_nil : contracts [] = [] := rfl

@[simp] theorem contracts_cons (t : Token) (rest : List Token) :
    contracts (t :: rest) = t.contract :: contracts rest := rfl

theorem mem_contracts : k ∈ contracts tokens ↔ ∃ t ∈ tokens, t.contract = k := List.mem_map

theorem held?_cons (t : Token) (rest : List Token) (k : String) :
    held? (t :: rest) k = if t.contract = k then some t else held? rest k := by
  unfold held?
  by_cases same : t.contract = k <;> simp [same]

theorem held?_append (first second : List Token) (k : String) :
    held? (first ++ second) k = (held? first k).or (held? second k) := List.find?_append

theorem contract_of_held? (has : held? tokens k = some t) : t.contract = k := by
  simpa using List.find?_some has

theorem mem_of_held? (has : held? tokens k = some t) : t ∈ tokens := List.mem_of_find?_eq_some has

theorem held?_eq_none_iff : held? tokens k = none ↔ k ∉ contracts tokens := by
  simp [held?, contracts, List.find?_eq_none]

/-- On a list with different contracts each token is the entry of its contract. -/
theorem Distinct.held?_eq_some_iff (distinct : Distinct tokens) :
    held? tokens k = some t ↔ t ∈ tokens ∧ t.contract = k := by
  refine ⟨fun has => ⟨mem_of_held? has, contract_of_held? has⟩, ?_⟩
  rintro ⟨present, rfl⟩
  induction tokens with
  | nil => exact absurd present List.not_mem_nil
  | cons u rest ih =>
    obtain ⟨fresh, distinct⟩ := List.nodup_cons.mp distinct
    rw [held?_cons]
    rcases List.mem_cons.mp present with rfl | later
    · exact if_pos rfl
    · have other : u.contract ≠ t.contract :=
        fun same => fresh (mem_contracts.mpr ⟨t, later, same.symm⟩)
      rw [if_neg other]
      exact ih distinct later

/-- Different contracts, as tokens are compared. -/
theorem distinct_iff_pairwise :
    Distinct tokens ↔ tokens.Pairwise fun t u => t.sameContract u = false := by
  unfold Distinct contracts
  rw [List.Nodup, List.pairwise_map]
  have same (t u : Token) : t.contract ≠ u.contract ↔ t.sameContract u = false := by
    rw [← Bool.not_eq_true, sameContract_iff]
  simp only [same]

end Views

/-! ## One put, one deletion -/

section Single

variable (t : Token) (tokens : List Token) (k : String)

theorem contracts_putInto :
    contracts (putInto t tokens) =
      if t.contract ∈ contracts tokens then contracts tokens
      else contracts tokens ++ [t.contract] := by
  induction tokens with
  | nil => simp [putInto]
  | cons u rest ih =>
    unfold putInto
    by_cases same : u.contract = t.contract
    · rw [if_pos (sameContract_iff.mpr same)]
      simp [same]
    · rw [if_neg (mt sameContract_iff.mp same), contracts_cons, ih]
      have skip : t.contract ∈ contracts (u :: rest) ↔ t.contract ∈ contracts rest := by
        simp [Ne.symm same]
      simp only [skip]
      split <;> rfl

theorem held?_putInto :
    held? (putInto t tokens) k = if t.contract = k then some t else held? tokens k := by
  induction tokens with
  | nil => exact held?_cons t [] k
  | cons u rest ih =>
    unfold putInto
    by_cases same : u.contract = t.contract
    · rw [if_pos (sameContract_iff.mpr same), held?_cons, held?_cons, same]
      split <;> rfl
    · rw [if_neg (mt sameContract_iff.mp same), held?_cons, held?_cons, ih]
      -- The contract that is put is not that of `u`.
      by_cases first : u.contract = k
      · rw [if_pos first, if_neg (fun again => same (first.trans again.symm)), if_pos first]
      · rw [if_neg first, if_neg first]

theorem contracts_dropFrom :
    contracts (dropFrom t tokens) = (contracts tokens).filter (· ≠ t.contract) := by
  unfold contracts dropFrom
  rw [List.filter_map]
  congr 2
  funext u
  rw [Function.comp_apply, Bool.eq_iff_iff, Bool.not_eq_true', ← Bool.not_eq_true, sameContract_iff,
    decide_eq_true_iff]

theorem held?_dropFrom :
    held? (dropFrom t tokens) k = if t.contract = k then none else held? tokens k := by
  unfold held? dropFrom
  rw [List.find?_filter]
  split
  case isTrue same =>
    rw [List.find?_eq_none]
    rintro u -
    simp [← same, ← sameContract_iff]
  case isFalse other =>
    congr 1
    funext u
    by_cases found : u.contract = k
    · have kept : ¬u.sameContract t = true := fun same =>
        other ((sameContract_iff.mp same).symm.trans found)
      simp [found, kept]
    · simp [found]

end Single

theorem mem_dropFrom {t u : Token} {tokens : List Token} :
    u ∈ dropFrom t tokens ↔ u ∈ tokens ∧ u.contract ≠ t.contract := by
  simp [dropFrom, ← Bool.not_eq_true, sameContract_iff]

section Distinct

variable {tokens : List Token} (distinct : Distinct tokens) (t : Token)

include distinct

theorem Distinct.putInto : Distinct (putInto t tokens) := by
  unfold Distinct
  rw [contracts_putInto]
  split
  · exact distinct
  · rename_i fresh
    refine List.nodup_append.mpr ⟨distinct, by simp, fun k present k' last => ?_⟩
    rw [List.mem_singleton.mp last]
    exact fun same => fresh (same ▸ present)

theorem Distinct.mem_putInto {u : Token} :
    u ∈ Token.putInto t tokens ↔ u = t ∨ u ∈ tokens ∧ u.contract ≠ t.contract := by
  have entry : u ∈ Token.putInto t tokens ↔ held? (Token.putInto t tokens) u.contract = some u := by
    simp [(distinct.putInto t).held?_eq_some_iff]
  rw [entry, held?_putInto]
  by_cases same : t.contract = u.contract
  · simp [same, eq_comm]
  · have other : u ≠ t := fun h => same (congrArg contract h.symm)
    simp [same, Ne.symm same, other, distinct.held?_eq_some_iff]

theorem Distinct.dropFrom : Distinct (dropFrom t tokens) := by
  unfold Distinct
  rw [contracts_dropFrom]
  exact List.Pairwise.filter _ distinct

end Distinct

/-! ## Many of them -/

/-- A list into which tokens were put one after the other. -/
def putAll (added tokens : List Token) : List Token := added.foldl (fun l t => putInto t l) tokens

/-- A list that tokens were taken off one after the other. -/
def dropAll (removed tokens : List Token) : List Token :=
  removed.foldl (fun l t => dropFrom t l) tokens

/-- The last token of a contract. -/
def last? (tokens : List Token) (k : String) : Option Token := held? tokens.reverse k

theorem last?_eq_none_iff {tokens : List Token} {k : String} :
    last? tokens k = none ↔ k ∉ contracts tokens := by
  simp [last?, held?_eq_none_iff, contracts]

section Many

variable (changed tokens : List Token)

/-- The entry of a contract is the last that was put, if one was. -/
theorem held?_putAll (k : String) :
    held? (putAll changed tokens) k = (last? changed k).or (held? tokens k) := by
  induction changed generalizing tokens with
  | nil => rfl
  | cons t rest ih =>
    show held? (putAll rest (putInto t tokens)) k = _
    rw [ih, held?_putInto]
    unfold last?
    rw [List.reverse_cons, held?_append, held?_cons, Option.or_assoc]
    split <;> rfl

/-- New contracts come behind the others, in the order in which they were put first. -/
theorem contracts_putAll :
    contracts (putAll changed tokens) = contracts tokens ++
      ((contracts changed).filter (· ∉ contracts tokens)).eraseDups := by
  induction changed generalizing tokens with
  | nil => simp [putAll]
  | cons t rest ih =>
    show contracts (putAll rest (putInto t tokens)) = _
    rw [ih, contracts_putInto, contracts_cons]
    by_cases known : t.contract ∈ contracts tokens
    · rw [if_pos known, List.filter_cons_of_neg (by simp [known])]
    · rw [if_neg known, List.filter_cons_of_pos (by simp [known]), List.eraseDups_cons,
        List.append_assoc, List.singleton_append, List.filter_filter]
      -- What is new after the first put is new before it, and not that contract again.
      congr 4
      funext k
      by_cases again : k = t.contract <;> simp [again]

theorem distinct_putAll {tokens : List Token} (distinct : Distinct tokens) :
    Distinct (putAll changed tokens) := by
  induction changed generalizing tokens with
  | nil => exact distinct
  | cons t rest ih => exact ih (distinct.putInto t)

theorem held?_dropAll (k : String) :
    held? (dropAll changed tokens) k = if k ∈ contracts changed then none else held? tokens k := by
  induction changed generalizing tokens with
  | nil => simp [dropAll]
  | cons t rest ih =>
    show held? (dropAll rest (dropFrom t tokens)) k = _
    rw [ih, held?_dropFrom]
    by_cases now : t.contract = k
    · simp [now]
    · simp [now, Ne.symm now]

theorem contracts_dropAll :
    contracts (dropAll changed tokens) = (contracts tokens).filter (· ∉ contracts changed) := by
  induction changed generalizing tokens with
  | nil => exact (List.filter_eq_self.mpr fun k _ => by simp).symm
  | cons t rest ih =>
    show contracts (dropAll rest (dropFrom t tokens)) = _
    rw [ih, contracts_dropFrom, List.filter_filter]
    congr 1
    funext k
    simp [Bool.and_comm]

theorem distinct_dropAll {tokens : List Token} (distinct : Distinct tokens) :
    Distinct (dropAll changed tokens) := by
  induction changed generalizing tokens with
  | nil => exact distinct
  | cons t rest ih => exact ih (distinct.dropFrom t)

end Many

end EvmWallet.Token
