import EvmWallet.Proofs.Cache.Entries
import Mathlib.Data.List.Induction

/-!
# What a cache remembers

A cache is the history of its uses, read in one way: of each wallet key and contract it keeps the
token that was put last, unless the contract was deleted since (`LastPut`), and it lists the tokens in
the order in which their contracts were put first, since they were last deleted (`Entered`). The
reading is kept by every use (`Recounts.use`), and so holds after any sequence of uses (`tokens_run`).
-/

namespace EvmWallet.Token.Cache

/-! ## Uses -/

/-- What can be asked of a cache. Wallets go by whatever names them: their addresses, or themselves. -/
inductive Use (Who : Type) where
  | put (who : Who) (t : Token)
  | delete (who : Who) (t : Token)
  /-- The tokens of a wallet are asked for. -/
  | fetch (who : Who)
  deriving Repr

variable {Who : Type}

/-- Whose wallet a use is about. -/
def Use.who : Use Who → Who
  | .put who _ | .delete who _ | .fetch who => who

/-- A token of a contract is put for a wallet key. -/
def Use.Puts (keyOf : Who → String) (key k : String) : Use Who → Prop
  | .put who t => keyOf who = key ∧ Text.asciiLower t.address = k
  | _ => False

/-- A contract is deleted for a wallet key. -/
def Use.Deletes (keyOf : Who → String) (key k : String) : Use Who → Prop
  | .delete who t => keyOf who = key ∧ Text.asciiLower t.address = k
  | _ => False

/-- The cache after a use. -/
def use (wallet : Who → Wallet) (c : Cache) : Use Who → Cache
  | .put who t => c.put (wallet who) t
  | .delete who t => c.delete (wallet who) t
  | .fetch _ => c

/-- The cache after uses in order, if nothing was known at first. -/
def run (wallet : Who → Wallet) (uses : List (Use Who)) : Cache := uses.foldl (use wallet) empty

theorem run_concat (wallet : Who → Wallet) (uses : List (Use Who)) (u : Use Who) :
    run wallet (uses ++ [u]) = (run wallet uses).use wallet u := by
  simp [run]

/-- A use is about one wallet key. -/
theorem list_use_other (wallet : Who → Wallet) (c : Cache) (u : Use Who) {key : String}
    (other : (wallet u.who).key ≠ key) : (c.use wallet u).list key = c.list key := by
  cases u with
  | put who t | delete who t => exact c.list_update_other (wallet who) _ (Ne.symm other)
  | fetch who => rfl

/-! ## Readings of a history -/

/-- A token was put for a wallet key, and its contract was neither put nor deleted since. -/
def LastPut (keyOf : Who → String) (uses : List (Use Who)) (key : String) (t : Token) : Prop :=
  ∃ before who since, uses = before ++ .put who t :: since ∧ keyOf who = key ∧
    ∀ u ∈ since, ¬u.Puts keyOf key (Text.asciiLower t.address) ∧
      ¬u.Deletes keyOf key (Text.asciiLower t.address)

/-- At a position a contract was put, for the first time since it was last deleted. -/
structure Entered (keyOf : Who → String) (uses : List (Use Who)) (key k : String) (i : Nat) :
    Prop where
  put : ∃ u, uses[i]? = some u ∧ u.Puts keyOf key k
  first : ∀ j u, j < i → uses[j]? = some u → u.Puts keyOf key k →
    ∃ d v, j < d ∧ d < i ∧ uses[d]? = some v ∧ v.Deletes keyOf key k
  stays : ∀ d v, i < d → uses[d]? = some v → ¬v.Deletes keyOf key k

/-- Whenever a contract was put, it was deleted later. -/
def Gone (keyOf : Who → String) (uses : List (Use Who)) (key k : String) : Prop :=
  ∀ (j : Nat) (u : Use Who), uses[j]? = some u → u.Puts keyOf key k →
    ∃ (d : Nat) (v : Use Who), j < d ∧ uses[d]? = some v ∧ v.Deletes keyOf key k

section Readings

variable {keyOf : Who → String} {uses : List (Use Who)} {u v : Use Who} {key k : String} {t : Token}
  {i : Nat}

theorem getElem?_concat_iff :
    (uses ++ [u])[i]? = some v ↔ uses[i]? = some v ∨ i = uses.length ∧ u = v := by
  rcases Nat.lt_trichotomy i uses.length with before | rfl | behind
  · simp [List.getElem?_append_left before, Nat.ne_of_lt before]
  · simp
  · simp [List.getElem?_append_right (Nat.le_of_lt behind), Nat.ne_of_gt behind,
      List.getElem?_eq_none (Nat.le_of_lt behind), Nat.sub_ne_zero_of_lt behind]

theorem lastPut_concat :
    LastPut keyOf (uses ++ [u]) key t ↔ (∃ who, u = .put who t ∧ keyOf who = key) ∨
      LastPut keyOf uses key t ∧ ¬u.Puts keyOf key t.contract ∧ ¬u.Deletes keyOf key t.contract := by
  constructor
  · rintro ⟨before, who, since, split, same, untouched⟩
    rcases List.eq_nil_or_concat since with rfl | ⟨since, last, rfl⟩
    · exact .inl ⟨who, List.singleton_inj.mp (List.append_inj' split rfl).2, same⟩
    · rw [List.concat_eq_append, ← List.cons_append, ← List.append_assoc] at split
      obtain ⟨rfl, only⟩ := List.append_inj' split rfl
      obtain rfl := List.singleton_inj.mp only
      refine .inr ⟨⟨before, who, since, rfl, same, fun v later => ?_⟩, ?_⟩
      · exact untouched v (by simp [later])
      · exact untouched u (by simp)
  · rintro (⟨who, rfl, same⟩ | ⟨⟨before, who, since, rfl, same, untouched⟩, untouched'⟩)
    · exact ⟨uses, who, [], rfl, same, fun v later => absurd later List.not_mem_nil⟩
    · refine ⟨before, who, since ++ [u], by simp, same, fun v later => ?_⟩
      rcases List.mem_append.mp later with old | new
      · exact untouched v old
      · exact List.mem_singleton.mp new ▸ untouched'

theorem Entered.lt (h : Entered keyOf uses key k i) : i < uses.length := by
  obtain ⟨u, at_i, -⟩ := h.put
  exact (List.getElem?_eq_some_iff.mp at_i).1

/-- A contract keeps its position until it is deleted. -/
theorem Entered.concat (h : Entered keyOf uses key k i) (kept : ¬u.Deletes keyOf key k) :
    Entered keyOf (uses ++ [u]) key k i := by
  obtain ⟨v, at_i, puts⟩ := h.put
  have early {j : Nat} (before : j < i) : (uses ++ [u])[j]? = uses[j]? :=
    List.getElem?_append_left (Nat.lt_trans before h.lt)
  refine ⟨⟨v, getElem?_concat_iff.mpr (.inl at_i), puts⟩, fun j v before at_j puts => ?_,
    fun d v behind at_d => ?_⟩
  · obtain ⟨d, v, after, before', at_d, deletes⟩ := h.first j v before (early before ▸ at_j) puts
    exact ⟨d, v, after, before', (early before').trans at_d, deletes⟩
  · rcases getElem?_concat_iff.mp at_d with old | ⟨-, rfl⟩
    · exact h.stays d v behind old
    · exact kept

/-- A contract that is put while it is gone enters at the end. -/
theorem Gone.entered (h : Gone keyOf uses key k) (puts : u.Puts keyOf key k) :
    Entered keyOf (uses ++ [u]) key k uses.length := by
  refine ⟨⟨u, List.getElem?_concat_length, puts⟩, fun j v before at_j puts => ?_,
    fun d v behind at_d => ?_⟩
  · rw [List.getElem?_append_left before] at at_j
    obtain ⟨d, v, after, at_d, deletes⟩ := h j v at_j puts
    have inside : d < uses.length := (List.getElem?_eq_some_iff.mp at_d).1
    exact ⟨d, v, after, inside, (List.getElem?_append_left inside).trans at_d, deletes⟩
  · have outside : (uses ++ [u]).length ≤ d := by
      rw [List.length_append]
      exact behind
    exact absurd ((List.getElem?_eq_none outside).symm.trans at_d) (by simp)

theorem Gone.concat (h : Gone keyOf uses key k) (puts : ¬u.Puts keyOf key k) :
    Gone keyOf (uses ++ [u]) key k := by
  intro j v at_j puts'
  rcases getElem?_concat_iff.mp at_j with old | ⟨-, rfl⟩
  · obtain ⟨d, v, after, at_d, deletes⟩ := h j v old puts'
    exact ⟨d, v, after, getElem?_concat_iff.mpr (.inl at_d), deletes⟩
  · exact absurd puts' puts

theorem gone_of_deletes (deletes : u.Deletes keyOf key k) : Gone keyOf (uses ++ [u]) key k := by
  intro j v at_j puts
  rcases getElem?_concat_iff.mp at_j with old | ⟨-, rfl⟩
  · exact ⟨uses.length, u, (List.getElem?_eq_some_iff.mp old).1, List.getElem?_concat_length, deletes⟩
  · cases u with
    | put who t => exact deletes.elim
    | delete who t | fetch who => exact puts.elim

end Readings

/-! ## The cache and its history -/

/-- Contracts stand in the order in which they entered. -/
structure InOrder (keyOf : Who → String) (uses : List (Use Who)) (key : String) (ks : List String) :
    Prop where
  entered : ∀ k ∈ ks, ∃ i, Entered keyOf uses key k i
  order : ks.Pairwise fun k k' => ∃ i j, i < j ∧
    Entered keyOf uses key k i ∧ Entered keyOf uses key k' j

section InOrder

variable {keyOf : Who → String} {uses : List (Use Who)} {u : Use Who} {key k : String}
  {ks kept : List String}

/-- Contracts that are not deleted keep their order. -/
theorem InOrder.concat (h : InOrder keyOf uses key ks) (sub : kept.Sublist ks)
    (stays : ∀ k ∈ kept, ¬u.Deletes keyOf key k) : InOrder keyOf (uses ++ [u]) key kept := by
  constructor
  · intro k present
    obtain ⟨i, entered⟩ := h.entered k (sub.subset present)
    exact ⟨i, entered.concat (stays k present)⟩
  · refine (h.order.sublist sub).imp_of_mem fun present present' => ?_
    rintro ⟨i, j, before, entered, entered'⟩
    exact ⟨i, j, before, entered.concat (stays _ present), entered'.concat (stays _ present')⟩

/-- A contract that is put while it is gone stands behind all the others. -/
theorem InOrder.enter (h : InOrder keyOf uses key ks) (puts : u.Puts keyOf key k)
    (gone : Gone keyOf uses key k) (stays : ∀ k, ¬u.Deletes keyOf key k) :
    InOrder keyOf (uses ++ [u]) key (ks ++ [k]) := by
  have enters : Entered keyOf (uses ++ [u]) key k uses.length := gone.entered puts
  have old : InOrder keyOf (uses ++ [u]) key ks := h.concat (List.Sublist.refl _) fun k _ => stays k
  constructor
  · intro k' present
    rcases List.mem_append.mp present with early | last
    · exact old.entered k' early
    · exact List.mem_singleton.mp last ▸ ⟨uses.length, enters⟩
  · refine List.pairwise_append.mpr ⟨old.order, by simp, fun k' early k'' last => ?_⟩
    obtain ⟨i, entered⟩ := h.entered k' early
    exact List.mem_singleton.mp last ▸
      ⟨i, uses.length, entered.lt, entered.concat (stays k'), enters⟩

end InOrder

/-- A list says of one wallet key what the uses that led to it say. -/
structure Recounts (keyOf : Who → String) (uses : List (Use Who)) (key : String) (tokens : List Token) :
    Prop where
  distinct : Distinct tokens
  mem_iff : ∀ t, t ∈ tokens ↔ LastPut keyOf uses key t
  gone : ∀ k, k ∉ contracts tokens → Gone keyOf uses key k
  order : InOrder keyOf uses key (contracts tokens)

section Recounts

variable {keyOf : Who → String} {uses : List (Use Who)} {key : String} {tokens : List Token}

theorem recounts_nil (keyOf : Who → String) (key : String) : Recounts keyOf [] key [] where
  distinct := List.nodup_nil
  mem_iff t := by
    refine ⟨fun present => absurd present List.not_mem_nil, ?_⟩
    rintro ⟨before, who, since, split, -⟩
    simp at split
  gone k _ j u at_j := absurd at_j (by simp)
  order := ⟨fun k present => absurd present List.not_mem_nil, List.Pairwise.nil⟩

theorem Recounts.idle (h : Recounts keyOf uses key tokens) {u : Use Who}
    (untouched : ∀ k, ¬u.Puts keyOf key k ∧ ¬u.Deletes keyOf key k) :
    Recounts keyOf (uses ++ [u]) key tokens where
  distinct := h.distinct
  mem_iff t := by
    have other : ¬∃ who, u = .put who t ∧ keyOf who = key := by
      rintro ⟨who, rfl, same⟩
      exact (untouched t.contract).1 ⟨same, rfl⟩
    rw [lastPut_concat, h.mem_iff]
    simp [other, untouched]
  gone k absent := (h.gone k absent).concat (untouched k).1
  order := h.order.concat (List.Sublist.refl _) fun k _ => (untouched k).2

theorem Recounts.put {who : Who} (h : Recounts keyOf uses key tokens) (same : keyOf who = key)
    (t : Token) : Recounts keyOf (uses ++ [.put who t]) key (putInto t tokens) where
  distinct := h.distinct.putInto t
  mem_iff u := by
    have puts : (Use.put who t).Puts keyOf key u.contract ↔ t.contract = u.contract :=
      and_iff_right same
    have mine : (∃ who', Use.put who t = .put who' u ∧ keyOf who' = key) ↔ t = u := by
      simp [same]
    rw [h.distinct.mem_putInto, lastPut_concat, h.mem_iff, puts, mine]
    simp [Use.Deletes, eq_comm]
  gone k absent := by
    have present_iff : k ∈ contracts (putInto t tokens) ↔ k ∈ contracts tokens ∨ k = t.contract := by
      rw [contracts_putInto]
      split <;> grind
    rw [present_iff, not_or] at absent
    exact (h.gone k absent.1).concat fun puts => absent.2 puts.2.symm
  order := by
    have stays (k : String) : ¬(Use.put who t).Deletes keyOf key k := fun deletes => deletes
    -- A contract that is known keeps its place; a new one is gone, and enters at the end.
    rw [contracts_putInto]
    split
    · exact h.order.concat (List.Sublist.refl _) fun k _ => stays k
    · rename_i new
      exact h.order.enter ⟨same, rfl⟩ (h.gone _ new) stays

theorem Recounts.delete {who : Who} (h : Recounts keyOf uses key tokens) (same : keyOf who = key)
    (t : Token) : Recounts keyOf (uses ++ [.delete who t]) key (dropFrom t tokens) where
  distinct := h.distinct.dropFrom t
  mem_iff u := by
    have deletes : (Use.delete who t).Deletes keyOf key u.contract ↔ t.contract = u.contract :=
      and_iff_right same
    rw [mem_dropFrom, lastPut_concat, h.mem_iff, deletes]
    simp [Use.Puts, eq_comm]
  gone k absent := by
    by_cases now : t.contract = k
    · exact gone_of_deletes ⟨same, now⟩
    · refine (h.gone k fun present => absent ?_).concat fun puts => puts
      simpa [contracts_dropFrom, Ne.symm now] using present
  order := by
    rw [contracts_dropFrom]
    refine h.order.concat List.filter_sublist fun k present deletes => ?_
    have kept : k ≠ t.contract := by simpa using (List.mem_filter.mp present).2
    exact kept deletes.2.symm

/-- A use of the cache is recounted, if keys are read as the cache reads them. -/
theorem Recounts.use {wallet : Who → Wallet} {c : Cache}
    (h : Recounts (Wallet.key ∘ wallet) uses key (c.list key)) (u : Use Who) :
    Recounts (Wallet.key ∘ wallet) (uses ++ [u]) key ((c.use wallet u).list key) := by
  by_cases about : (wallet u.who).key = key
  · subst about
    cases u with
    | put who t => exact (c.list_update_self (wallet who) _) ▸ h.put rfl t
    | delete who t => exact (c.list_update_self (wallet who) _) ▸ h.delete rfl t
    | fetch who => exact h.idle fun k => ⟨fun puts => puts, fun deletes => deletes⟩
  · rw [c.list_use_other wallet u about]
    refine h.idle fun k => ?_
    cases u with
    | put who t => exact ⟨fun puts => about puts.1, fun deletes => deletes⟩
    | delete who t => exact ⟨fun puts => puts, fun deletes => about deletes.1⟩
    | fetch who => exact ⟨fun puts => puts, fun deletes => deletes⟩

end Recounts

theorem recounts_run (wallet : Who → Wallet) (uses : List (Use Who)) (key : String) :
    Recounts (Wallet.key ∘ wallet) uses key ((run wallet uses).list key) := by
  induction uses using List.reverseRecOn with
  | nil => exact recounts_nil _ key
  | append_singleton uses u ih =>
    rw [run_concat]
    exact ih.use u

/-- After uses a cache is one map of tokens by contract for each key of a wallet, in the order in
which the contracts entered. -/
structure Keyed (wallet : Who → Wallet) (keyOf : Who → String) (uses : List (Use Who)) : Prop where
  distinct : ∀ who,
    ((run wallet uses).tokens (wallet who)).Pairwise fun t u => t.sameContract u = false
  mem_iff : ∀ who t,
    t ∈ (run wallet uses).tokens (wallet who) ↔ LastPut keyOf uses (keyOf who) t
  order : ∀ who, ((run wallet uses).tokens (wallet who)).Pairwise fun t u => ∃ i j, i < j ∧
    Entered keyOf uses (keyOf who) (Text.asciiLower t.address) i ∧
    Entered keyOf uses (keyOf who) (Text.asciiLower u.address) j
  /-- A further use leaves every list but that of its own key. -/
  other_list : ∀ u key, keyOf u.who ≠ key →
    ((run wallet uses).use wallet u).list key = (run wallet uses).list key
  other : ∀ u who, keyOf u.who ≠ keyOf who →
    ((run wallet uses).use wallet u).tokens (wallet who) = (run wallet uses).tokens (wallet who)
  equal_iff : ∀ who who', (wallet who == wallet who') = true ↔ keyOf who = keyOf who'
  equal : ∀ who who', (wallet who == wallet who') = true →
    (run wallet uses).tokens (wallet who) = (run wallet uses).tokens (wallet who')

theorem keyed_run (wallet : Who → Wallet) (uses : List (Use Who)) :
    Keyed wallet (Wallet.key ∘ wallet) uses := by
  have recounts (who : Who) : Recounts (Wallet.key ∘ wallet) uses (wallet who).key
      ((run wallet uses).tokens (wallet who)) := recounts_run wallet uses (wallet who).key
  have equal_iff (who who' : Who) :
      (wallet who == wallet who') = true ↔ (wallet who).key = (wallet who').key := by
    show ((wallet who).key == (wallet who').key) = true ↔ _
    exact beq_iff_eq
  exact {
    distinct := fun who => distinct_iff_pairwise.mp (recounts who).distinct
    mem_iff := fun who => (recounts who).mem_iff
    order := fun who => List.pairwise_map.mp (recounts who).order.order
    other_list := fun u key => list_use_other wallet _ u
    other := fun u who => list_use_other wallet _ u
    equal_iff := equal_iff
    equal := fun who who' same => congrArg (run wallet uses).list ((equal_iff who who').mp same) }

/-- After any sequence of uses no wallet has two tokens of one contract; its tokens are those that
were put last of the contracts that were put and not deleted since, in the order in which these were
put first since they were last deleted; and a further use changes the list of its own key only.
Wallets go by their addresses without blanks at the ends, in lower case; one whose address was not
trimmed goes by it as it is, in lower case. Those that are equal have one list. -/
theorem tokens_run :
    (∀ uses : List (Use String),
      Keyed Wallet.ofAddress (fun address => Text.lower (Text.trim address)) uses) ∧
    ∀ uses : List (Use Wallet), Keyed id (fun w => Text.lower w.address) uses :=
  ⟨keyed_run Wallet.ofAddress, keyed_run id⟩

end EvmWallet.Token.Cache
