import EvmWallet.Proofs.Cache.Entries
import EvmWallet.Proofs.Portfolio.Notes
import Mathlib.Data.List.Nodup

/-!
# What a refresh leaves in the cache

A refresh puts what the explorer lists into the cache and deletes what the cache holds besides, one
token after the other, and each time the cache may refuse. `Services.shelved` sets a cache before
services that decide what is refused. Of each contract the last token that the cache took is left
(`Stored`), and then every contract that is not listed goes, unless its deletion is refused
(`UpToDate`). The main statement is `cache_refreshed`.
-/

namespace EvmWallet.Token

variable {World Client : Type}

/-! ## A cache that refuses -/

theorem Cache.update_id (c : Cache) (w : Wallet) : c.update w id = c :=
  congrArg Cache.mk (funext fun _ => ite_self _)

theorem Cache.update_update (c : Cache) (w : Wallet) (f g : List Token → List Token) :
    (c.update w f).update w g = c.update w fun l => g (f l) := by
  refine congrArg Cache.mk (funext fun key => ?_)
  by_cases about : key = w.key <;> simp [Cache.update, about]

/-- An action that leaves the cache alone. -/
def beside {α : Type} (act : StateM World α) : StateM (Cache × World) α :=
  fun (c, world) =>
    let (a, world) := act world
    (a, (c, world))

/-- An action that changes the cache if it is granted. -/
def ifGranted (change : Cache → Cache) (act : StateM World (Except Error Unit)) :
    StateM (Cache × World) (Except Error Unit) :=
  fun (c, world) =>
    match act world with
    | (.ok (), world) => (.ok (), (change c, world))
    | (.error e, world) => (.error e, (c, world))

/-- Services with a cache of their own. What is asked of the cache is refused when the given services
refuse it, and then changes nothing. -/
def Services.shelved (s : Services World Client) : Services (Cache × World) Client where
  cached w := fun (c, world) =>
    let (answer, world) := s.cached w world
    (answer.map fun _ => c.tokens w, (c, world))
  put w t := ifGranted (·.put w t) (s.put w t)
  delete w t := ifGranted (·.delete w t) (s.delete w t)
  listed address := beside (s.listed address)
  connect n := beside (s.connect n)
  call client t := beside (s.call client t)

theorem of_beside {α : Type} {act : StateM World α} {c : Cache} {world : World} {a : α}
    {after : Cache × World} (run : beside act (c, world) = (a, after)) :
    (act world).1 = a ∧ after = (c, (act world).2) := by
  cases run
  exact ⟨rfl, rfl⟩

/-- Only what is granted changes the cache, one token after the other. -/
theorem cache_askEach (act : Token → StateM World (Except Error Unit)) (w : Wallet)
    (change : Token → List Token → List Token) (tokens : List Token) (c : Cache) (world : World) :
    let out := askEach (fun t => ifGranted (·.update w (change t)) (act t)) tokens (c, world)
    out.2.1 = c.update w fun l => (granted out.1).foldl (fun l t => change t l) l := by
  induction tokens generalizing c world with
  | nil => exact (c.update_id w).symm
  | cons t rest ih =>
    rw [askEach_cons]
    rcases answer : act t world with ⟨e | done, world'⟩
    · have refused : ifGranted (·.update w (change t)) (act t) (c, world) =
          (.error e, c, world') := by
        simp [ifGranted, answer]
      rw [refused]
      exact ih c world'
    · have granted : ifGranted (·.update w (change t)) (act t) (c, world) =
          (.ok (), c.update w (change t), world') := by
        simp [ifGranted, answer]
      rw [granted]
      exact (ih (c.update w (change t)) world').trans (c.update_update w _ _)

section Shelved

variable {s : Services World Client} {w : Wallet} {c : Cache} {world : World}
  {outcomes : List (Token × Option Error)} {after : Cache × World} {tokens : List Token}

theorem cache_of_puts (run : askEach (s.shelved.put w) tokens (c, world) = (outcomes, after)) :
    after.1 = c.update w (putAll (granted outcomes)) := by
  have cache : (askEach (s.shelved.put w) tokens (c, world)).2.1 =
      c.update w (putAll (granted (askEach (s.shelved.put w) tokens (c, world)).1)) :=
    cache_askEach (s.put w) w putInto tokens c world
  rwa [run] at cache

theorem cache_of_deletes
    (run : askEach (s.shelved.delete w) tokens (c, world) = (outcomes, after)) :
    after.1 = c.update w (dropAll (granted outcomes)) := by
  have cache : (askEach (s.shelved.delete w) tokens (c, world)).2.1 =
      c.update w (dropAll (granted (askEach (s.shelved.delete w) tokens (c, world)).1)) :=
    cache_askEach (s.delete w) w dropFrom tokens c world
  rwa [run] at cache

theorem cache_of_cached {answer : Except Error (List Token)}
    (read : s.shelved.cached w (c, world) = (answer, after)) :
    after.1 = c ∧ ∀ tokens, answer = .ok tokens → tokens = c.tokens w := by
  cases read
  refine ⟨rfl, fun tokens given => ?_⟩
  cases decided : (s.cached w world).1 with
  | error e => simp [decided, Except.map] at given
  | ok any => simpa [decided, Except.map] using given.symm

end Shelved

/-! ## What is stale -/

section Stale

variable {listed tokens : List Token} {t : Token} {k : String}

theorem stale_eq (listed tokens : List Token) :
    stale listed tokens = tokens.filter fun t => t.contract ∉ contracts listed := by
  unfold stale
  congr 1
  funext t
  rw [Bool.eq_iff_iff]
  simp [sameContract_iff, mem_contracts]

theorem not_listed_of_stale (old : t ∈ stale listed tokens) : t.contract ∉ contracts listed := by
  rw [stale_eq] at old
  simpa using (List.mem_filter.mp old).2

/-- What is listed can be put without anything more or less becoming stale. -/
theorem stale_putInto (isListed : t.contract ∈ contracts listed) (tokens : List Token) :
    stale listed (putInto t tokens) = stale listed tokens := by
  simp only [stale_eq]
  induction tokens with
  | nil => simp [putInto, isListed]
  | cons u rest ih =>
    unfold putInto
    by_cases same : u.contract = t.contract
    · rw [if_pos (sameContract_iff.mpr same), List.filter_cons_of_neg (by simp [isListed]),
        List.filter_cons_of_neg (by simp [same, isListed])]
    · rw [if_neg (mt sameContract_iff.mp same), List.filter_cons, List.filter_cons, ih]

theorem stale_putAll {added : List Token} (all : ∀ t ∈ added, t.contract ∈ contracts listed)
    (tokens : List Token) : stale listed (putAll added tokens) = stale listed tokens := by
  induction added generalizing tokens with
  | nil => rfl
  | cons t rest ih =>
    have isListed : t.contract ∈ contracts listed := all t List.mem_cons_self
    show stale listed (putAll rest (putInto t tokens)) = _
    rw [ih (fun u later => all u (List.mem_cons_of_mem t later)), stale_putInto isListed]

/-- A list with different contracts has different contracts among what is stale. -/
theorem Distinct.stale (distinct : Distinct tokens) : Distinct (stale listed tokens) :=
  List.Pairwise.sublist (List.filter_sublist.map contract) distinct

end Stale

/-! ## What was granted and what was refused -/

section Outcomes

variable {outcomes : List (Token × Option Error)} {t : Token} {k : String}

theorem mem_granted : t ∈ granted outcomes ↔ (t, none) ∈ outcomes := by
  simp [granted]

theorem mem_refused : t ∈ refused outcomes ↔ ∃ e, (t, some e) ∈ outcomes := by
  simp [refused, Option.isSome_iff_exists]

theorem mem_of_granted (given : t ∈ granted outcomes) : t ∈ outcomes.map Prod.fst :=
  (List.filter_sublist.map Prod.fst).subset given

theorem mem_contracts_outcomes :
    k ∈ contracts (outcomes.map Prod.fst) ↔
      k ∈ contracts (granted outcomes) ∨ k ∈ contracts (refused outcomes) := by
  simp only [mem_contracts, mem_granted, mem_refused, List.mem_map]
  constructor
  · rintro ⟨-, ⟨⟨t, _ | e⟩, asked, rfl⟩, same⟩
    · exact .inl ⟨t, asked, same⟩
    · exact .inr ⟨t, ⟨e, asked⟩, same⟩
  · rintro (⟨t, asked, same⟩ | ⟨t, ⟨e, asked⟩, same⟩)
    · exact ⟨t, ⟨_, asked, rfl⟩, same⟩
    · exact ⟨t, ⟨_, asked, rfl⟩, same⟩

/-- What is asked for once is not both granted and refused. -/
theorem not_granted_of_refused (once : Distinct (outcomes.map Prod.fst))
    (no : k ∈ contracts (refused outcomes)) : k ∉ contracts (granted outcomes) := by
  intro yes
  obtain ⟨t, given, rfl⟩ := mem_contracts.mp yes
  obtain ⟨u, denied, same⟩ := mem_contracts.mp no
  obtain ⟨e, denied⟩ := mem_refused.mp denied
  unfold Distinct contracts at once
  rw [List.map_map] at once
  have equal := List.inj_on_of_nodup_map once denied (mem_granted.mp given) same
  exact absurd (congrArg Prod.snd equal) (by simp)

end Outcomes

/-! ## The cache after a refresh -/

/-- The contracts that tokens bring to a list which has some already, in the order in which they came
first. -/
def newcomers (added : List Token) (known : List String) : List String :=
  ((contracts added).filter (· ∉ known)).eraseDups

/-- A list after puts of which some were granted. -/
structure Stored (puts : List (Token × Option Error)) (before after : List Token) : Prop where
  distinct : Distinct after
  /-- The last put that was granted is what is left of a contract. -/
  put : ∀ k t, last? (granted puts) k = some t → held? after k = some t
  /-- A contract of which no put was granted stays as it was. -/
  kept : ∀ k, last? (granted puts) k = none → held? after k = held? before k
  /-- New contracts come behind the old ones. -/
  order : contracts after = contracts before ++ newcomers (granted puts) (contracts before)

/-- A list that was brought up to date: the listed tokens were put, and what was not listed was
deleted. -/
structure UpToDate (listed : List Token) (puts deletes : List (Token × Option Error))
    (before after : List Token) : Prop where
  distinct : Distinct after
  /-- The last put that was granted is what is left of a contract. -/
  put : ∀ k t, last? (granted puts) k = some t → held? after k = some t
  /-- A listed contract of which no put was granted stays as it was. -/
  kept : ∀ k ∈ contracts listed, last? (granted puts) k = none → held? after k = held? before k
  /-- A contract that is not listed goes, unless its deletion was refused. -/
  unlisted : ∀ k, k ∉ contracts listed →
    held? after k = if k ∈ contracts (refused deletes) then held? before k else none
  /-- What is left of the old contracts comes first, in the old order. -/
  order : contracts after = (contracts before).filter (· ∈ contracts after) ++
    newcomers (granted puts) (contracts before)

/-- What a refresh leaves of the list of a wallet, by what the explorer lists, what the refresh
answers, and the notes of its requests. -/
inductive Refreshed (w : Wallet) (before after : List Token) :
    Except Error (List Token) → Except Error Nat → List (Note Client) → Prop where
  /-- Without a list nothing is asked of the cache. -/
  | unlisted {e : Error} (same : after = before) :
      Refreshed w before after (.error e) (.error e) [⟨.listed w.address, some e⟩]
  /-- Everything that is listed was put; the cache could not be read, and nothing was deleted. -/
  | unread {listed : List Token} {puts : List (Token × Option Error)} {e : Error}
      (all : puts.map Prod.fst = listed) (stored : Stored puts before after) :
      Refreshed w before after (.ok listed) (.error e)
        (⟨.listed w.address, none⟩ :: puts.map (Note.put w) ++ [⟨.cached w, some e⟩])
  /-- Everything that is listed was put, and everything else was deleted. -/
  | done {listed : List Token} {puts deletes : List (Token × Option Error)}
      (all : puts.map Prod.fst = listed)
      (others : deletes.map Prod.fst = before.filter (·.contract ∉ contracts listed))
      (upToDate : UpToDate listed puts deletes before after) :
      Refreshed w before after (.ok listed) (.ok (granted puts).length)
        (⟨.listed w.address, none⟩ :: puts.map (Note.put w) ++
          ⟨.cached w, none⟩ :: deletes.map (Note.delete w))

section Lists

variable {listed before : List Token} {puts deletes : List (Token × Option Error)}

theorem stored_putAll (distinct : Distinct before) :
    Stored puts before (putAll (granted puts) before) where
  distinct := distinct_putAll _ distinct
  put k t last := by rw [held?_putAll, last, Option.some_or]
  kept k none := by rw [held?_putAll, none, Option.none_or]
  order := contracts_putAll _ _

theorem mem_newcomers {added : List Token} {known : List String} {k : String} :
    k ∈ newcomers added known ↔ k ∈ contracts added ∧ k ∉ known := by
  simp [newcomers, List.mem_eraseDups]

theorem Stored.upToDate {mid : List Token} (stored : Stored puts before mid)
    (all : puts.map Prod.fst = listed) (others : deletes.map Prod.fst = stale listed mid)
    (same : stale listed mid = stale listed before) :
    UpToDate listed puts deletes before (dropAll (granted deletes) mid) := by
  have isListed {k : String} (put : k ∈ contracts (granted puts)) : k ∈ contracts listed :=
    all ▸ mem_contracts_outcomes.mpr (.inl put)
  -- What is deleted is not listed, and what was put is.
  have safe {k : String} (put : k ∈ contracts listed) : k ∉ contracts (granted deletes) := by
    intro gone
    obtain ⟨t, given, rfl⟩ := mem_contracts.mp gone
    exact not_listed_of_stale (others ▸ mem_of_granted given) put
  have once : Distinct (deletes.map Prod.fst) := others ▸ stored.distinct.stale
  have left := contracts_dropAll (granted deletes) mid
  refine ⟨distinct_dropAll _ stored.distinct, fun k t last => ?_, fun k isListed none => ?_,
    fun k unlisted => ?_, ?_⟩
  · have put : k ∈ contracts (granted puts) :=
      Decidable.not_not.mp fun absent => absurd (last?_eq_none_iff.mpr absent) (by simp [last])
    rw [held?_dropAll, if_neg (safe (isListed put)), stored.put k t last]
  · rw [held?_dropAll, if_neg (safe isListed), stored.kept k none]
  · rw [held?_dropAll, stored.kept k (last?_eq_none_iff.mpr fun put => unlisted (isListed put))]
    by_cases no : k ∈ contracts (refused deletes)
    · rw [if_pos no, if_neg (not_granted_of_refused once no)]
    · rw [if_neg no]
      split
      · rfl
      · -- Nothing was asked for this contract, and so it was not there.
        rename_i unasked
        refine held?_eq_none_iff.mpr fun present => ?_
        obtain ⟨t, held, rfl⟩ := mem_contracts.mp present
        have old : t ∈ deletes.map Prod.fst := by
          rw [others, same, stale_eq]
          exact List.mem_filter.mpr ⟨held, by simpa using unlisted⟩
        rcases mem_contracts_outcomes.mp (mem_contracts.mpr ⟨t, old, rfl⟩) with yes | denied
        · exact unasked yes
        · exact no denied
  · rw [left, stored.order, List.filter_append]
    congr 1
    · refine List.filter_congr fun k present => ?_
      simp [present]
    · refine List.filter_eq_self.mpr fun k new => ?_
      simpa using safe (isListed (mem_newcomers.mp new).1)

end Lists

/-- After a refresh the list of the wallet is up to date, except where the cache, or the explorer,
refused: of each listed contract the last put that was granted is left, what is not listed is gone
unless its deletion was refused, and the old contracts come first. A failure of the explorer leaves
everything, and if the cache cannot be read again nothing is deleted. Lists of other wallets stay,
and the answer is the number of puts that were granted. -/
theorem cache_refreshed (s : Services World Client) (w : Wallet) {c : Cache}
    (distinct : Distinct (c.tokens w)) (world : World) :
    let out := refresh s.shelved.noted w ((c, world), [])
    let c' := out.2.1.1
    refresh s.shelved w (c, world) = (out.1, out.2.1) ∧
      (∀ key, key ≠ w.key → c'.list key = c.list key) ∧
      Refreshed w (c.tokens w) (c'.tokens w) (s.listed w.address world).1 out.1 out.2.2 := by
  intro out c'
  obtain ⟨a, final, newer, runs, course⟩ := refresh_runs s.shelved w (c, world)
  have run : out = (a, final, newer) := runs.noted []
  have same : c' = final.1 := congrArg (fun r => r.2.1.1) run
  rw [same, run]
  refine ⟨runs.plain, ?_⟩
  cases course with
  | unlisted list =>
    obtain ⟨answer, rfl⟩ := of_beside list
    rw [answer]
    exact ⟨fun key _ => rfl, .unlisted rfl⟩
  | unread list put read =>
    obtain ⟨answer, rfl⟩ := of_beside list
    rw [answer, (cache_of_cached read).1, cache_of_puts put]
    refine ⟨fun key other => c.list_update_other w _ other, .unread (map_fst_of_askEach put) ?_⟩
    rw [show (c.update w _).tokens w = _ from c.list_update_self w _]
    exact stored_putAll distinct
  | @done listed cached puts deletes _ _ _ _ list put read delete =>
    obtain ⟨answer, rfl⟩ := of_beside list
    have all : puts.map Prod.fst = listed := map_fst_of_askEach put
    have others : deletes.map Prod.fst = stale listed cached := map_fst_of_askEach delete
    obtain ⟨unchanged, holds⟩ := cache_of_cached read
    have held : cached = putAll (granted puts) (c.tokens w) := by
      rw [holds cached rfl, cache_of_puts put]
      exact c.list_update_self w _
    have same : stale listed cached = stale listed (c.tokens w) := by
      rw [held]
      refine stale_putAll (fun t given => ?_) _
      exact mem_contracts.mpr ⟨t, all ▸ mem_of_granted given, rfl⟩
    have upToDate := (stored_putAll distinct).upToDate all (held ▸ others) (held ▸ same)
    rw [answer, cache_of_deletes delete, unchanged, cache_of_puts put, c.update_update]
    refine ⟨fun key other => c.list_update_other w _ other, .done all ?_ ?_⟩
    · rw [others, same, stale_eq]
    · rw [show (c.update w _).tokens w = _ from c.list_update_self w _]
      exact upToDate

/-- Services that list five tokens of three contracts, and refuse what is named `-`. -/
def picky : Services Unit Unit where
  cached _ := pure (.ok [])
  put _ t := pure (if t.name = "-" then .error (.storage "cannot store") else .ok ())
  delete _ t := pure (if t.name = "-" then .error (.storage "cannot delete") else .ok ())
  listed _ := pure (.ok [⟨"0xee", "E", "", 0⟩, ⟨"0xAA", "A2", "", 0⟩, ⟨"0xEE", "E2", "", 0⟩,
    ⟨"0xaa", "-", "", 0⟩, ⟨"0xBB", "-", "", 0⟩])
  connect _ := pure (.ok ())
  call _ _ := pure (.ok [])

/-- Of a cache with four tokens the first is replaced where it stands, the second is kept since its
put was refused, the third is deleted, and the fourth is kept since its deletion was refused; the new
one comes last, as it was put last. -/
theorem cache_refreshed_picky :
    let w : Wallet := ⟨"0x1"⟩
    let c : Cache := ⟨fun _ => [⟨"0xaa", "A", "", 0⟩, ⟨"0xbb", "B", "", 0⟩, ⟨"0xcc", "C", "", 0⟩,
      ⟨"0xdd", "-", "", 0⟩]⟩
    let out := refresh picky.shelved.noted w ((c, ()), [])
    Distinct (c.tokens w) ∧
      (out.2.1.1.tokens w).map Token.name = ["A2", "B", "-", "E2"] ∧
      Refreshed w (c.tokens w) (out.2.1.1.tokens w) (picky.listed w.address ()).1 out.1 out.2.2 := by
  intro w c out
  have distinct : Distinct (c.tokens w) := by decide
  obtain ⟨-, -, refreshed⟩ := cache_refreshed picky w distinct ()
  refine ⟨distinct, by decide +kernel, ?_⟩
  have same : out = refresh picky.shelved.noted w ((c, ()), []) := rfl
  rw [same]
  exact refreshed

end EvmWallet.Token
