import EvmWallet.Proofs.Cache.History
import EvmWallet.Proofs.Eth.Alike
import EvmWallet.Proofs.Portfolio.Balances
import EvmWallet.Proofs.Portfolio.Refresh
import Mathlib.Data.List.Pairwise

/-!
# Contracts that are called twice

The cache compares the texts of addresses and a call is made to the address that is read of them, so
that one contract may stand on the list of a wallet twice. `contracts_called` tells when: the texts are
spellings of one address that are not laid out alike. Such a contract is called once for each of them.
-/

namespace EvmWallet.Token

open Eth (Address)
open Eth.Address (Alike)

variable {World Client α β : Type}

/-! ## The calls of a fetch -/

/-- An action makes these calls, whatever is answered. -/
def Makes (calls : List (Client × Eth.Transaction)) (m : StateM World α)
    (m' : StateM (World × List (Note Client)) α) : Prop :=
  ∀ world, ∃ a world' newer, Runs m m' world a world' newer ∧ callsOf newer = calls

section Makes

variable {calls more : List (Client × Eth.Transaction)} {m : StateM World α}
  {m' : StateM (World × List (Note Client)) α} {f : α → StateM World β}
  {f' : α → StateM (World × List (Note Client)) β}

theorem Makes.pure {a : α} :
    Makes ([] : List (Client × Eth.Transaction)) (pure a : StateM World α) (pure a) :=
  fun world => ⟨a, world, [], .pure, rfl⟩

theorem Makes.bind (first : Makes calls m m') (second : ∀ a, Makes more (f a) (f' a)) :
    Makes (calls ++ more) (m >>= f) (m' >>= f') := by
  intro world
  obtain ⟨a, world₁, newer, run, made⟩ := first world
  obtain ⟨b, world₂, newest, run', made'⟩ := second a world₁
  refine ⟨b, world₂, newer ++ newest, .bind run run', ?_⟩
  rw [callsOf_append, made, made']

/-- What follows calls nothing. -/
theorem Makes.before (first : Makes calls m m')
    (second : ∀ a, Makes ([] : List (Client × Eth.Transaction)) (f a) (f' a)) :
    Makes calls (m >>= f) (m' >>= f') :=
  List.append_nil calls ▸ first.bind second

theorem Makes.call (s : Services World Client) (client : Client) (t : Eth.Transaction) :
    Makes [(client, t)] (s.call client t) (s.noted.call client t) :=
  fun _ => ⟨_, _, _, .request (.call client t) rfl, rfl⟩

end Makes

section Fetch

variable (s : Services World Client) (client : Client) (w : Wallet)

theorem balance_makes (t : Token) :
    Makes (callsFor (some client) w [t]) (balance s client w t) (balance s.noted client w t) := by
  unfold balance callsFor
  cases ofOwner : Address.ofString w.address with
  | error e =>
    have none : balanceTransaction? w t = none := by simp [balanceTransaction?, ofOwner]
    simpa [none] using Makes.pure
  | ok owner =>
    cases ofContract : Address.ofString t.address with
    | error e =>
      have none : balanceTransaction? w t = none := by
        simp [balanceTransaction?, ofOwner, ofContract]
      simpa [none] using Makes.pure
    | ok contract =>
      have asks : balanceTransaction? w t = some (Eth.balanceTransaction owner contract) := by
        simp [balanceTransaction?, ofOwner, ofContract]
      simpa [asks] using (Makes.call s client _).before fun _ => .pure

theorem holding_makes (client : Option Client) (t : Token) :
    Makes (callsFor client w [t]) (holding s client w t) (holding s.noted client w t) := by
  cases client with
  | none => exact .pure
  | some client => exact (balance_makes s client w t).before fun _ => .pure

theorem holdings_makes (client : Option Client) (tokens : List Token) :
    Makes (callsFor client w tokens) (holdings s client w tokens)
      (holdings s.noted client w tokens) := by
  induction tokens with
  | nil => cases client <;> exact .pure
  | cons t rest ih =>
    rw [callsFor_cons]
    exact (holding_makes s w client t).bind fun _ => ih.before fun _ => .pure

/-- A fetch calls for the tokens that the cache has for the wallet, through a client or without. -/
theorem calls_of_fetch (networks : Board Network) (c : Connection Client) (cache : Cache)
    (world : World) :
    ∃ client : Option Client,
      callsOf (fetchWithBalances s.shelved.noted networks w c ((cache, world), [])).2.2 =
        callsFor client w (cache.tokens w) := by
  rcases read : s.shelved.cached w (cache, world) with ⟨e | tokens, after⟩
  · have run : Runs (fetchWithBalances s.shelved networks w c)
        (fetchWithBalances s.shelved.noted networks w c) (cache, world) (.error e, c) after _ :=
      .bind (.request (.cached w) read) .pure
    rw [run.noted []]
    exact ⟨none, rfl⟩
  · obtain ⟨-, same⟩ := cache_of_cached read
    obtain ⟨⟨obtained, c'⟩, world₁, made, connected, quiet⟩ := obtain_runs s.shelved networks c after
    obtain ⟨all, world₂, newer, shown, calls⟩ :=
      holdings_makes s.shelved w obtained.toOption tokens world₁
    have run : Runs (fetchWithBalances s.shelved networks w c)
        (fetchWithBalances s.shelved.noted networks w c) (cache, world) (.ok all, c') world₂ _ :=
      .bind (.request (.cached w) read) (.bind connected (.bind shown .pure))
    refine ⟨obtained.toOption, ?_⟩
    rw [run.noted [], List.nil_append, callsOf_append, callsOf_append, callsOf_append, quiet, calls,
      same tokens rfl]
    exact List.append_nil _

end Fetch

/-! ## The contracts that are called -/

/-- The contract of a token, if its address can be read. -/
def target? (t : Token) : Option Address := (Address.ofString t.address).toOption

section Targets

variable {client : Option Client} {w : Wallet} {tokens : List Token} {t u : Token} {a b : Address}

theorem target?_eq_some_iff : target? t = some a ↔ Address.ofString t.address = .ok a := by
  unfold target?
  cases Address.ofString t.address <;> simp [Except.toOption]

theorem target_of_balanceTransaction? {owner : Address}
    (ofOwner : Address.ofString w.address = .ok owner) (t : Token) :
    (balanceTransaction? w t).map (·.target) = target? t := by
  unfold balanceTransaction? target?
  rw [ofOwner]
  cases Address.ofString t.address <;> rfl

/-- All contracts of a list are called, in its order, or none is. -/
theorem targets_of_calls (called : callsFor client w tokens ≠ []) :
    (callsFor client w tokens).map (·.2.target) = tokens.filterMap target? := by
  cases client with
  | none => exact absurd rfl called
  | some client =>
    cases ofOwner : Address.ofString w.address with
    | error e =>
      have none (t : Token) : balanceTransaction? w t = none := by
        simp [balanceTransaction?, ofOwner]
      exact absurd (by simp [callsFor, none]) called
    | ok owner =>
      show ((tokens.filterMap (balanceTransaction? w)).map (client, ·)).map (·.2.target) = _
      rw [List.map_map, List.map_filterMap]
      exact congrArg (List.filterMap · tokens)
        (funext fun t => target_of_balanceTransaction? ofOwner t)

theorem sameContract_iff_alike (h : Address.ofString t.address = .ok a)
    (h' : Address.ofString u.address = .ok b) :
    t.sameContract u = true ↔ a = b ∧ Alike t.address.toList u.address.toList :=
  Address.sameUpToAsciiCase_iff_alike h h'

/-- On a list of different contracts, one is read twice if two of its spellings are not laid out
alike. -/
theorem targets_nodup_iff (distinct : Distinct tokens) :
    ¬(tokens.filterMap target?).Nodup ↔ ∃ t ∈ tokens, ∃ u ∈ tokens, ∃ a,
      Address.ofString t.address = .ok a ∧ Address.ofString u.address = .ok a ∧
        ¬Alike t.address.toList u.address.toList := by
  rw [List.Nodup, List.pairwise_filterMap]
  constructor
  · intro twice
    by_contra none
    refine twice ((distinct_iff_pairwise.mp distinct).imp_of_mem fun {t u} here there other => ?_)
    rintro a read b read' rfl
    have h := target?_eq_some_iff.mp read
    have h' := target?_eq_some_iff.mp read'
    refine none ⟨t, here, u, there, a, h, h', fun alike => ?_⟩
    exact absurd ((sameContract_iff_alike h h').mpr ⟨rfl, alike⟩) (by simp [other])
  · rintro ⟨t, here, u, there, a, h, h', unlike⟩ apart
    have unequal : t ≠ u := fun same => unlike (same ▸ Address.alike_refl _)
    have symmetric : Std.Symm fun t u : Token => ∀ a, target? t = some a → ∀ b, target? u = some b →
        a ≠ b := ⟨fun t u different b read a read' same => different a read' b read same.symm⟩
    exact apart.forall here there unequal a (target?_eq_some_iff.mpr h) a
      (target?_eq_some_iff.mpr h') rfl

theorem called_twice_iff (distinct : Distinct tokens) :
    ¬((callsFor client w tokens).map (·.2.target)).Nodup ↔ callsFor client w tokens ≠ [] ∧
      ∃ t ∈ tokens, ∃ u ∈ tokens, ∃ a,
        Address.ofString t.address = .ok a ∧ Address.ofString u.address = .ok a ∧
          ¬Alike t.address.toList u.address.toList := by
  by_cases called : callsFor client w tokens = []
  · simp [called]
  · rw [targets_of_calls called, targets_nodup_iff distinct]
    exact (and_iff_right called).symm

end Targets

/-- Tokens of a cache were put into it. -/
theorem exists_put {uses : List (Cache.Use Wallet)} {w : Wallet} {t : Token}
    (present : t ∈ (Cache.run id uses).tokens w) : ∃ v, .put v t ∈ uses ∧ v.key = w.key := by
  obtain ⟨before, v, since, rfl, same, -⟩ := ((Cache.recounts_run id uses w.key).mem_iff t).mp present
  exact ⟨v, by simp, same⟩

/-- Two tokens name one contract if their texts are spellings of one address and laid out alike. So a
fetch calls a contract more than once if the cache holds spellings of it that are not, and if it calls
any; and it does not if all spellings that were put are. -/
theorem contracts_called (s : Services World Client) (networks : Board Network)
    (c : Connection Client) (w : Wallet) (uses : List (Cache.Use Wallet)) (world : World) :
    let cache := Cache.run id uses
    let calls := callsOf (fetchWithBalances s.shelved.noted networks w c ((cache, world), [])).2.2
    (∀ (t u : Token) (a b : Address), Address.ofString t.address = .ok a →
      Address.ofString u.address = .ok b →
      (t.sameContract u = true ↔ a = b ∧ Alike t.address.toList u.address.toList)) ∧
    (¬(calls.map (·.2.target)).Nodup ↔ calls ≠ [] ∧
      ∃ t ∈ cache.tokens w, ∃ u ∈ cache.tokens w, ∃ a,
        Address.ofString t.address = .ok a ∧ Address.ofString u.address = .ok a ∧
          ¬Alike t.address.toList u.address.toList) ∧
    ((∀ (v v' : Wallet) (t u : Token) (a : Address), .put v t ∈ uses → .put v' u ∈ uses →
      v.key = w.key → v'.key = w.key → Address.ofString t.address = .ok a →
      Address.ofString u.address = .ok a → Alike t.address.toList u.address.toList) →
        (calls.map (·.2.target)).Nodup) := by
  intro cache calls
  obtain ⟨client, same⟩ := calls_of_fetch s w networks c cache world
  have distinct : Distinct (cache.tokens w) := (Cache.recounts_run id uses w.key).distinct
  have twice : ¬(calls.map (·.2.target)).Nodup ↔ calls ≠ [] ∧ _ := same ▸ called_twice_iff distinct
  refine ⟨fun t u a b => sameContract_iff_alike, twice, fun alike => ?_⟩
  by_contra repeated
  obtain ⟨-, t, here, u, there, a, h, h', unlike⟩ := twice.mp repeated
  obtain ⟨v, put, key⟩ := exists_put here
  obtain ⟨v', put', key'⟩ := exists_put there
  exact unlike (alike v v' t u a put put' key key' h h')

/-- Without the mark it is another contract, and the same one is called again. -/
theorem contracts_called_unmarked :
    (¬∀ (t u : Token) (a b : Address), Address.ofString t.address = .ok a →
      Address.ofString u.address = .ok b → (t.sameContract u = true ↔ a = b)) ∧
    ¬∀ (w : Wallet) (uses : List (Cache.Use Wallet)),
      ((callsOf (fetchWithBalances patchy.shelved.noted (.showing .ethereum) w
        (.ofBoard (.showing .ethereum)) ((Cache.run id uses, ()), [])).2.2).map
          (·.2.target)).Nodup := by
  constructor
  · intro agree
    have marked : Address.ofString "0x00000000000000000000000000000000000000aa" =
        .ok ⟨List.replicate 19 0 ++ [0xaa], rfl⟩ := rfl
    have unmarked : Address.ofString "00000000000000000000000000000000000000aa" =
        .ok ⟨List.replicate 19 0 ++ [0xaa], rfl⟩ := rfl
    have same := (agree ⟨_, "A", "", 2⟩ ⟨_, "A", "", 2⟩ _ _ marked unmarked).mpr rfl
    exact absurd same (by decide)
  · intro once
    have nodup := once ⟨"0x00000000000000000000000000000000000000ee"⟩
      [.put ⟨"0x00000000000000000000000000000000000000ee"⟩
          ⟨"0x00000000000000000000000000000000000000aa", "A", "", 2⟩,
        .put ⟨"0x00000000000000000000000000000000000000ee"⟩
          ⟨"00000000000000000000000000000000000000aa", "A", "", 2⟩]
    exact absurd nodup (by decide +kernel)

end EvmWallet.Token
