import EvmWallet.Network.Selection
import Mathlib.Data.List.Find

/-!
# The networks of a profile

There are two ways to a network: a profile looks its chain up in the settings and redirects what it
finds, and a selection looks it up in a list that was made beforehand. They agree for every chain,
also where the settings have several networks of one chain, and neither depends on variables
that do not concern a wallet. The main statement is `selection_of_profile`.
-/

namespace EvmWallet

/-! ## Looking up -/

namespace Network

/-- The first network of a chain in a list. -/
def First (networks : List Network) (chain : Chain) (n : Network) : Prop :=
  n.chain = chain ∧
    ∃ before after, networks = before ++ n :: after ∧ ∀ m ∈ before, m.chain ≠ chain

theorem find?_eq_some_iff {networks : List Network} {chain : Chain} {n : Network} :
    find? networks chain = some n ↔ First networks chain n := by
  simp [find?, First, List.find?_eq_some_iff_append]

theorem find?_eq_none_iff {networks : List Network} {chain : Chain} :
    find? networks chain = none ↔ ∀ n ∈ networks, n.chain ≠ chain := by
  simp [find?]

/-- Networks that are replaced by networks of the same chain are found in their places. -/
theorem find?_filterMap {networks : List Network} {f : Network → Option Network}
    (h : ∀ n ∈ networks, ∃ m, f n = some m ∧ m.chain = n.chain) (chain : Chain) :
    find? (networks.filterMap f) chain = (find? networks chain).bind f := by
  have same : ∀ n ∈ networks, (f n).any (fun m => m.chain = chain) = decide (n.chain = chain) := by
    intro n hn
    obtain ⟨m, replaced, same⟩ := h n hn
    rw [replaced, Option.any_some, same]
  unfold find?
  rw [List.find?_filterMap, List.find?_congr same]

theorem chains_filterMap {networks : List Network} {f : Network → Option Network}
    (h : ∀ n ∈ networks, ∃ m, f n = some m ∧ m.chain = n.chain) :
    (networks.filterMap f).map (·.chain) = networks.map (·.chain) := by
  induction networks with
  | nil => rfl
  | cons n networks ih =>
    obtain ⟨m, replaced, same⟩ := h n List.mem_cons_self
    rw [List.filterMap_cons_some replaced, List.map_cons, List.map_cons, same,
      ih fun k hk => h k (List.mem_cons_of_mem n hk)]

end Network

/-! ## Variables -/

namespace Environment

/-- A variable whose name says that it concerns a wallet. -/
def Concerns (name : String) : Prop := ∃ rest, name = "WALLET_" ++ rest ∨ name = "RPC_" ++ rest

/-- Whether `relevant` keeps a variable. -/
def keeps (name : String) : Bool := leads.any (·.isPrefixOf name.toList)

theorem isPrefixOf_iff {lead name : String} :
    lead.toList.isPrefixOf name.toList = true ↔ ∃ rest, name = lead ++ rest := by
  rw [List.isPrefixOf_iff_prefix]
  constructor
  · rintro ⟨rest, same⟩
    refine ⟨String.ofList rest, String.toList_inj.mp ?_⟩
    rw [String.toList_append, String.toList_ofList, same]
  · rintro ⟨rest, rfl⟩
    rw [String.toList_append]
    exact List.prefix_append _ _

theorem keeps_iff {name : String} : keeps name = true ↔ Concerns name := by
  show ("WALLET_".toList.isPrefixOf name.toList ||
    ("RPC_".toList.isPrefixOf name.toList || false)) = true ↔ _
  rw [Bool.or_false, Bool.or_eq_true, isPrefixOf_iff, isPrefixOf_iff]
  exact exists_or.symm

theorem mem_relevant {e : Environment} {v : String × String} :
    v ∈ e.relevant ↔ v ∈ e ∧ Concerns v.1 := by
  rw [← keeps_iff]
  exact List.mem_filter

/-- Leaving out variables of other names does not change the value of a variable. -/
theorem lookup_filter (e : Environment) (keep : String → Bool) {name : String}
    (kept : keep name = true) : (e.filter fun v => keep v.1).lookup name = e.lookup name := by
  induction e with
  | nil => rfl
  | cons v e ih =>
    rw [List.filter_cons, List.lookup_cons]
    by_cases same : name = v.1
    · subst same
      rw [if_pos kept, List.lookup_cons, BEq.rfl]
    · have other : (name == v.1) = false := by simpa using same
      rw [other]
      split
      · rw [List.lookup_cons, other]
        exact ih
      · exact ih

/-- Variables that concern a wallet have the same value in the relevant part. -/
theorem get?_relevant (e : Environment) {name : String} (h : Concerns name) :
    e.relevant.get? name = e.get? name := e.lookup_filter keeps (keeps_iff.mpr h)

end Environment

/-! ## Profiles -/

namespace Profile

variable {p : Profile}

theorem map_eq_error_iff {α β : Type} {f : α → β} {x : Except Settings.Error α}
    {e : Settings.Error} : x.map f = .error e ↔ x = .error e := by
  cases x <;> simp [Except.map]

theorem map_const_eq_ok_iff {α β : Type} {x : Except Settings.Error α} {b c : β} :
    (x.map fun _ => b) = .ok c ↔ (∃ a, x = .ok a) ∧ c = b := by
  cases x <;> simp [Except.map, eq_comm]

/-- A network as an environment redirects it. -/
def redirected (e : Environment) (n : Network) : Network :=
  { n with rpcUrl := (e.get? ("RPC_" ++ n.chain.environmentKey)).getD n.rpcUrl }

theorem network?_eq (p : Profile) (chain : Chain) :
    p.network? chain = (p.settings.network? chain).map (redirected p.environment) := by
  unfold network?
  cases found : p.settings.network? chain with
  | none => rfl
  | some n =>
    have own : n.chain = chain := (Network.find?_eq_some_iff.mp found).1
    subst own
    have key : redirection n.chain = "RPC_" ++ n.chain.environmentKey := rfl
    rw [Option.map_some, Option.map_some, redirected, key]
    cases p.environment.get? ("RPC_" ++ n.chain.environmentKey) <;> rfl

theorem network?_eq_some_iff {chain : Chain} {m : Network} :
    p.network? chain = some m ↔
      ∃ n, Network.First p.settings.networks chain n ∧ m = redirected p.environment n := by
  rw [network?_eq, Option.map_eq_some_iff]
  constructor
  · rintro ⟨n, found, rfl⟩
    exact ⟨n, Network.find?_eq_some_iff.mp found, rfl⟩
  · rintro ⟨n, first, rfl⟩
    exact ⟨n, Network.find?_eq_some_iff.mpr first, rfl⟩

theorem network?_eq_none_iff {chain : Chain} :
    p.network? chain = none ↔ ∀ n ∈ p.settings.networks, n.chain ≠ chain := by
  rw [network?_eq, Option.map_eq_none_iff]
  exact Network.find?_eq_none_iff

theorem network?_chain {chain : Chain} {m : Network} (h : p.network? chain = some m) :
    m.chain = chain := by
  obtain ⟨n, first, rfl⟩ := network?_eq_some_iff.mp h
  exact first.1

/-- A profile has a network for the chain of each configured one. -/
theorem network?_of_mem {n : Network} (h : n ∈ p.settings.networks) :
    ∃ m, p.network? n.chain = some m ∧ m.chain = n.chain := by
  cases found : p.network? n.chain with
  | none => exact absurd rfl (network?_eq_none_iff.mp found n h)
  | some m => exact ⟨m, rfl, network?_chain found⟩

theorem defaultNetwork_eq_ok_iff {m : Network} :
    p.defaultNetwork = .ok m ↔ p.network? p.settings.defaultChain = some m := by
  unfold defaultNetwork
  cases p.network? p.settings.defaultChain <;> simp

theorem defaultNetwork_eq_error_iff {e : Settings.Error} :
    p.defaultNetwork = .error e ↔
      (∀ n ∈ p.settings.networks, n.chain ≠ p.settings.defaultChain) ∧
        e = .networkMissing p.settings.defaultChain := by
  rw [← network?_eq_none_iff]
  unfold defaultNetwork
  cases p.network? p.settings.defaultChain <;> simp [eq_comm]

theorem defaultNetwork_ok_iff :
    (∃ m, p.defaultNetwork = .ok m) ↔
      ∃ n ∈ p.settings.networks, n.chain = p.settings.defaultChain := by
  constructor
  · rintro ⟨m, made⟩
    obtain ⟨n, ⟨own, before, after, place, -⟩, -⟩ :=
      network?_eq_some_iff.mp (defaultNetwork_eq_ok_iff.mp made)
    exact ⟨n, by simp [place], own⟩
  · rintro ⟨n, configured, own⟩
    obtain ⟨m, found, -⟩ := network?_of_mem configured
    exact ⟨m, defaultNetwork_eq_ok_iff.mpr (own ▸ found)⟩

/-- The networks on offer are those of a profile. -/
structure Offers (p : Profile) (s : Network.Selection) : Prop where
  /-- Both ways to a network lead to the same one. -/
  finds : ∀ chain, s.find? chain = p.network? chain
  selects : s.find? p.settings.defaultChain = some s.selected
  /-- There is one for each configured network, in the same order. -/
  chains : s.available.map (·.chain) = p.settings.networks.map (·.chain)
  /-- Each is the first configured one of its chain, apart from the server. -/
  redirects : ∀ m ∈ s.available, ∃ n, Network.First p.settings.networks m.chain n ∧
    m = { n with rpcUrl := (p.environment.get? ("RPC_" ++ m.chain.environmentKey)).getD n.rpcUrl }

/-- The list of a selection that is made of a profile. -/
def offered (p : Profile) : List Network :=
  p.settings.networks.filterMap fun n => p.network? n.chain

theorem find?_offered (p : Profile) (chain : Chain) :
    Network.find? p.offered chain = p.network? chain := by
  rw [offered, Network.find?_filterMap fun n hn => network?_of_mem hn]
  cases found : Network.find? p.settings.networks chain with
  | none => exact (network?_eq_none_iff.mpr (Network.find?_eq_none_iff.mp found)).symm
  | some n =>
    have own : n.chain = chain := (Network.find?_eq_some_iff.mp found).1
    rw [Option.bind_some, own]

theorem chains_offered (p : Profile) :
    p.offered.map (·.chain) = p.settings.networks.map (·.chain) :=
  Network.chains_filterMap fun _ hn => network?_of_mem hn

theorem offers_offered {first : Network} (h : p.defaultNetwork = .ok first) :
    p.Offers (.ofNetworks first p.offered) where
  finds := p.find?_offered
  selects := (p.find?_offered _).trans (defaultNetwork_eq_ok_iff.mp h)
  chains := p.chains_offered
  redirects m hm := by
    obtain ⟨k, -, found⟩ := List.mem_filterMap.mp hm
    have own := network?_chain found
    obtain ⟨n, first, same⟩ := network?_eq_some_iff.mp found
    rw [← own] at first
    refine ⟨n, first, ?_⟩
    rw [← first.1]
    exact same

theorem ofProfile_eq (p : Profile) :
    Network.Selection.ofProfile p = p.defaultNetwork.map (.ofNetworks · p.offered) := rfl

/-! ## Irrelevant variables -/

theorem redirected_relevant (e : Environment) (n : Network) :
    redirected e.relevant n = redirected e n := by
  unfold redirected
  rw [e.get?_relevant ⟨n.chain.environmentKey, .inr rfl⟩]

theorem network?_relevant (p : Profile) (chain : Chain) :
    (inProcess p.settings p.environment).network? chain = p.network? chain := by
  rw [network?_eq, network?_eq]
  show (p.settings.network? chain).map (redirected p.environment.relevant) = _
  rw [funext (redirected_relevant p.environment)]

theorem apiKey_relevant (p : Profile) :
    (inProcess p.settings p.environment).apiKey = p.apiKey := by
  have same : p.environment.relevant.get? apiKeyVariable = p.environment.get? apiKeyVariable :=
    p.environment.get?_relevant ⟨"TOKEN_EXPLORER_API_KEY", .inl rfl⟩
  show (p.environment.relevant.get? apiKeyVariable).getD _ = _
  rw [same]
  rfl

theorem defaultNetwork_relevant (p : Profile) :
    (inProcess p.settings p.environment).defaultNetwork = p.defaultNetwork := by
  unfold defaultNetwork
  rw [network?_relevant]
  rfl

theorem offered_relevant (p : Profile) :
    (inProcess p.settings p.environment).offered = p.offered := by
  unfold offered
  rw [show (inProcess p.settings p.environment).network? = p.network? from
    funext p.network?_relevant]
  rfl

/-- A selection can be made of a profile exactly if a network is configured for the default chain;
otherwise that chain is reported. It offers what the profile has, in the order of the settings,
and every lookup in it gives what the profile gives. Of the environment, only the variables
count whose names begin with `WALLET_` or `RPC_`. -/
theorem selection_of_profile (p : Profile) :
    (∀ e, Network.Selection.ofProfile p = .error e ↔
      (∀ n ∈ p.settings.networks, n.chain ≠ p.settings.defaultChain) ∧
        e = .networkMissing p.settings.defaultChain) ∧
    ((∃ n ∈ p.settings.networks, n.chain = p.settings.defaultChain) →
      ∃ s, Network.Selection.ofProfile p = .ok s ∧ p.defaultNetwork = .ok s.selected ∧ p.Offers s) ∧
    (∀ v, v ∈ (inProcess p.settings p.environment).environment ↔
      v ∈ p.environment ∧ Environment.Concerns v.1) ∧
    (∀ chain, (inProcess p.settings p.environment).network? chain = p.network? chain) ∧
    (inProcess p.settings p.environment).defaultNetwork = p.defaultNetwork ∧
    (inProcess p.settings p.environment).apiKey = p.apiKey ∧
    Network.Selection.ofProfile (inProcess p.settings p.environment) =
      Network.Selection.ofProfile p := by
  refine ⟨fun e => ?_, ?_, fun v => Environment.mem_relevant, p.network?_relevant,
    p.defaultNetwork_relevant, p.apiKey_relevant, ?_⟩
  · rw [ofProfile_eq, map_eq_error_iff, defaultNetwork_eq_error_iff]
  · intro configured
    obtain ⟨first, made⟩ := defaultNetwork_ok_iff.mpr configured
    refine ⟨.ofNetworks first p.offered, ?_, made, offers_offered made⟩
    rw [ofProfile_eq, made]
    rfl
  · rw [ofProfile_eq, ofProfile_eq, defaultNetwork_relevant, offered_relevant]

/-- Polygon configured twice and redirected: the first of the two is in use, through the server
that the environment names. -/
theorem selection_of_profile_redirected :
    let again : Network := .ofChain .polygon "MATIC" "http://polygon.local"
    let p : Profile := ⟨{ Settings.standard with
      networks := [.polygon, .ethereum, again], defaultChain := .polygon },
      [("PATH", "/bin"), ("RPC_POLYGON", "http://localhost:8545")]⟩
    ∃ s, Network.Selection.ofProfile p = .ok s ∧ p.Offers s ∧
      s.selected = { Network.polygon with rpcUrl := "http://localhost:8545" } := by
  intro again p
  obtain ⟨s, made, first, offers⟩ :=
    (selection_of_profile p).2.1 ⟨.polygon, List.mem_cons_self, rfl⟩
  have redirects : p.defaultNetwork = .ok { Network.polygon with rpcUrl := "http://localhost:8545" } :=
    by decide +kernel
  exact ⟨s, made, offers, Except.ok.inj (first.symm.trans redirects)⟩

end Profile

end EvmWallet
