import EvmWallet.Proofs.Settings.Networks
import Mathlib.Data.List.Induction
import Mathlib.Data.List.Nodup

/-!
# Settings that are built

Settings are built of choices, and each part of them is what was chosen last for it, or the standard
if nothing was (`Decided`). A network is chosen for its chain alone: there is one for each chain, and
the chains stay in the order in which they come up first. The main statement is `build_of_choices`.
-/

namespace EvmWallet.Settings

/-! ## The last word -/

/-- A value is what the last of the changes gives that gives any, or what held before them. -/
inductive Decided {α : Type} (gives : Change → α → Prop) (start : α) : List Change → α → Prop where
  | never {changes : List Change} : (∀ c ∈ changes, ∀ a, ¬gives c a) →
      Decided gives start changes start
  | last {before after : List Change} {c : Change} {a : α} : gives c a →
      (∀ d ∈ after, ∀ b, ¬gives d b) → Decided gives start (before ++ c :: after) a

/-- A part of the settings is what a change gives it; a change that gives it nothing leaves it
alone. -/
def Decides {α : Type} (gives : Change → α → Prop) (part : Settings → α) : Prop :=
  ∀ s c a, part (s.apply c) = a ↔ gives c a ∨ (∀ b, ¬gives c b) ∧ part s = a

theorem build_concat (changes : List Change) (c : Change) :
    build (changes ++ [c]) = (build changes).apply c := by
  simp [build]

section Decided

variable {α : Type} {gives : Change → α → Prop} {start a : α} {changes : List Change} {c : Change}

theorem decided_nil : Decided gives start [] a ↔ start = a := by
  constructor
  · intro decided
    generalize none : ([] : List Change) = changes at decided
    cases decided with
    | never => rfl
    | last => exact absurd none (by simp)
  · rintro rfl
    exact .never fun c present => absurd present List.not_mem_nil

theorem decided_concat :
    Decided gives start (changes ++ [c]) a ↔
      gives c a ∨ (∀ b, ¬gives c b) ∧ Decided gives start changes a := by
  constructor
  · intro decided
    generalize whole : changes ++ [c] = all at decided
    cases decided with
    | never silent =>
      subst whole
      exact .inr ⟨silent c (by simp), .never fun d early => silent d (by simp [early])⟩
    | @last before after d _ spoken silent =>
      rcases List.eq_nil_or_concat after with rfl | ⟨after, e, rfl⟩
      · obtain ⟨-, only⟩ := List.append_inj' whole rfl
        exact .inl (List.singleton_inj.mp only ▸ spoken)
      · rw [List.concat_eq_append, ← List.cons_append, ← List.append_assoc] at whole
        obtain ⟨rfl, only⟩ := List.append_inj' whole rfl
        obtain rfl := List.singleton_inj.mp only
        exact .inr ⟨silent c (by simp), .last spoken fun e early => silent e (by simp [early])⟩
  · rintro (spoken | ⟨silent, silent' | ⟨spoken, silent'⟩⟩)
    · exact .last spoken fun d present => absurd present List.not_mem_nil
    · refine .never fun d present => ?_
      rcases List.mem_append.mp present with early | now
      · exact silent' d early
      · exact List.mem_singleton.mp now ▸ silent
    · rw [List.append_assoc, List.cons_append]
      refine .last spoken fun d present => ?_
      rcases List.mem_append.mp present with early | now
      · exact silent' d early
      · exact List.mem_singleton.mp now ▸ silent

/-- What one change decides, a run of changes decides by the last of them. -/
theorem Decides.build {part : Settings → α} (h : Decides gives part) (changes : List Change) (a : α) :
    part (build changes) = a ↔ Decided gives (part standard) changes a := by
  induction changes using List.reverseRecOn generalizing a with
  | nil => exact decided_nil.symm
  | append_singleton changes c ih => rw [build_concat, h, decided_concat, ih]

end Decided

/-! ## Networks -/

section Networks

variable (n : Network) (networks : List Network)

theorem find?_putNetwork (chain : Chain) :
    Network.find? (putNetwork n networks) chain =
      if n.chain = chain then some n else Network.find? networks chain := by
  induction networks with
  | nil => by_cases same : n.chain = chain <;> simp [putNetwork, Network.find?, same]
  | cons m rest ih =>
    unfold putNetwork
    unfold Network.find? at ih ⊢
    by_cases replaced : m.chain = n.chain
    · by_cases same : n.chain = chain <;> simp [replaced, same]
    · rw [if_neg replaced, List.find?_cons, List.find?_cons, ih]
      -- The chain that is given a network is not that of `m`.
      by_cases first : m.chain = chain
      · have other : n.chain ≠ chain := fun same => replaced (first.trans same.symm)
        simp [first, other]
      · simp [first]

/-- A chain that comes up again keeps its place. -/
theorem chains_putNetwork :
    (putNetwork n networks).map (·.chain) =
      if n.chain ∈ networks.map (·.chain) then networks.map (·.chain)
      else networks.map (·.chain) ++ [n.chain] := by
  induction networks with
  | nil => simp [putNetwork]
  | cons m rest ih =>
    unfold putNetwork
    by_cases replaced : m.chain = n.chain
    · simp [replaced]
    · have skip : n.chain ∈ (m :: rest).map (·.chain) ↔ n.chain ∈ rest.map (·.chain) := by
        simp [Ne.symm replaced]
      rw [if_neg replaced, List.map_cons, ih]
      simp only [skip]
      split <;> rfl

end Networks

/-- The networks that are chosen. -/
def added (changes : List Change) : List Network :=
  changes.filterMap fun
    | .network n => some n
    | _ => none

theorem added_concat (changes : List Change) (c : Change) :
    added (changes ++ [c]) = added changes ++ added [c] := List.filterMap_append

theorem eraseDups_concat (chains : List Chain) (chain : Chain) :
    (chains ++ [chain]).eraseDups =
      if chain ∈ chains then chains.eraseDups else chains.eraseDups ++ [chain] := by
  rw [List.eraseDups_append]
  split <;> rename_i present <;> simp [List.removeAll, present, List.eraseDups_cons]

theorem nodup_eraseDups (chains : List Chain) : chains.eraseDups.Nodup := by
  induction chains using List.reverseRecOn with
  | nil => exact List.nodup_nil
  | append_singleton chains chain ih =>
    rw [eraseDups_concat]
    split
    · exact ih
    · rename_i fresh
      rw [← List.concat_eq_append]
      exact List.Nodup.concat (mt List.mem_eraseDups.mp fresh) ih

/-- The chains of the networks, in the order in which they come up first. -/
theorem chains_build (changes : List Change) :
    (build changes).networks.map (·.chain) =
      ((standard.networks ++ added changes).map (·.chain)).eraseDups := by
  induction changes using List.reverseRecOn with
  | nil => decide
  | append_singleton changes c ih =>
    rw [build_concat, added_concat]
    cases c with
    | network n =>
      show (putNetwork n (build changes).networks).map (·.chain) = _
      have last : (standard.networks ++ (added changes ++ added [.network n])).map (·.chain) =
          (standard.networks ++ added changes).map (·.chain) ++ [n.chain] := by
        simp [added]
      rw [chains_putNetwork, ih, last, eraseDups_concat]
      simp only [List.mem_eraseDups]
    | defaultChain | explorer | paymentKind =>
      exact ih.trans (by simp [added])

/-! ## The parts of the settings -/

/-- A change gives a chain a network. -/
def Change.Gives (chain : Chain) (c : Change) (found : Option Network) : Prop :=
  ∃ n, c = .network n ∧ n.chain = chain ∧ found = some n

theorem decides_network (chain : Chain) : Decides (Change.Gives chain) (·.network? chain) := by
  intro s c found
  cases c with
  | network n =>
    show Network.find? (putNetwork n s.networks) chain = found ↔ _
    rw [find?_putNetwork]
    by_cases same : n.chain = chain
    · simp [Change.Gives, same, eq_comm]
    · simp [Change.Gives, same, network?]
  | defaultChain | explorer | paymentKind => simp [Change.Gives, apply, network?]

theorem decides_defaultChain : Decides (fun c chain => c = .defaultChain chain) (·.defaultChain) := by
  intro s c chain
  cases c <;> simp [apply]

theorem decides_explorer : Decides (fun c access => c = .explorer access) (·.explorer) := by
  intro s c access
  cases c <;> simp [apply]

theorem decides_paymentKind :
    Decides (fun c kind => c = .paymentKind kind) (·.payment.defaultKind) := by
  intro s c kind
  cases c <;> simp [apply]

/-- Whether a change chooses a network. -/
def Change.isNetwork : Change → Bool
  | .network _ => true
  | _ => false

/-- Networks and all else are chosen independently. -/
theorem build_apart (changes : List Change) :
    build changes = { build (changes.filter (!·.isNetwork)) with
      networks := (build (changes.filter (·.isNetwork))).networks } := by
  induction changes using List.reverseRecOn with
  | nil => rfl
  | append_singleton changes c ih =>
    rw [build_concat, ih, List.filter_append, List.filter_append]
    cases c with
    | network n =>
      have rest : [Change.network n].filter (!·.isNetwork) = [] := rfl
      have chosen : [Change.network n].filter (·.isNetwork) = [.network n] := rfl
      rw [rest, chosen, List.append_nil, build_concat]
      rfl
    | defaultChain | explorer | paymentKind =>
      simp [Change.isNetwork, build_concat, apply]

/-! ## What is built -/

theorem mem_chains_build {changes : List Change} {chain : Chain} :
    (∃ n ∈ (build changes).networks, n.chain = chain) ↔
      ∃ n ∈ standard.networks ++ added changes, n.chain = chain := by
  rw [← List.mem_map, chains_build, List.mem_eraseDups, List.mem_map]

/-- After any choices, in any order: no chain has two networks; the network of a chain is the one
chosen for it last, or else the standard one, or none; the chains stand in the order in which they
come up first, those of the standard settings in front. Default chain, explorer and payment kind are
those chosen last, and neither they nor the networks depend on choices of the other sort. So a default
network is missing, in every environment, exactly if the default chain chosen last was neither given a
network nor has a standard one. -/
theorem build_of_choices (changes : List Change) :
    let s := build changes
    s.networks.Pairwise (·.chain ≠ ·.chain) ∧
    (∀ chain found, s.network? chain = found ↔
      Decided (Change.Gives chain) (standard.network? chain) changes found) ∧
    s.networks.map (·.chain) =
      ((standard.networks ++ added changes).map (·.chain)).eraseDups ∧
    (∀ chain, s.defaultChain = chain ↔
      Decided (fun c chain => c = .defaultChain chain) standard.defaultChain changes chain) ∧
    (∀ access, s.explorer = access ↔
      Decided (fun c access => c = .explorer access) standard.explorer changes access) ∧
    (∀ kind, s.payment.defaultKind = kind ↔
      Decided (fun c kind => c = .paymentKind kind) standard.payment.defaultKind changes kind) ∧
    s = { build (changes.filter (!·.isNetwork)) with
      networks := (build (changes.filter (·.isNetwork))).networks } ∧
    ∀ environment e, (Profile.mk s environment).defaultNetwork = .error e ↔
      ∃ chain, Decided (fun c chain => c = .defaultChain chain) standard.defaultChain changes chain ∧
        (∀ n ∈ standard.networks ++ added changes, n.chain ≠ chain) ∧ e = .networkMissing chain := by
  intro s
  refine ⟨?_, fun chain => (decides_network chain).build changes, chains_build changes,
    decides_defaultChain.build changes, decides_explorer.build changes,
    decides_paymentKind.build changes, build_apart changes, fun environment e => ?_⟩
  · rw [← List.pairwise_map, chains_build]
    exact nodup_eraseDups _
  · have present : (∃ n ∈ s.networks, n.chain = s.defaultChain) ↔
        ∃ n ∈ standard.networks ++ added changes, n.chain = s.defaultChain := mem_chains_build
    have missing : (∀ n ∈ s.networks, n.chain ≠ s.defaultChain) ↔
        ∀ n ∈ standard.networks ++ added changes, n.chain ≠ s.defaultChain := by
      simpa using not_congr present
    rw [Profile.defaultNetwork_eq_error_iff, missing]
    simp only [← decides_defaultChain.build changes, exists_eq_left']
    exact Iff.rfl

end EvmWallet.Settings
