import EvmWallet.Proofs.Portfolio.Notes
import Mathlib.Data.List.Forall2
import Mathlib.Data.List.Induction
import Mathlib.Data.Nat.Digits.Defs

/-!
# Balances, token by token

Fetching balances answers with the cached tokens, and finds each balance on its own: `Readable` says
when there is one and what it is, in terms of that token and of what its contract answers. One call is
made for each token whose address and owner can be read, in the order of the tokens. The main
statement is `balances_fetched`.
-/

namespace EvmWallet.Token

variable {World Client : Type}

/-! ## One answer -/

/-- The number that bytes spell, most significant first. -/
def bigEndian (bytes : List UInt8) : Nat := Nat.ofDigits 256 (bytes.reverse.map UInt8.toNat)

theorem addBytes_eq (bytes : List UInt8) : Bytes.addBytes 0 bytes = bigEndian bytes := by
  induction bytes using List.reverseRecOn with
  | nil => rfl
  | append_singleton bytes b ih =>
    rw [Bytes.addBytes_append, ih]
    simp [bigEndian, Bytes.addBytes, Nat.ofDigits_cons, Nat.add_comm]

theorem decodeBalance_eq_ok_iff {bytes : List UInt8} {raw : Bytes.Word} :
    Eth.decodeBalance bytes = .ok raw ↔
      32 ≤ bytes.length ∧ raw = BitVec.ofNat 256 (bigEndian (bytes.take 32)) := by
  unfold Eth.decodeBalance Bytes.word?
  rw [addBytes_eq]
  generalize BitVec.ofNat 256 (bigEndian (bytes.take 32)) = word
  by_cases long : 32 ≤ bytes.length
  · have filled : bytes.isEmpty = false := by
      rw [List.isEmpty_eq_false_iff_exists_mem]
      exact ⟨bytes[0], List.getElem_mem _⟩
    simp only [filled, long, true_and]
    simp [eq_comm]
  · simp only [long, false_and, iff_false]
    split <;> simp

/-- The balance of a token is `b`, if transactions are answered like this: owner and contract have
addresses, the contract answers with at least a word, and its first word is that many base units. -/
def Readable (answer : Eth.Transaction → Except Error (List UInt8)) (w : Wallet) (t : Token)
    (b : Decimal) : Prop :=
  ∃ owner contract bytes, Eth.Address.ofString w.address = .ok owner ∧
    Eth.Address.ofString t.address = .ok contract ∧
    answer (Eth.balanceTransaction owner contract) = .ok bytes ∧ 32 ≤ bytes.length ∧
    ofBaseUnits (BitVec.ofNat 256 (bigEndian (bytes.take 32))) t.decimals = .ok b

/-- The transaction that asks for the balance of a token, if owner and contract have addresses. -/
def balanceTransaction? (w : Wallet) (t : Token) : Option Eth.Transaction :=
  match Eth.Address.ofString w.address, Eth.Address.ofString t.address with
  | .ok owner, .ok contract => some (Eth.balanceTransaction owner contract)
  | _, _ => none

/-- The balance of a token, if transactions are answered like this. -/
def balanceBy (answer : Eth.Transaction → Except Error (List UInt8)) (w : Wallet) (t : Token) :
    Except Error Decimal :=
  match Eth.Address.ofString w.address, Eth.Address.ofString t.address with
  | .error e, _ => .error e
  | .ok _, .error e => .error e
  | .ok owner, .ok contract =>
    (answer (Eth.balanceTransaction owner contract)).bind fun bytes =>
      (Eth.decodeBalance bytes).bind (ofBaseUnits · t.decimals)

theorem bind_eq_ok_iff {α β : Type} {x : Except Error α} {f : α → Except Error β} {b : β} :
    x.bind f = .ok b ↔ ∃ a, x = .ok a ∧ f a = .ok b := by
  cases x <;> simp [Except.bind]

theorem balanceBy_eq_ok_iff {answer : Eth.Transaction → Except Error (List UInt8)} {w : Wallet}
    {t : Token} {b : Decimal} : balanceBy answer w t = .ok b ↔ Readable answer w t b := by
  unfold balanceBy Readable
  cases Eth.Address.ofString w.address with
  | error e => simp
  | ok owner =>
    cases Eth.Address.ofString t.address with
    | error e => simp
    | ok contract => simp [bind_eq_ok_iff, decodeBalance_eq_ok_iff, and_assoc]

/-! ## A list of tokens -/

/-- The servers answer a transaction in one way, whenever they are asked. -/
def Services.Answers (s : Services World Client)
    (answer : Client → Eth.Transaction → Except Error (List UInt8)) : Prop :=
  ∀ client t world, (s.call client t world).1 = answer client t

/-- The client and the transaction of a call. -/
def Request.call? : Request Client → Option (Client × Eth.Transaction)
  | .call client t => some (client, t)
  | _ => none

/-- The calls among requests. -/
def callsOf (notes : List (Note Client)) : List (Client × Eth.Transaction) :=
  notes.filterMap (·.request.call?)

/-- The calls that the balances of tokens need. -/
def callsFor (client : Option Client) (w : Wallet) (tokens : List Token) :
    List (Client × Eth.Transaction) :=
  client.elim [] fun c => (tokens.filterMap (balanceTransaction? w)).map (c, ·)

theorem callsOf_append (notes more : List (Note Client)) :
    callsOf (notes ++ more) = callsOf notes ++ callsOf more := List.filterMap_append

theorem callsFor_cons (client : Option Client) (w : Wallet) (t : Token) (rest : List Token) :
    callsFor client w (t :: rest) = callsFor client w [t] ++ callsFor client w rest := by
  cases client with
  | none => rfl
  | some c =>
    show List.map _ (List.filterMap _ ([t] ++ rest)) = _
    rw [List.filterMap_append, List.map_append]
    rfl

/-- A token with its balance, as a client reads it. -/
def heldBy (answer : Client → Eth.Transaction → Except Error (List UInt8)) (client : Option Client)
    (w : Wallet) (t : Token) : Holding :=
  ⟨t, client.bind fun c => (balanceBy (answer c) w t).toOption⟩

section Runs

variable {s : Services World Client}
  {answer : Client → Eth.Transaction → Except Error (List UInt8)} (answers : s.Answers answer)
  (w : Wallet)

include answers

theorem balance_runs (client : Client) (t : Token) (world : World) :
    ∃ world' newer,
      Runs (balance s client w t) (balance s.noted client w t) world (balanceBy (answer client) w t)
        world' newer ∧
      callsOf newer = callsFor (some client) w [t] := by
  unfold balance balanceBy callsFor balanceTransaction?
  cases Eth.Address.ofString w.address with
  | error e => exact ⟨world, [], .pure, by simp [callsOf]⟩
  | ok owner =>
    cases found : Eth.Address.ofString t.address with
    | error e => exact ⟨world, [], .pure, by simp [callsOf, found]⟩
    | ok contract =>
      have answered : s.call client (Eth.balanceTransaction owner contract) world =
          (answer client (Eth.balanceTransaction owner contract), _) :=
        Prod.ext (answers client _ world) rfl
      exact ⟨_, _, .bind (.request (.call client _) answered) .pure,
        by simp [callsOf, Request.call?, found]⟩

theorem holding_runs (client : Option Client) (t : Token) (world : World) :
    ∃ world' newer,
      Runs (holding s client w t) (holding s.noted client w t) world (heldBy answer client w t)
        world' newer ∧
      callsOf newer = callsFor client w [t] := by
  cases client with
  | none => exact ⟨world, [], .pure, rfl⟩
  | some client =>
    obtain ⟨world', newer, run, calls⟩ := balance_runs answers w client t world
    exact ⟨world', newer ++ [], .bind run .pure, by rw [List.append_nil, calls]⟩

theorem holdings_runs (client : Option Client) (tokens : List Token) (world : World) :
    ∃ world' newer,
      Runs (holdings s client w tokens) (holdings s.noted client w tokens) world
        (tokens.map (heldBy answer client w)) world' newer ∧
      callsOf newer = callsFor client w tokens := by
  induction tokens generalizing world with
  | nil => exact ⟨world, [], .pure, by cases client <;> rfl⟩
  | cons t rest ih =>
    obtain ⟨world₁, newer, first, called⟩ := holding_runs answers w client t world
    obtain ⟨world₂, newest, others, calledLater⟩ := ih world₁
    refine ⟨world₂, newer ++ (newest ++ []), .bind first (.bind others .pure), ?_⟩
    rw [callsOf_append, called, List.append_nil, calledLater, ← callsFor_cons]

end Runs

/-- A connection that is asked for its client calls no contract. -/
theorem obtain_runs (s : Services World Client) (networks : Board Network) (c : Connection Client)
    (world : World) :
    ∃ a world' newer, Runs (c.obtain s networks) (c.obtain s.noted networks) world a world' newer ∧
      callsOf newer = [] := by
  rcases c.current_or_lacks networks with ⟨client, has, current⟩ | lacks
  · exact ⟨_, _, _, obtain_keeps s world has current, rfl⟩
  · exact ⟨_, _, _, obtain_renews s world lacks, rfl⟩

/-! ## What a fetch gives -/

/-- A token with its balance, if transactions are answered like this; without a client none are. -/
def Shows (answer : Option (Eth.Transaction → Except Error (List UInt8))) (w : Wallet) (t : Token)
    (h : Holding) : Prop :=
  h.token = t ∧ ∀ b, h.balance = some b ↔ ∃ a, answer = some a ∧ Readable a w t b

theorem shows_heldBy (answer : Client → Eth.Transaction → Except Error (List UInt8))
    (client : Option Client) (w : Wallet) (t : Token) :
    Shows (client.map answer) w t (heldBy answer client w t) := by
  refine ⟨rfl, fun b => ?_⟩
  cases client with
  | none => simp [heldBy]
  | some c =>
    simp only [heldBy, Option.bind_some, Option.map_some, Option.some.injEq, exists_eq_left',
      ← balanceBy_eq_ok_iff]
    cases balanceBy (answer c) w t <;> simp [Except.toOption]

/-- The transaction that asks for a balance is answered alike. -/
def AnsweredAlike (answer answer' : Option (Eth.Transaction → Except Error (List UInt8)))
    (w : Wallet) (t : Token) : Prop :=
  ∀ transaction, balanceTransaction? w t = some transaction →
    answer.map (· transaction) = answer'.map (· transaction)

section Alike

variable {answer answer' : Option (Eth.Transaction → Except Error (List UInt8))} {w : Wallet}
  {t : Token} {h h' : Holding}

theorem AnsweredAlike.symm (alike : AnsweredAlike answer answer' w t) :
    AnsweredAlike answer' answer w t :=
  fun transaction asked => (alike transaction asked).symm

theorem AnsweredAlike.readable (alike : AnsweredAlike answer answer' w t) {b : Decimal}
    (shown : ∃ a, answer = some a ∧ Readable a w t b) :
    ∃ a, answer' = some a ∧ Readable a w t b := by
  obtain ⟨a, rfl, owner, contract, bytes, ofOwner, ofContract, answered, fits⟩ := shown
  have asked : balanceTransaction? w t = some (Eth.balanceTransaction owner contract) := by
    simp [balanceTransaction?, ofOwner, ofContract]
  have same := alike _ asked
  rw [Option.map_some, answered] at same
  obtain ⟨a', rfl, answered'⟩ := Option.map_eq_some_iff.mp same.symm
  exact ⟨a', rfl, owner, contract, bytes, ofOwner, ofContract, answered', fits⟩

/-- The balance of a token depends on the answer of its contract alone. -/
theorem AnsweredAlike.balance_eq (alike : AnsweredAlike answer answer' w t)
    (shown : Shows answer w t h) (shown' : Shows answer' w t h') : h.balance = h'.balance := by
  refine Option.ext fun b => ?_
  rw [shown.2, shown'.2]
  exact ⟨alike.readable, alike.symm.readable⟩

end Alike

/-- A fetch with these cached tokens and these answers can give these holdings. -/
inductive Fetches (w : Wallet) : List Token →
    Option (Eth.Transaction → Except Error (List UInt8)) → List Holding → Prop where
  | intro {World Client : Type} {s : Services World Client}
      {answer : Client → Eth.Transaction → Except Error (List UInt8)} (answers : s.Answers answer)
      {networks : Board Network} {c c' : Connection Client} {world world' : World}
      {tokens : List Token} (read : (s.cached w world).1 = .ok tokens) {all : List Holding}
      (run : fetchWithBalances s networks w c world = ((.ok all, c'), world')) :
      Fetches w tokens ((c.obtain s networks (s.cached w world).2).1.1.toOption.map answer) all

theorem fetch_runs {s : Services World Client}
    {answer : Client → Eth.Transaction → Except Error (List UInt8)} (answers : s.Answers answer)
    (networks : Board Network) (c : Connection Client) {w : Wallet} {world : World}
    {tokens : List Token} (read : (s.cached w world).1 = .ok tokens) :
    let client := (c.obtain s networks (s.cached w world).2).1.1.toOption
    ∃ c' world' newer,
      Runs (fetchWithBalances s networks w c) (fetchWithBalances s.noted networks w c) world
        (.ok (tokens.map (heldBy answer client w)), c') world' newer ∧
      callsOf newer = callsFor client w tokens := by
  intro client
  have cached : s.cached w world = (.ok tokens, (s.cached w world).2) := Prod.ext read rfl
  obtain ⟨⟨obtained, c'⟩, world₁, made, connected, quiet⟩ :=
    obtain_runs s networks c (s.cached w world).2
  -- Which client it is depends on the world after the cache was read.
  have same : obtained.toOption = client :=
    congrArg (fun r => r.1.1.toOption) connected.plain.symm
  obtain ⟨world₂, newer, shown, calls⟩ :=
    holdings_runs answers w obtained.toOption tokens world₁
  have run : Runs (fetchWithBalances s networks w c) (fetchWithBalances s.noted networks w c) world
      (.ok (tokens.map (heldBy answer obtained.toOption w)), c') world₂ _ :=
    .bind (.request (.cached w) cached) (.bind connected (.bind shown .pure))
  rw [same] at run calls
  refine ⟨c', world₂, _, run, ?_⟩
  rw [callsOf_append, callsOf_append, callsOf_append, quiet, calls]
  exact List.append_nil _

theorem Fetches.shows {w : Wallet} {tokens : List Token}
    {answer : Option (Eth.Transaction → Except Error (List UInt8))} {all : List Holding}
    (fetches : Fetches w tokens answer all) : List.Forall₂ (Shows answer w) tokens all := by
  cases fetches with
  | intro answers read run =>
    obtain ⟨c', world', newer, runs, -⟩ := fetch_runs answers _ _ read
    have same := Except.ok.inj (congrArg (fun r => r.1.1) (run.symm.trans runs.plain))
    rw [same, List.forall₂_map_right_iff]
    exact List.forall₂_same.mpr fun t _ => shows_heldBy _ _ w t

theorem shown_at {w : Wallet} {tokens : List Token} {all : List Holding}
    {answer : Option (Eth.Transaction → Except Error (List UInt8))}
    (shown : List.Forall₂ (Shows answer w) tokens all) {i : Nat} {t : Token}
    (here : tokens[i]? = some t) : ∃ h, all[i]? = some h ∧ Shows answer w t h := by
  induction shown generalizing i with
  | nil => simp at here
  | @cons u h _ _ first _ ih =>
    cases i with
    | zero => exact ⟨h, rfl, Option.some.inj here ▸ first⟩
    | succ i => exact ih here

/-- Fetching gives one holding for each cached token, in the order of the cache. A balance is known
exactly if it is readable through the client, whatever happens to the other tokens; so a token that
is answered alike in two fetches has one balance in both, whatever else they find in their caches
and wherever it stands. Each balance takes one call, if owner and contract have addresses, and
nothing is called without a client. -/
theorem balances_fetched {s : Services World Client}
    {answer : Client → Eth.Transaction → Except Error (List UInt8)} (answers : s.Answers answer)
    (networks : Board Network) (c : Connection Client) {w : Wallet} {world : World}
    {tokens : List Token} (read : (s.cached w world).1 = .ok tokens) :
    let out := fetchWithBalances s.noted networks w c (world, [])
    let client := (c.obtain s networks (s.cached w world).2).1.1.toOption
    fetchWithBalances s networks w c world = (out.1, out.2.1) ∧
      callsOf out.2.2 = callsFor client w tokens ∧
      ∃ all, out.1.1 = .ok all ∧ List.Forall₂ (Shows (client.map answer) w) tokens all ∧
        ∀ tokens' answer' all', Fetches w tokens' answer' all' → ∀ (i j : Nat) (t : Token),
          tokens[i]? = some t → tokens'[j]? = some t →
          AnsweredAlike (client.map answer) answer' w t →
          all[i]?.map Holding.balance = all'[j]?.map Holding.balance := by
  intro out client
  obtain ⟨c', world', newer, runs, calls⟩ := fetch_runs answers networks c read
  have run : out = ((.ok (tokens.map (heldBy answer client w)), c'), world', newer) := runs.noted []
  have shown := (Fetches.intro answers read runs.plain).shows
  rw [run]
  refine ⟨runs.plain, calls, _, rfl, shown, ?_⟩
  intro tokens' answer' all' fetches i j t here there alike
  obtain ⟨h, held, first⟩ := shown_at shown here
  obtain ⟨h', held', second⟩ := shown_at fetches.shows there
  rw [held, held']
  exact congrArg some (alike.balance_eq first second)

/-- Tokens of which the third has no address. -/
def fourTokens : List Token :=
  [⟨"0x00000000000000000000000000000000000000aa", "A", "", 2⟩,
    ⟨"0x00000000000000000000000000000000000000bb", "B", "", 2⟩, ⟨"cc", "C", "", 2⟩,
    ⟨"0x00000000000000000000000000000000000000dd", "D", "", 2⟩]

/-- Services with four tokens in their cache. The first contract answers one byte more than a word,
the second refuses, and others answer too little. -/
def patchy : Services Unit Unit where
  cached _ := pure (.ok fourTokens)
  put _ _ := pure (.ok ())
  delete _ _ := pure (.ok ())
  listed _ := pure (.ok [])
  connect _ := pure (.ok ())
  call _ t := pure <|
    match t.target.bytes.getLast? with
    | some 0xaa => .ok (List.replicate 31 0 ++ [150, 7])
    | some 0xbb => .error (.rpc "refused")
    | _ => .ok [150]

/-- Three contracts are called, and only the first token has a balance. -/
theorem balances_fetched_patchy :
    let networks : Board Network := .showing .ethereum
    let w : Wallet := ⟨"0x00000000000000000000000000000000000000ee"⟩
    let answer := fun (_ : Unit) (t : Eth.Transaction) => (patchy.call () t ()).1
    let out := fetchWithBalances patchy.noted networks w (.ofBoard networks) ((), [])
    patchy.Answers answer ∧ (patchy.cached w ()).1 = .ok fourTokens ∧
      (out.1.1.toOption.map (·.map fun h => h.balance.map fun b => (b.mantissa, b.scale))) =
        some [some (150, 2), none, none, none] ∧
      (callsOf out.2.2).length = 3 ∧ callsOf out.2.2 = callsFor (some ()) w fourTokens ∧
      ∃ all, out.1.1 = .ok all ∧ List.Forall₂ (Shows (some (answer ())) w) fourTokens all := by
  intro networks w answer out
  have answers : patchy.Answers answer := fun _ _ _ => rfl
  have read : (patchy.cached w ()).1 = .ok fourTokens := rfl
  obtain ⟨-, calls, all, given, shown, -⟩ :=
    balances_fetched answers networks (.ofBoard networks) read
  refine ⟨answers, read, by decide +kernel, by decide +kernel, ?_⟩
  have same : out = fetchWithBalances patchy.noted networks w (.ofBoard networks) ((), []) := rfl
  rw [same]
  exact ⟨calls, all, given, shown⟩

end EvmWallet.Token
