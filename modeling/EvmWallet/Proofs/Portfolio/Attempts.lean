import EvmWallet.Proofs.Portfolio.Balances
import EvmWallet.Proofs.Portfolio.Clients

/-!
# Attempts to make a client

A portfolio tries to have a client made when it fetches balances, and only then. Over every run whose
networks are not dropped, a fetch makes one attempt, for the network in use, if there was none before,
if the last one failed, or if another network was put to use since, also if the old one is in use again
(`Due`); and otherwise it makes none. After an attempt that fails there is no client: nothing is
called, no balance is known, and the next fetch makes an attempt again. The main statement is
`attempts_run`.
-/

namespace EvmWallet.Token

variable {World Client α β : Type}

/-! ## The ways a fetch can go -/

/-- Every run of an action notes only requests of a kind. -/
def OnlyNotes (P : Note Client → Prop) (m : StateM World α)
    (m' : StateM (World × List (Note Client)) α) : Prop :=
  ∀ world, ∃ a world' newer, Runs m m' world a world' newer ∧ ∀ note ∈ newer, P note

section OnlyNotes

variable {P : Note Client → Prop} {m : StateM World α} {m' : StateM (World × List (Note Client)) α}
  {f : α → StateM World β} {f' : α → StateM (World × List (Note Client)) β}

theorem OnlyNotes.pure {a : α} :
    OnlyNotes P (pure a : StateM World α) (pure a : StateM (World × List (Note Client)) α) :=
  fun world => ⟨a, world, [], .pure, fun _ mem => absurd mem List.not_mem_nil⟩

theorem OnlyNotes.bind (first : OnlyNotes P m m') (second : ∀ a, OnlyNotes P (f a) (f' a)) :
    OnlyNotes P (m >>= f) (m' >>= f') := by
  intro world
  obtain ⟨a, world₁, newer, run, only⟩ := first world
  obtain ⟨b, world₂, newest, run', only'⟩ := second a world₁
  refine ⟨b, world₂, newer ++ newest, .bind run run', fun note mem => ?_⟩
  rcases List.mem_append.mp mem with early | late
  · exact only note early
  · exact only' note late

theorem OnlyNotes.request {r : Request Client} {act : StateM World (Except Error α)}
    (kind : ∀ e, P ⟨r, e⟩) : OnlyNotes P act (annotated r act) :=
  fun _ => ⟨_, _, _, .request r rfl, fun _ mem => List.mem_singleton.mp mem ▸ kind _⟩

end OnlyNotes

/-- A call of the chain through a client. -/
def Note.Calls (client : Client) (n : Note Client) : Prop := ∃ t, n.request = .call client t

section Holdings

variable (s : Services World Client) (client : Client) (w : Wallet)

theorem balance_calls (t : Token) :
    OnlyNotes (Note.Calls client) (balance s client w t) (balance s.noted client w t) := by
  unfold balance
  split
  · exact .pure
  · exact .pure
  · exact .bind (.request fun e => ⟨_, rfl⟩) fun _ => .pure

/-- With a client, balances are read by calls through it. -/
theorem holdings_calls (tokens : List Token) :
    OnlyNotes (Note.Calls client) (holdings s (some client) w tokens)
      (holdings s.noted (some client) w tokens) := by
  induction tokens with
  | nil => exact .pure
  | cons t rest ih =>
    have first : OnlyNotes (Note.Calls client) (holding s (some client) w t)
        (holding s.noted (some client) w t) := .bind (balance_calls s client w t) fun _ => .pure
    exact .bind first fun _ => .bind ih fun _ => .pure

/-- Without a client nothing is asked, and no balance is known. -/
theorem holdings_none (tokens : List Token) :
    holdings s none w tokens = pure (tokens.map .unknown) := by
  induction tokens with
  | nil => rfl
  | cons t rest ih =>
    show (pure (Holding.unknown t) >>= fun h => holdings s none w rest >>= fun more =>
      pure (h :: more)) = _
    rw [ih]
    rfl

end Holdings

/-- How fetching balances can go: what it answers with, the connection that it leaves, and the notes
of its requests. -/
inductive Fetching (s : Services World Client) (networks : Board Network) (w : Wallet)
    (c : Connection Client) (world : World) :
    Except Error (List Holding) → Connection Client → List (Note Client) → Prop where
  | unread {e : Error} (read : (s.cached w world).1 = .error e) :
      Fetching s networks w c world (.error e) c [⟨.cached w, some e⟩]
  /-- The client that is there is used. -/
  | keeps {tokens : List Token} {client : Client} {all : List Holding} {calls : List (Note Client)}
      (read : (s.cached w world).1 = .ok tokens) (has : c.client = some client)
      (current : c.outdated networks = false) (through : ∀ n ∈ calls, n.Calls client) :
      Fetching s networks w c world (.ok all) c (⟨.cached w, none⟩ :: calls)
  /-- A client is made and used. -/
  | makes {tokens : List Token} {client : Client} {all : List Holding} {calls : List (Note Client)}
      (read : (s.cached w world).1 = .ok tokens)
      (lacks : c.client = none ∨ c.outdated networks = true)
      (through : ∀ n ∈ calls, n.Calls client) :
      Fetching s networks w c world (.ok all) ⟨networks.reader, some client⟩
        (⟨.cached w, none⟩ :: ⟨.connect networks.value, none⟩ :: calls)
  /-- No client can be made. -/
  | fails {tokens : List Token} {e : Error} (read : (s.cached w world).1 = .ok tokens)
      (lacks : c.client = none ∨ c.outdated networks = true) :
      Fetching s networks w c world (.ok (tokens.map .unknown)) ⟨networks.reader, none⟩
        [⟨.cached w, none⟩, ⟨.connect networks.value, some e⟩]

/-- Every fetch of balances goes one of the ways. -/
theorem fetching (s : Services World Client) (networks : Board Network) (c : Connection Client)
    (w : Wallet) (world : World) :
    ∃ answer c' world' newer, Runs (fetchWithBalances s networks w c)
        (fetchWithBalances s.noted networks w c) world (answer, c') world' newer ∧
      Fetching s networks w c world answer c' newer := by
  rcases read : s.cached w world with ⟨e | tokens, world₁⟩
  · exact ⟨_, _, _, _, .bind (.request (.cached w) read) .pure, .unread (congrArg Prod.fst read)⟩
  have read' : (s.cached w world).1 = .ok tokens := congrArg Prod.fst read
  -- What is left to do once the cache was read and the client was asked for.
  have rest {client : Except Error Client} {c' : Connection Client} {world₂ world₃ : World}
      {newer calls : List (Note Client)} {all : List Holding}
      (obtained : Runs (c.obtain s networks) (c.obtain s.noted networks) world₁ (client, c') world₂
        newer)
      (held : Runs (holdings s client.toOption w tokens) (holdings s.noted client.toOption w tokens)
        world₂ all world₃ calls) :
      Runs (fetchWithBalances s networks w c) (fetchWithBalances s.noted networks w c) world
        (.ok all, c') world₃ (⟨.cached w, none⟩ :: (newer ++ (calls ++ []))) :=
    .bind (.request (.cached w) read) (.bind obtained (.bind held .pure))
  rcases c.current_or_lacks networks with ⟨client, has, current⟩ | lacks
  · have obtained := obtain_keeps s world₁ has current
    obtain ⟨all, world₃, calls, held, through⟩ := holdings_calls s client w tokens world₁
    exact ⟨_, _, _, _, rest obtained held, .keeps read' has current (by simpa using through)⟩
  · have obtained := obtain_renews s world₁ lacks
    rcases made : s.connect networks.value world₁ with ⟨e | client, world₂⟩
    · rw [made] at obtained
      have held : Runs (holdings s none w tokens) (holdings s.noted none w tokens) world₂
          (tokens.map .unknown) world₂ [] := by
        rw [holdings_none, holdings_none]
        exact .pure
      exact ⟨_, _, _, _, rest obtained held, .fails read' lacks⟩
    · rw [made] at obtained
      obtain ⟨all, world₃, calls, held, through⟩ := holdings_calls s client w tokens world₂
      exact ⟨_, _, _, _, rest obtained held, .makes read' lacks (by simpa using through)⟩

/-! ## Attempts -/

/-- The network that a client is to be made for, and whether one is made. -/
def Note.attempt? (n : Note Client) : Option (Network × Bool) :=
  match n.request with
  | .connect network => some (network, n.error.isNone)
  | _ => none

/-- The attempts to make a client among requests, in order. -/
def attemptsOf (notes : List (Note Client)) : List (Network × Bool) := notes.filterMap Note.attempt?

@[simp] theorem attemptsOf_nil : attemptsOf ([] : List (Note Client)) = [] := rfl

@[simp] theorem attemptsOf_cached (w : Wallet) (e : Option Error) (notes : List (Note Client)) :
    attemptsOf (⟨.cached w, e⟩ :: notes) = attemptsOf notes := rfl

@[simp] theorem attemptsOf_connect (n : Network) (e : Option Error) (notes : List (Note Client)) :
    attemptsOf (⟨.connect n, e⟩ :: notes) = (n, e.isNone) :: attemptsOf notes := rfl

theorem attemptsOf_calls {client : Client} {notes : List (Note Client)}
    (through : ∀ n ∈ notes, n.Calls client) : attemptsOf notes = [] := by
  refine List.filterMap_eq_nil_iff.mpr fun n mem => ?_
  obtain ⟨t, calls⟩ := through n mem
  simp [Note.attempt?, calls]

/-- What matters for the client of a portfolio. -/
inductive Mark where
  /-- Another network than the one in use was put to use. -/
  | switched
  /-- There was an attempt to make a client of a network, which succeeded or not. -/
  | attempted (network : Network) (made : Bool)
  deriving DecidableEq

/-- A client is to be made, judging by the marks of a run, newest first: no attempt was made yet, the
last one failed, or another network was put to use since. -/
def Due (marks : List Mark) : Prop :=
  (∀ n made, .attempted n made ∉ marks) ∨
    ∃ newer n made older, marks = newer ++ .attempted n made :: older ∧
      (∀ n' made', .attempted n' made' ∉ newer) ∧ (made = false ∨ .switched ∈ newer)

theorem due_nil : Due [] := .inl fun _ _ => List.not_mem_nil

theorem due_attempted {n : Network} {made : Bool} {marks : List Mark} :
    Due (.attempted n made :: marks) ↔ made = false := by
  constructor
  · rintro (none | ⟨newer, n', made', older, split, last, fails⟩)
    · exact absurd List.mem_cons_self (none n made)
    · cases newer with
      | nil =>
        obtain ⟨same, -⟩ := List.cons.inj split
        obtain ⟨-, rfl⟩ := Mark.attempted.inj same
        exact fails.resolve_right List.not_mem_nil
      | cons m newer =>
        obtain ⟨rfl, -⟩ := List.cons.inj split
        exact absurd List.mem_cons_self (last n made)
  · rintro rfl
    exact .inr ⟨[], n, false, marks, rfl, fun _ _ => List.not_mem_nil, .inl rfl⟩

/-- Once another network is put to use a client is due, whatever was attempted before. -/
theorem due_switched (marks : List Mark) : Due (.switched :: marks) := by
  -- Either there was no attempt at all, or the last one is found behind some switches.
  induction marks with
  | nil => exact .inl fun n made => by simp
  | cons m marks ih =>
    cases m with
    | attempted n made =>
      exact .inr ⟨[.switched], n, made, marks, rfl, fun _ _ => by simp, .inr List.mem_cons_self⟩
    | switched =>
      rcases ih with none | ⟨newer, n, made, older, split, last, -⟩
      · exact .inl fun n made => by simpa using none n made
      · refine .inr ⟨.switched :: newer, n, made, older, ?_, fun n' made' => ?_,
          .inr List.mem_cons_self⟩
        · rw [split]
          rfl
        · simpa using last n' made'

namespace Portfolio

variable (s : Services World Client) (p : Portfolio World Client)

/-- What fetching the balances of a wallet gives, with a note of each request. -/
def noted (w : Wallet) :
    (Except Error (List Holding) × Connection Client) × World × List (Note Client) :=
  fetchWithBalances s.noted p.networks.current w p.connection (p.world, [])

/-- The attempts to make a client in fetching the balances of a wallet. -/
def attempts (w : Wallet) : List (Network × Bool) := attemptsOf (p.noted s w).2.2

/-- The marks after an act. A portfolio that is set up again has made no attempt. -/
def marked (marks : List Mark) : Act World → List Mark
  | .select n => if p.networks.selected = n then marks else .switched :: marks
  | .follow => []
  | .fetch w => (p.attempts s w).reverse.map (fun a => .attempted a.1 a.2) ++ marks
  | .drop | .elapse _ => marks

/-- The marks after acts in order. -/
def marks (p : Portfolio World Client) (before : List Mark) : List (Act World) → List Mark
  | [] => before
  | a :: acts => (p.act s a).marks (p.marked s before a) acts

/-- Notes leave a fetch as it is. -/
theorem noted_plain (w : Wallet) :
    fetchWithBalances s p.networks.current w p.connection p.world =
      ((p.noted s w).1, (p.noted s w).2.1) := by
  obtain ⟨answer, c, world, notes, run, -⟩ := fetching s p.networks.current p.connection w p.world
  have noted : p.noted s w = ((answer, c), world, notes) := run.noted []
  rw [noted]
  exact run.plain

/-- A fetch goes one of the ways, and the portfolio takes the connection that it leaves. -/
theorem fetching_act (w : Wallet) :
    Fetching s p.networks.current w p.connection p.world (p.noted s w).1.1
      (p.act s (.fetch w)).connection (p.noted s w).2.2 := by
  obtain ⟨answer, c, world, notes, run, way⟩ :=
    fetching s p.networks.current p.connection w p.world
  have noted : p.noted s w = ((answer, c), world, notes) := run.noted []
  have same := (p.fetched_unrecorded s w).symm.trans run.plain
  have connection : (p.act s (.fetch w)).connection = c := congrArg (fun out => out.1.2) same
  rw [noted, connection]
  exact way

variable {s p}

/-! ## A run -/

/-- A portfolio lacks a client exactly if one is due. -/
structure Accords (p : Portfolio World Client) (marks : List Mark) : Prop where
  unclosed : p.networks.current.closed = false
  behind : p.connection.reader.seen ≤ p.networks.current.posts
  lacks : (p.connection.client = none ∨ p.connection.outdated p.networks.current = true) ↔ Due marks

/-- A connection that has just looked lacks a client exactly if it has none. -/
theorem accords_of_looked {client : Option Client} {marks : List Mark}
    (unclosed : p.networks.current.closed = false)
    (connection : p.connection = ⟨p.networks.current.reader, client⟩)
    (due : client = none ↔ Due marks) : p.Accords marks := by
  have current : p.connection.reader.seen = p.networks.current.posts := by
    rw [connection]
    rfl
  refine ⟨unclosed, current.le, ?_⟩
  rw [Connection.outdated_iff unclosed, connection, ← due]
  exact or_iff_left fun other => other rfl

variable {marks : List Mark}

theorem Accords.select (h : p.Accords marks) (n : Network) :
    (p.act s (.select n)).Accords (p.marked s marks (.select n)) := by
  rw [act_select s p h.unclosed]
  simp only [marked]
  have behind := h.behind
  by_cases same : p.networks.selected = n
  · subst same
    rw [if_pos rfl, p.networks.select_selected]
    exact h
  · rw [if_neg same, Network.Selection.select_other same]
    have unclosed : (p.networks.current.post n).closed = false := h.unclosed
    refine ⟨unclosed, Nat.le_succ_of_le behind, iff_of_true (.inr ?_) (due_switched marks)⟩
    refine (Connection.outdated_iff unclosed).mpr ?_
    show p.connection.reader.seen ≠ p.networks.current.posts + 1
    omega

theorem Accords.fetch (h : p.Accords marks) (w : Wallet) :
    (p.act s (.fetch w)).Accords (p.marked s marks (.fetch w)) := by
  have way := p.fetching_act s w
  have unclosed : (p.act s (.fetch w)).networks.current.closed = false := h.unclosed
  simp only [marked, Portfolio.attempts]
  generalize (p.noted s w).2.2 = notes at way
  generalize (p.noted s w).1.1 = answer at way
  generalize connection : (p.act s (.fetch w)).connection = c at way
  -- Without an attempt neither side has changed.
  have idle (none : attemptsOf notes = []) (same : c = p.connection) :
      (p.act s (.fetch w)).Accords
        ((attemptsOf notes).reverse.map (fun a => .attempted a.1 a.2) ++ marks) := by
    rw [none]
    refine ⟨unclosed, ?_, ?_⟩
    · rw [connection, same]
      exact h.behind
    · rw [connection, same]
      exact h.lacks
  cases way with
  | unread read => exact idle rfl rfl
  | keeps read has current through =>
    exact idle ((attemptsOf_cached w none _).trans (attemptsOf_calls through)) rfl
  | makes read lacks through =>
    exact accords_of_looked unclosed connection (by simp [attemptsOf_calls through, due_attempted])
  | fails read lacks =>
    exact accords_of_looked unclosed connection (by simp [due_attempted])

theorem Accords.act (h : p.Accords marks) {a : Act World} (alive : a ≠ .drop) :
    (p.act s a).Accords (p.marked s marks a) := by
  cases a with
  | select n => exact h.select n
  | drop => exact absurd rfl alive
  | follow =>
    have followed : p.act s .follow = { p with connection := .ofBoard p.networks.current } :=
      if_neg (by simp [h.unclosed])
    rw [followed]
    exact accords_of_looked h.unclosed rfl (by simp [marked, due_nil])
  | elapse change => exact ⟨h.unclosed, h.behind, h.lacks⟩
  | fetch w => exact h.fetch w

theorem Accords.after (h : p.Accords marks) {acts : List (Act World)} (alive : .drop ∉ acts) :
    (p.after s acts).Accords (p.marks s marks acts) := by
  induction acts generalizing p marks with
  | nil => exact h
  | cons a acts ih =>
    obtain ⟨now, later⟩ := not_or.mp (mt List.mem_cons.mpr alive)
    exact ih (h.act (Ne.symm now)) later

theorem accords_start (first : Network) (available : List Network) (world : World) :
    (start first available world : Portfolio World Client).Accords [] :=
  accords_of_looked rfl rfl (by simp [due_nil])

/-- Only a fetch can bring it about that no client is due. -/
theorem due_marked (due : Due marks) {a : Act World} (other : ∀ w, a ≠ .fetch w) :
    Due (p.marked s marks a) := by
  cases a with
  | select n =>
    simp only [marked]
    split
    · exact due
    · exact due_switched marks
  | drop | elapse change => exact due
  | follow => exact due_nil
  | fetch w => exact absurd rfl (other w)

theorem due_marks (due : Due marks) {acts : List (Act World)} (quiet : ∀ w, .fetch w ∉ acts) :
    Due (p.marks s marks acts) := by
  induction acts generalizing p marks with
  | nil => exact due
  | cons a acts ih =>
    refine ih (due_marked due fun w same => ?_) fun w mem => ?_
    · exact quiet w (same ▸ List.mem_cons_self)
    · exact quiet w (List.mem_cons_of_mem a mem)

/-! ## Attempts of a run -/

/-- What a fetch attempts to make: one client for the network in use if it is due, and none otherwise;
and where the attempt fails, what becomes of the fetch. -/
theorem Accords.attempts (h : p.Accords marks) {w : Wallet} {tokens : List Token}
    (read : (s.cached w p.world).1 = .ok tokens) :
    (Due marks → ∃ made, p.attempts s w = [(p.networks.selected, made)]) ∧
      (¬Due marks → p.attempts s w = []) ∧
      ∀ n, (n, false) ∈ p.attempts s w →
        callsOf (p.noted s w).2.2 = [] ∧ (p.noted s w).1.1 = .ok (tokens.map .unknown) ∧
          (p.act s (.fetch w)).connection.client = none := by
  have way := p.fetching_act s w
  unfold Portfolio.attempts
  rw [← h.lacks]
  generalize (p.noted s w).2.2 = notes at way ⊢
  generalize (p.noted s w).1.1 = answer at way ⊢
  generalize (p.act s (.fetch w)).connection = c at way ⊢
  cases way with
  | unread failed => exact absurd (read.symm.trans failed) (by simp)
  | keeps read' has current through =>
    rw [attemptsOf_cached, attemptsOf_calls through]
    refine ⟨fun lacks => ?_, fun _ => rfl, fun n mem => absurd mem List.not_mem_nil⟩
    rcases lacks with none | old
    · exact absurd (none.symm.trans has) (by simp)
    · exact absurd (old.symm.trans current) (by simp)
  | makes read' lacks through =>
    rw [attemptsOf_cached, attemptsOf_connect, attemptsOf_calls through]
    exact ⟨fun _ => ⟨true, rfl⟩, fun keeps => absurd lacks keeps, fun n mem => by simp at mem⟩
  | @fails tokens' e read' lacks =>
    obtain rfl : tokens = tokens' := Except.ok.inj (read.symm.trans read')
    exact ⟨fun _ => ⟨false, rfl⟩, fun keeps => absurd lacks keeps, fun _ _ => ⟨rfl, rfl, rfl⟩⟩

/-- In every run in which the networks are not dropped, whatever the services do: a fetch that can read
the cache makes exactly one attempt to have a client made, for the network that was put to use last, if
one is due, and none otherwise. Where the attempt fails, no contract is called, no balance is known, no
client is kept, and the next fetch, whatever happens before it, makes an attempt again. -/
theorem attempts_run (s : Services World Client) (first : Network) (available : List Network)
    (world : World) (acts : List (Act World)) (alive : .drop ∉ acts) (w : Wallet)
    {tokens : List Token}
    (read : (s.cached w ((start first available world).after s acts).world).1 = .ok tokens) :
    let started := start first available world
    let p := started.after s acts
    fetchWithBalances s p.networks.current w p.connection p.world =
        ((p.noted s w).1, (p.noted s w).2.1) ∧
      (Due (started.marks s [] acts) → ∃ made, p.attempts s w = [(lastSelected first acts, made)]) ∧
      (¬Due (started.marks s [] acts) → p.attempts s w = []) ∧
      ∀ n, (n, false) ∈ p.attempts s w →
        callsOf (p.noted s w).2.2 = [] ∧ (p.noted s w).1.1 = .ok (tokens.map .unknown) ∧
          (p.act s (.fetch w)).connection.client = none ∧
          ∀ more, .drop ∉ more → (∀ w', .fetch w' ∉ more) → ∀ w' tokens',
            (s.cached w' ((p.act s (.fetch w)).after s more).world).1 = .ok tokens' →
              ∃ made, ((p.act s (.fetch w)).after s more).attempts s w' =
                [(lastSelected first (acts ++ .fetch w :: more), made)] := by
  intro started p
  have selected (acts : List (Act World)) : (started.after s acts).networks.selected =
      lastSelected first acts := selected_after s started rfl acts
  have accords : p.Accords (started.marks s [] acts) :=
    (accords_start first available world).after alive
  obtain ⟨due, idle, failed⟩ := accords.attempts read
  rw [selected] at due
  refine ⟨p.noted_plain s w, due, idle, fun n mem => ?_⟩
  obtain ⟨uncalled, unknown, none⟩ := failed n mem
  refine ⟨uncalled, unknown, none, fun more alive' quiet w' tokens' read' => ?_⟩
  have fetched := accords.act (s := s) (a := .fetch w) (by simp)
  have lacking := due_marks (s := s) (p := p.act s (.fetch w)) (fetched.lacks.mp (.inl none)) quiet
  have again := ((fetched.after alive').attempts read').1 lacking
  have whole : (p.act s (.fetch w)).after s more = started.after s (acts ++ .fetch w :: more) :=
    (started.after_append s acts (.fetch w :: more)).symm
  rw [whole, selected] at again
  rw [whole]
  exact again

/-- Services of a wallet with one token, whose world is a script of whether clients can be made. -/
def scripted : Services (List Bool) Unit where
  cached _ := pure (.ok [⟨"0x00000000000000000000000000000000000000aa", "A", "A", 0⟩])
  put _ _ := pure (.ok ())
  delete _ _ := pure (.ok ())
  listed _ := pure (.ok [])
  connect _ := fun script =>
    (if script.head? = some true then .ok () else .error (.network "no client"), script.tail)
  call _ _ := pure (.ok (List.replicate 32 0))

/-- A client is made, another network is put to use and the first one again: the next fetch makes an
attempt for the first one. It fails, and the fetch after the next switch makes another attempt. -/
theorem attempts_run_switched_back :
    let w : Wallet := ⟨"0x00000000000000000000000000000000000000bb"⟩
    let started : Portfolio (List Bool) Unit := start .ethereum [] [true, false, true]
    let acts := [.fetch w, .select .polygon, .select .ethereum]
    let p := started.after scripted acts
    let q := (p.act scripted (.fetch w)).after scripted [.select .polygon]
    (.drop ∉ acts ∧ Due (started.marks scripted [] acts)) ∧
      p.attempts scripted w = [(.ethereum, false)] ∧
      (p.noted scripted w).1.1.toOption.map (·.map Holding.balance) = some [none] ∧
      callsOf (p.noted scripted w).2.2 = [] ∧ ∃ made, q.attempts scripted w = [(.polygon, made)] := by
  intro w started acts p q
  have alive : .drop ∉ acts := by simp [acts]
  -- The cache is read whatever is left of the script.
  have read (script : List Bool) : (scripted.cached w script).1 =
      .ok [⟨"0x00000000000000000000000000000000000000aa", "A", "A", 0⟩] := rfl
  obtain ⟨-, due, -, failed⟩ :=
    attempts_run scripted .ethereum [] [true, false, true] acts alive w (read _)
  have marks : started.marks scripted [] acts =
      [.switched, .switched, .attempted .ethereum true] := by decide +kernel
  have now : Due (started.marks scripted [] acts) := marks ▸ due_switched _
  obtain ⟨made, attempt⟩ := due now
  have refused : made = false := by
    have attempts : p.attempts scripted w = [(.ethereum, false)] := by decide +kernel
    exact (Prod.mk.inj (List.cons.inj (attempt.symm.trans attempts)).1).2
  subst refused
  obtain ⟨uncalled, unknown, -, again⟩ := failed .ethereum (attempt ▸ List.mem_singleton.mpr rfl)
  have later := again [.select .polygon] (by simp) (by simp) w _ (read _)
  refine ⟨⟨alive, now⟩, attempt, ?_, ?_, later⟩
  · rw [unknown]
    rfl
  · dsimp only [p, started]
    exact uncalled

end Portfolio

end EvmWallet.Token
