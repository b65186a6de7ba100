import EvmWallet.Proofs.Portfolio.Requests

/-!
# How requests were answered

Any request of a portfolio may be refused, and what it leaves depends on which ones were.
`Services.noted` keeps a note of each request with the error that it failed with. `Runs` tells for one
run of an action what it answers and what it notes, and that it does the same without notes; there is
a rule for `pure`, one for `>>=` and one for a request. `Refreshes` lists the ways in which a refresh
can go, and every refresh goes one of them (`refresh_runs`).
-/

namespace EvmWallet.Token

variable {World Client α β : Type}

/-! ## Notes -/

/-- A request, and the error that it failed with, if it did. -/
structure Note (Client : Type) where
  request : Request Client
  error : Option Error

/-- The error of an answer. -/
def failure? : Except Error α → Option Error
  | .ok _ => none
  | .error e => some e

/-- Lets the world answer a request, and notes how it did. -/
def annotated (r : Request Client) (act : StateM World (Except Error α)) :
    StateM (World × List (Note Client)) (Except Error α) :=
  fun (world, notes) =>
    let (a, world) := act world
    (a, (world, notes ++ [⟨r, failure? a⟩]))

/-- The same services, with a note of each request. -/
def Services.noted (s : Services World Client) : Services (World × List (Note Client)) Client where
  cached w := annotated (.cached w) (s.cached w)
  put w t := annotated (.put w t) (s.put w t)
  delete w t := annotated (.delete w t) (s.delete w t)
  listed address := annotated (.listed address) (s.listed address)
  connect n := annotated (.connect n) (s.connect n)
  call client t := annotated (.call client t) (s.call client t)

/-- A run of an action, with its answer and the world that it leaves. With notes it is the same run,
and these are added. -/
structure Runs (m : StateM World α) (m' : StateM (World × List (Note Client)) α) (world : World)
    (a : α) (world' : World) (newer : List (Note Client)) : Prop where
  plain : m world = (a, world')
  noted : ∀ notes, m' (world, notes) = (a, world', notes ++ newer)

section Runs

variable {m : StateM World α} {m' : StateM (World × List (Note Client)) α} {f : α → StateM World β}
  {f' : α → StateM (World × List (Note Client)) β} {a : α} {b : β} {world world₁ world₂ : World}
  {newer newest : List (Note Client)}

theorem Runs.pure : Runs (pure a) (pure a) world a world ([] : List (Note Client)) :=
  ⟨rfl, fun notes => congrArg (fun n => (a, world, n)) (List.append_nil notes).symm⟩

theorem Runs.bind (first : Runs m m' world a world₁ newer)
    (second : Runs (f a) (f' a) world₁ b world₂ newest) :
    Runs (m >>= f) (m' >>= f') world b world₂ (newer ++ newest) := by
  constructor
  · show f (m world).1 (m world).2 = _
    rw [first.plain]
    exact second.plain
  · intro notes
    show f' (m' (world, notes)).1 (m' (world, notes)).2 = _
    rw [first.noted, ← List.append_assoc]
    exact second.noted _

theorem Runs.request {act : StateM World (Except Error α)} {a : Except Error α} (r : Request Client)
    (answer : act world = (a, world₁)) :
    Runs act (annotated r act) world a world₁ [⟨r, failure? a⟩] := by
  refine ⟨answer, fun notes => ?_⟩
  show ((act world).1, (act world).2, notes ++ [⟨r, failure? (act world).1⟩]) = _
  rw [answer]

end Runs

/-! ## One token after the other -/

/-- Asks for something of each token, and tells how each time went. -/
def askEach (ask : Token → StateM World (Except Error Unit)) :
    List Token → StateM World (List (Token × Option Error))
  | [] => pure []
  | t :: rest => do
    let answer ← ask t
    let more ← askEach ask rest
    return (t, failure? answer) :: more

theorem askEach_cons (ask : Token → StateM World (Except Error Unit)) (t : Token) (rest : List Token)
    (world : World) :
    askEach ask (t :: rest) world =
      ((t, failure? (ask t world).1) :: (askEach ask rest (ask t world).2).1,
        (askEach ask rest (ask t world).2).2) := rfl

/-- Each token is asked for once, in order. -/
theorem map_fst_of_askEach {ask : Token → StateM World (Except Error Unit)} {tokens : List Token}
    {world world' : World} {outcomes : List (Token × Option Error)}
    (run : askEach ask tokens world = (outcomes, world')) : outcomes.map Prod.fst = tokens := by
  induction tokens generalizing world outcomes with
  | nil => exact congrArg (List.map Prod.fst) (congrArg Prod.fst run).symm
  | cons t rest ih =>
    rw [askEach_cons] at run
    obtain ⟨rfl, rfl⟩ := Prod.mk.inj run
    exact congrArg (t :: ·) (ih rfl)

/-- The tokens of which something was granted. -/
def granted (outcomes : List (Token × Option Error)) : List Token :=
  (outcomes.filter (·.2.isNone)).map Prod.fst

/-- The tokens of which something was refused. -/
def refused (outcomes : List (Token × Option Error)) : List Token :=
  (outcomes.filter (·.2.isSome)).map Prod.fst

/-- The note of a token that was put. -/
def Note.put (w : Wallet) (outcome : Token × Option Error) : Note Client :=
  ⟨.put w outcome.1, outcome.2⟩

/-- The note of a token that was deleted. -/
def Note.delete (w : Wallet) (outcome : Token × Option Error) : Note Client :=
  ⟨.delete w outcome.1, outcome.2⟩

section Each

variable (s : Services World Client) (w : Wallet) (tokens : List Token) (world : World)

theorem length_granted_cons (t : Token) (answer : Except Error Unit)
    (more : List (Token × Option Error)) :
    (granted ((t, failure? answer) :: more)).length =
      (if answer.isOk then 1 else 0) + (granted more).length := by
  cases answer with
  | ok taken => exact Nat.add_comm _ 1
  | error e => exact (Nat.zero_add _).symm

theorem store_runs :
    let out := askEach (s.put w) tokens world
    Runs (store s w tokens) (store s.noted w tokens) world (granted out.1).length out.2
      (out.1.map (Note.put w)) := by
  induction tokens generalizing world with
  | nil => exact .pure
  | cons t rest ih =>
    have run : Runs (store s w (t :: rest)) (store s.noted w (t :: rest)) world _ _ _ :=
      .bind (.request (.put w t) rfl) (.bind (ih (s.put w t world).2) .pure)
    rw [List.append_nil, ← length_granted_cons] at run
    exact run

theorem discard_runs :
    let out := askEach (s.delete w) tokens world
    Runs (discard s w tokens) (discard s.noted w tokens) world () out.2
      (out.1.map (Note.delete w)) := by
  induction tokens generalizing world with
  | nil => exact .pure
  | cons t rest ih =>
    have run : Runs (discard s w (t :: rest)) (discard s.noted w (t :: rest)) world _ _ _ :=
      .bind (.request (.delete w t) rfl) (ih (s.delete w t world).2)
    exact run

end Each

/-! ## Asking for a client -/

section Obtain

variable (s : Services World Client) {networks : Board Network} {c : Connection Client}
  (world : World)

/-- A connection with a client that is not outdated keeps it. -/
theorem obtain_keeps {client : Client} (has : c.client = some client)
    (current : c.outdated networks = false) :
    Runs (c.obtain s networks) (c.obtain s.noted networks) world (.ok client, c) world [] := by
  rw [c.obtain_of_current s has current, c.obtain_of_current s.noted has current]
  exact .pure

/-- A connection that lacks a client has one made, or is left without. -/
theorem obtain_renews (lacks : c.client = none ∨ c.outdated networks = true) :
    let made := s.connect networks.value world
    Runs (c.obtain s networks) (c.obtain s.noted networks) world
      (made.1, ⟨networks.reader, made.1.toOption⟩) made.2
      [⟨.connect networks.value, failure? made.1⟩] := by
  intro made
  rw [c.obtain_of_lacks s lacks, c.obtain_of_lacks s.noted lacks]
  have asked : Runs (s.connect networks.value) (s.noted.connect networks.value) world made.1 made.2
      [⟨.connect networks.value, failure? made.1⟩] := .request (.connect networks.value) rfl
  exact .bind asked .pure

end Obtain

/-! ## Refreshing -/

/-- How a refresh can go: what it answers, the world that it leaves, and the notes of its requests. -/
inductive Refreshes (s : Services World Client) (w : Wallet) (world : World) :
    Except Error Nat → World → List (Note Client) → Prop where
  /-- The explorer gives no list. -/
  | unlisted {e : Error} {world₁ : World} (list : s.listed w.address world = (.error e, world₁)) :
      Refreshes s w world (.error e) world₁ [⟨.listed w.address, some e⟩]
  /-- What is listed was put, and then the cache cannot be read. -/
  | unread {listed : List Token} {puts : List (Token × Option Error)} {e : Error}
      {world₁ world₂ world₃ : World} (list : s.listed w.address world = (.ok listed, world₁))
      (put : askEach (s.put w) listed world₁ = (puts, world₂))
      (read : s.cached w world₂ = (.error e, world₃)) :
      Refreshes s w world (.error e) world₃
        (⟨.listed w.address, none⟩ :: puts.map (Note.put w) ++ [⟨.cached w, some e⟩])
  /-- What is listed was put, and what the cache holds besides was deleted. -/
  | done {listed cached : List Token} {puts deletes : List (Token × Option Error)}
      {world₁ world₂ world₃ world₄ : World}
      (list : s.listed w.address world = (.ok listed, world₁))
      (put : askEach (s.put w) listed world₁ = (puts, world₂))
      (read : s.cached w world₂ = (.ok cached, world₃))
      (delete : askEach (s.delete w) (stale listed cached) world₃ = (deletes, world₄)) :
      Refreshes s w world (.ok (granted puts).length) world₄
        (⟨.listed w.address, none⟩ :: puts.map (Note.put w) ++
          ⟨.cached w, none⟩ :: deletes.map (Note.delete w))

/-- Every refresh goes one of the ways. -/
theorem refresh_runs (s : Services World Client) (w : Wallet) (world : World) :
    ∃ a world' newer, Runs (refresh s w) (refresh s.noted w) world a world' newer ∧
      Refreshes s w world a world' newer := by
  -- Only the list and the second reading of the cache can end a refresh early.
  rcases list : s.listed w.address world with ⟨e | listed, world₁⟩
  · exact ⟨_, _, _, .bind (.request (.listed w.address) list) .pure, .unlisted list⟩
  · have stored := store_runs s w listed world₁
    rcases put : askEach (s.put w) listed world₁ with ⟨puts, world₂⟩
    rw [put] at stored
    rcases read : s.cached w world₂ with ⟨e | cached, world₃⟩
    · exact ⟨_, _, _, .bind (.request (.listed w.address) list)
        (.bind stored (.bind (.request (.cached w) read) .pure)), .unread list put read⟩
    · have discarded := discard_runs s w (stale listed cached) world₃
      rcases delete : askEach (s.delete w) (stale listed cached) world₃ with ⟨deletes, world₄⟩
      rw [delete] at discarded
      have run : Runs (refresh s w) (refresh s.noted w) world _ _ _ :=
        .bind (.request (.listed w.address) list)
          (.bind stored (.bind (.request (.cached w) read) (.bind discarded .pure)))
      rw [List.append_nil] at run
      exact ⟨_, _, _, run, .done list put read delete⟩

end EvmWallet.Token
