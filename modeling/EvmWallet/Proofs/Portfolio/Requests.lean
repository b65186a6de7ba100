import EvmWallet.Token.Portfolio

/-!
# What a portfolio asks

The services of a portfolio may do anything, so what it does is told by the requests that it makes.
`Asks` bounds the requests that an action records, and `Tracks` compares the actions of two worlds.
Both go through an action line by line: there is a rule for `pure`, one for `>>=` and one for a
request, and from them one lemma for each action of a portfolio.
-/

namespace EvmWallet.Token

variable {World World' Client Client' α α' β β' : Type}

/-! ## The requests of an action -/

/-- A request through another client. -/
def Request.map (f : Client → Client') : Request Client → Request Client'
  | .cached w => .cached w
  | .put w t => .put w t
  | .delete w t => .delete w t
  | .listed address => .listed address
  | .connect n => .connect n
  | .call client t => .call (f client) t

/-- A request that calls the chain only through clients of a kind. -/
def Request.Through (C : Client → Prop) : Request Client → Prop
  | .call client _ => C client
  | _ => True

/-- An action records only requests of a kind, and its result is of a kind. -/
def Asks (P : Request Client → Prop) (Q : α → Prop)
    (m : StateM (World × List (Request Client)) α) : Prop :=
  ∀ world log, ∃ newer, (m (world, log)).2.2 = log ++ newer ∧ (∀ r ∈ newer, P r) ∧
    Q (m (world, log)).1

section Asks

variable {P : Request Client → Prop} {Q : α → Prop} {R : β → Prop}

theorem Asks.pure {a : α} (result : Q a) :
    Asks P Q (pure a : StateM (World × List (Request Client)) α) := by
  intro world log
  exact ⟨[], (List.append_nil log).symm, fun r hr => absurd hr List.not_mem_nil, result⟩

theorem Asks.bind {m : StateM (World × List (Request Client)) α}
    {f : α → StateM (World × List (Request Client)) β} (first : Asks P Q m)
    (second : ∀ a, Q a → Asks P R (f a)) : Asks P R (m >>= f) := by
  intro world log
  obtain ⟨newer, grown, asked, result⟩ := first world log
  obtain ⟨newest, grown', asked', result'⟩ :=
    second _ result (m (world, log)).2.1 (m (world, log)).2.2
  refine ⟨newer ++ newest, ?_, ?_, result'⟩
  · rw [← List.append_assoc, ← grown]
    exact grown'
  · intro r hr
    rcases List.mem_append.mp hr with early | late
    · exact asked r early
    · exact asked' r late

theorem Asks.recorded {r : Request Client} {act : StateM World α} (asked : P r)
    (result : ∀ world, Q (act world).1) : Asks P Q (Services.recorded r act) := by
  intro world log
  exact ⟨[r], rfl, fun r' hr => List.mem_singleton.mp hr ▸ asked, result world⟩

end Asks

/-- What becomes of a connection that is asked for its client. -/
inductive Connection.Leads (s : Services World Client) (networks : Board Network)
    (c : Connection Client) : Connection Client → Prop where
  | keeps {client : Client} (has : c.client = some client) (current : c.outdated networks = false) :
      Leads s networks c c
  | renews (lacks : c.client = none ∨ c.outdated networks = true) (world : World) :
      Leads s networks c ⟨networks.reader, (s.connect networks.value world).1.toOption⟩

section Through

variable {C : Client → Prop} (s : Services World Client) (networks : Board Network) (w : Wallet)

theorem asks_balance {client : Client} (through : C client) (t : Token) :
    Asks (Request.Through C) (fun _ => True) (balance s.logged client w t) := by
  unfold balance
  split
  · exact .pure trivial
  · exact .pure trivial
  · exact .bind (Q := fun _ => True) (.recorded through fun _ => trivial) fun _ _ => .pure trivial

theorem asks_holding {client : Option Client} (through : ∀ c, client = some c → C c) (t : Token) :
    Asks (Request.Through C) (fun _ => True) (holding s.logged client w t) := by
  unfold holding
  cases client with
  | none => exact .pure trivial
  | some client => exact .bind (asks_balance s w (through client rfl) t) fun _ _ => .pure trivial

theorem asks_holdings {client : Option Client} (through : ∀ c, client = some c → C c)
    (tokens : List Token) :
    Asks (Request.Through C) (fun _ => True) (holdings s.logged client w tokens) := by
  induction tokens with
  | nil => exact .pure trivial
  | cons t rest ih =>
    exact .bind (asks_holding s w through t) fun _ _ => .bind ih fun _ _ => .pure trivial

/-- A connection that is asked for its client keeps what it has, or has one made. -/
theorem asks_obtain (c : Connection Client) :
    Asks (Request.Through C)
      (fun result => result.1.toOption = result.2.client ∧ c.Leads s networks result.2)
      (c.obtain s.logged networks) := by
  rcases c.current_or_lacks networks with ⟨client, has, current⟩ | lacks
  · rw [c.obtain_of_current s.logged has current]
    exact .pure ⟨has.symm, .keeps has current⟩
  · rw [c.obtain_of_lacks s.logged lacks]
    refine .bind (Q := fun client => ∃ world, client = (s.connect networks.value world).1)
      (.recorded trivial fun world => ⟨world, rfl⟩) ?_
    rintro client ⟨world, rfl⟩
    exact .pure ⟨rfl, .renews lacks world⟩

theorem asks_fetch (c : Connection Client)
    (through : ∀ c', c.Leads s networks c' → ∀ client, c'.client = some client → C client) :
    Asks (Request.Through C) (fun result => result.2 = c ∨ c.Leads s networks result.2)
      (fetchWithBalances s.logged networks w c) := by
  refine .bind (Q := fun _ => True) (.recorded trivial fun _ => trivial) fun tokens _ => ?_
  cases tokens with
  | error e => exact .pure (.inl rfl)
  | ok tokens =>
    -- Through whom the chain is called is known only once the client was asked for.
    refine .bind (asks_obtain s networks c) ?_
    rintro ⟨client, c'⟩ ⟨same, leads⟩
    refine .bind (asks_holdings s w (fun client has => ?_) tokens) fun _ _ => .pure (.inr leads)
    exact through c' leads client (same.symm.trans has)

end Through

/-! ## Comparing worlds -/

/-- The client of a connection, seen as another. -/
def Connection.map (f : Client → Client') (c : Connection Client) : Connection Client' :=
  ⟨c.reader, c.client.map f⟩

theorem Connection.map_id : Connection.map (id : Client → Client) = id := by
  funext c
  obtain ⟨reader, client⟩ := c
  cases client <;> rfl

/-- One action does with what is seen of a world what another does with the world. -/
def Tracks (see : World → World') (f : α → α') (m : StateM World α) (m' : StateM World' α') : Prop :=
  ∀ world, m' (see world) = (f (m world).1, see (m world).2)

section Tracks

variable {see : World → World'} {f : α → α'} {g : β → β'}

theorem Tracks.pure {a : α} {a' : α'} (same : a' = f a) : Tracks see f (pure a) (pure a') := by
  intro world
  rw [same]
  rfl

theorem Tracks.bind {m : StateM World α} {m' : StateM World' α'} {k : α → StateM World β}
    {k' : α' → StateM World' β'} (first : Tracks see f m m')
    (second : ∀ a, Tracks see g (k a) (k' (f a))) : Tracks see g (m >>= k) (m' >>= k') := by
  intro world
  show k' (m' (see world)).1 (m' (see world)).2 = _
  rw [first world]
  exact second (m world).1 (m world).2

end Tracks

/-- Services that answer with what is seen of a world, and of clients, as others answer. -/
structure Services.Track (see : World → World') (f : Client → Client') (s : Services World Client)
    (s' : Services World' Client') : Prop where
  cached : ∀ w, Tracks see id (s.cached w) (s'.cached w)
  connect : ∀ n, Tracks see (Except.map f) (s.connect n) (s'.connect n)
  call : ∀ client t, Tracks see id (s.call client t) (s'.call (f client) t)

namespace Services.Track

variable {see : World → World'} {f : Client → Client'} {s : Services World Client}
  {s' : Services World' Client'} (track : s.Track see f s') (networks : Board Network) (w : Wallet)

include track

theorem balance (client : Client) (t : Token) :
    Tracks see id (balance s client w t) (balance s' (f client) w t) := by
  unfold Token.balance
  split
  · exact .pure rfl
  · exact .pure rfl
  · exact .bind (track.call client _) fun _ => .pure rfl

theorem holding (client : Option Client) (t : Token) :
    Tracks see id (holding s client w t) (holding s' (client.map f) w t) := by
  cases client with
  | none => exact .pure rfl
  | some client => exact .bind (track.balance w client t) fun _ => .pure rfl

theorem holdings (client : Option Client) (tokens : List Token) :
    Tracks see id (holdings s client w tokens) (holdings s' (client.map f) w tokens) := by
  induction tokens with
  | nil => exact .pure rfl
  | cons t rest ih => exact .bind (track.holding w client t) fun _ => .bind ih fun _ => .pure rfl

theorem obtain (c : Connection Client) :
    Tracks see (Prod.map (Except.map f) (Connection.map f)) (c.obtain s networks)
      ((c.map f).obtain s' networks) := by
  -- Whether a connection is outdated depends on its reader alone.
  have same : (c.map f).outdated networks = c.outdated networks := rfl
  rcases c.current_or_lacks networks with ⟨client, has, current⟩ | lacks
  · rw [c.obtain_of_current s has current, (c.map f).obtain_of_current s'
      (Option.map_eq_some_iff.mpr ⟨client, has, rfl⟩) (same.trans current)]
    exact .pure rfl
  · have lacks' : (c.map f).client = none ∨ (c.map f).outdated networks = true :=
      lacks.imp Option.map_eq_none_iff.mpr id
    rw [c.obtain_of_lacks s lacks, (c.map f).obtain_of_lacks s' lacks']
    exact .bind (track.connect networks.value) fun client => .pure (by cases client <;> rfl)

theorem fetch (c : Connection Client) :
    Tracks see (Prod.map id (Connection.map f)) (fetchWithBalances s networks w c)
      (fetchWithBalances s' networks w (c.map f)) := by
  refine .bind (track.cached w) fun tokens => ?_
  cases tokens with
  | error e => exact .pure rfl
  | ok tokens =>
    refine .bind (track.obtain networks c) fun (client, c) => ?_
    have same : (Except.map f client).toOption = client.toOption.map f := by
      cases client <;> rfl
    refine .bind (f := id) ?_ fun _ => .pure rfl
    show Tracks see id (Token.holdings s client.toOption w tokens)
      (Token.holdings s' (Except.map f client).toOption w tokens)
    rw [same]
    exact track.holdings w client.toOption tokens

omit track in
theorem of_logged (s : Services World Client) : s.logged.Track Prod.fst id s where
  cached _ _ := rfl
  connect n := by
    rintro ⟨world, log⟩
    show s.connect n world = (Except.map id (s.connect n world).1, (s.connect n world).2)
    rw [Except.map_id]
    rfl
  call _ _ _ := rfl

theorem logged : s.logged.Track (Prod.map see (List.map (Request.map f))) f s'.logged := by
  have recorded {α α' : Type} {g : α → α'} {m : StateM World α} {m' : StateM World' α'}
      (r : Request Client) (same : Tracks see g m m') :
      Tracks (Prod.map see (List.map (Request.map f))) g (Services.recorded r m)
        (Services.recorded (r.map f) m') := by
    rintro ⟨world, log⟩
    show ((m' (see world)).1, (m' (see world)).2, log.map (Request.map f) ++ [r.map f]) =
      (g (m world).1, see (m world).2, (log ++ [r]).map (Request.map f))
    rw [same world, List.map_append]
    rfl
  exact ⟨fun w => recorded (.cached w) (track.cached w),
    fun n => recorded (.connect n) (track.connect n),
    fun client t => recorded (.call client t) (track.call client t)⟩

end Services.Track

end EvmWallet.Token
