import EvmWallet.Network.Selection
import EvmWallet.Proofs.Portfolio.Requests

/-!
# The network that balances are read from

A portfolio reads its balances through the client that its connection keeps, and has another made
when another network is in use. To tell for which network a client was made, each client is stamped
with it when it is made (`Services.stamped`); without the stamps the run is the same (`forget_after`).
While the networks are open, a client that is used was made for the network in use. Once they are
dropped the connection learns of no change any more, and a client that is outdated by then is kept.
-/

namespace EvmWallet.Token

variable {World Client : Type}

/-! ## Runs of a portfolio -/

/-- The client that a request calls the chain through. -/
def Request.caller? : Request Client → Option Client
  | .call client _ => some client
  | _ => none

/-- A portfolio at work: the networks that it follows, its connection, and the world that it asks. -/
structure Portfolio (World Client : Type) where
  networks : Network.Selection
  connection : Connection Client
  world : World

namespace Portfolio

/-- What can happen around a portfolio. -/
inductive Act (World : Type) where
  /-- A network is put to use. -/
  | select (n : Network)
  /-- The networks are given up, and none is put to use any more. -/
  | drop
  /-- The portfolio is set up again, with a connection that follows the networks from now on. -/
  | follow
  /-- The world goes on: tokens are cached, servers come and go. -/
  | elapse (change : World → World)
  /-- The tokens of a wallet are fetched with their balances. -/
  | fetch (w : Wallet)

/-- A portfolio that has done nothing. -/
def start (first : Network) (available : List Network) (world : World) : Portfolio World Client :=
  ⟨.ofNetworks first available, .ofBoard (.showing first), world⟩

/-- What fetching the balances of a wallet gives, with the requests that it makes. -/
def fetched (s : Services World Client) (p : Portfolio World Client) (w : Wallet) :
    (Except Error (List Holding) × Connection Client) × World × List (Request Client) :=
  fetchWithBalances s.logged p.networks.current w p.connection (p.world, [])

/-- The clients through which fetching the balances of a wallet calls the chain, in order. -/
def calls (s : Services World Client) (p : Portfolio World Client) (w : Wallet) : List Client :=
  (p.fetched s w).2.2.filterMap Request.caller?

/-- One act. -/
def act (s : Services World Client) (p : Portfolio World Client) :
    Act World → Portfolio World Client
  | .select n =>
    if p.networks.current.closed then p else { p with networks := p.networks.select n }
  | .drop => { p with networks := p.networks.close }
  | .follow =>
    if p.networks.current.closed then p
    else { p with connection := .ofBoard p.networks.current }
  | .elapse change => { p with world := change p.world }
  | .fetch w => { p with connection := (p.fetched s w).1.2, world := (p.fetched s w).2.1 }

/-- The portfolio after acts in order. -/
def after (s : Services World Client) (p : Portfolio World Client) (acts : List (Act World)) :
    Portfolio World Client :=
  acts.foldl (act s) p

/-- The network that acts put to use last, before the networks are dropped. -/
def lastSelected (current : Network) : List (Act World) → Network
  | [] => current
  | .select n :: acts => lastSelected n acts
  | .drop :: _ => current
  | _ :: acts => lastSelected current acts

section Networks

variable (s : Services World Client) (p : Portfolio World Client)

theorem after_append (acts more : List (Act World)) :
    p.after s (acts ++ more) = (p.after s acts).after s more := List.foldl_append

theorem act_select (unclosed : p.networks.current.closed = false) (n : Network) :
    p.act s (.select n) = { p with networks := p.networks.select n } :=
  if_neg (by simp [unclosed])

theorem networks_follow : (p.act s .follow).networks = p.networks := by
  simp only [act]
  split <;> rfl

theorem closed_select (n : Network) :
    (p.networks.select n).current.closed = p.networks.current.closed :=
  Board.closed_postIfNew _ n

/-- Networks that are closed stay as they are. -/
theorem networks_after_closed (closed : p.networks.current.closed = true) (acts : List (Act World)) :
    (p.after s acts).networks = p.networks := by
  induction acts generalizing p with
  | nil => rfl
  | cons a acts ih =>
    have same : (p.act s a).networks = p.networks := by
      cases a with
      | select n => exact congrArg Portfolio.networks (if_pos closed)
      | drop => exact congrArg (Network.Selection.mk · _) (Board.close_of_closed closed)
      | follow => exact p.networks_follow s
      | elapse change | fetch w => rfl
    show ((p.act s a).after s acts).networks = p.networks
    rw [ih (p.act s a) (same ▸ closed), same]

/-- The network in use is the last that was put to use. -/
theorem selected_after (unclosed : p.networks.current.closed = false) (acts : List (Act World)) :
    (p.after s acts).networks.selected = lastSelected p.networks.selected acts := by
  induction acts generalizing p with
  | nil => rfl
  | cons a acts ih =>
    show ((p.act s a).after s acts).networks.selected = _
    cases a with
    | select n =>
      rw [act_select s p unclosed, ih _ ((p.closed_select n).trans unclosed)]
      exact congrArg (lastSelected · acts) (Board.value_postIfNew _ n)
    | drop =>
      -- Nothing is put to use any more, on either side.
      rw [networks_after_closed s (p.act s .drop) rfl]
      rfl
    | follow =>
      rw [ih _ (p.networks_follow s ▸ unclosed), networks_follow]
      rfl
    | elapse change | fetch w => exact ih _ unclosed

/-- Networks that are closed were dropped. -/
theorem dropped (unclosed : p.networks.current.closed = false) (acts : List (Act World))
    (closed : (p.after s acts).networks.current.closed = true) :
    ∃ before after, acts = before ++ .drop :: after := by
  induction acts generalizing p with
  | nil => exact absurd (unclosed.symm.trans closed) (by simp)
  | cons a acts ih =>
    have rest (still : (p.act s a).networks.current.closed = false) :
        ∃ before after, a :: acts = before ++ .drop :: after := by
      obtain ⟨before, after, rfl⟩ := ih _ still closed
      exact ⟨a :: before, after, rfl⟩
    cases a with
    | select n =>
      apply rest
      rw [act_select s p unclosed]
      exact (p.closed_select n).trans unclosed
    | drop => exact ⟨[], acts, rfl⟩
    | follow => exact rest (p.networks_follow s ▸ unclosed)
    | elapse change | fetch w => exact rest unclosed

end Networks

/-! ## Fetches -/

section Fetches

variable (s : Services World Client) (p : Portfolio World Client) (w : Wallet)

/-- Recording its requests leaves a fetch as it is. -/
theorem fetched_unrecorded :
    fetchWithBalances s p.networks.current w p.connection p.world =
      ((p.fetched s w).1, (p.fetched s w).2.1) := by
  have same := (Services.Track.of_logged s).fetch p.networks.current w p.connection (p.world, [])
  rw [Connection.map_id, Prod.map_id] at same
  exact same

/-- A fetch leaves the connection, or renews it if it has no client or an outdated one. -/
theorem connection_fetched :
    (p.fetched s w).1.2 = p.connection ∨
      (p.connection.client = none ∨ p.connection.outdated p.networks.current = true) ∧
        ∃ world, (p.fetched s w).1.2 =
          ⟨p.networks.current.reader, (s.connect p.networks.selected world).1.toOption⟩ := by
  obtain ⟨-, -, -, leads⟩ := asks_fetch (C := fun _ => True) s p.networks.current w p.connection
    (fun _ _ _ _ => trivial) p.world []
  change (p.fetched s w).1.2 = _ ∨ Connection.Leads s _ _ (p.fetched s w).1.2 at leads
  generalize (p.fetched s w).1.2 = c at leads ⊢
  rcases leads with same | leads
  · exact .inl same
  · cases leads with
    | keeps => exact .inl rfl
    | renews lacks world => exact .inr ⟨lacks, world, rfl⟩

/-- The chain is called only through the client that the connection is asked for. -/
theorem calls_through {C : Client → Prop}
    (through : ∀ c', p.connection.Leads s p.networks.current c' →
      ∀ client, c'.client = some client → C client) : ∀ client ∈ p.calls s w, C client := by
  obtain ⟨newer, log, asked, -⟩ := asks_fetch s p.networks.current w p.connection through p.world []
  have log : (p.fetched s w).2.2 = newer := log
  intro client called
  unfold calls at called
  rw [log] at called
  obtain ⟨r, hr, calls⟩ := List.mem_filterMap.mp called
  have kind := asked r hr
  cases r with
  | call other t => exact Option.some.inj calls ▸ kind
  | _ => exact absurd calls (by simp [Request.caller?])

end Fetches

end Portfolio

/-! ## Stamped clients -/

/-- A client with the network that it was made for. -/
structure Made (Client : Type) where
  network : Network
  client : Client
  deriving DecidableEq

/-- The same services, with clients that are stamped with their networks. -/
def Services.stamped (s : Services World Client) : Services World (Made Client) where
  cached := s.cached
  put := s.put
  delete := s.delete
  listed := s.listed
  connect n := do return (← s.connect n).map (Made.mk n)
  call made := s.call made.client

theorem Services.track_stamped (s : Services World Client) : s.stamped.Track id Made.client s where
  cached _ _ := rfl
  connect n := by
    intro world
    show s.connect n world =
      (((s.connect n world).1.map (Made.mk n)).map Made.client, (s.connect n world).2)
    obtain ⟨answer, world'⟩ := s.connect n world
    cases answer <;> rfl
  call _ _ _ := rfl

theorem Services.network_stamped {s : Services World Client} {n : Network} {world : World}
    {made : Made Client} (has : (s.stamped.connect n world).1.toOption = some made) :
    made.network = n := by
  have has : ((s.connect n world).1.map (Made.mk n)).toOption = some made := has
  cases answer : (s.connect n world).1 with
  | error e =>
    rw [answer] at has
    exact absurd has (by simp [Except.map, Except.toOption])
  | ok client =>
    rw [answer] at has
    exact congrArg Made.network (Option.some.inj has).symm

/-- A client that is asked for is the one that was kept, or was made for the network in use. -/
theorem Connection.Leads.network {s : Services World Client} {networks : Board Network}
    {c c' : Connection (Made Client)} (leads : c.Leads s.stamped networks c') {made : Made Client}
    (has : c'.client = some made) :
    c.client = some made ∧ c.outdated networks = false ∨ made.network = networks.value := by
  cases leads with
  | keeps _ current => exact .inl ⟨has, current⟩
  | renews lacks world => exact .inr (Services.network_stamped has)

namespace Portfolio

variable {s : Services World Client} {p : Portfolio World (Made Client)}

/-- A client was made for the network in use if no other was put to use since. -/
structure Sound (p : Portfolio World (Made Client)) : Prop where
  behind : p.connection.reader.seen ≤ p.networks.current.posts
  current : ∀ made, p.connection.client = some made →
    p.connection.reader.seen = p.networks.current.posts → made.network = p.networks.selected

/-- A client of an open network is used only if it was made for the network in use. -/
theorem Sound.used (h : p.Sound) (unclosed : p.networks.current.closed = false)
    {made : Made Client} (has : p.connection.client = some made)
    (current : p.connection.outdated p.networks.current = false) :
    made.network = p.networks.selected := by
  refine h.current made has (Decidable.of_not_not fun other => ?_)
  exact absurd current (by simp [(Connection.outdated_iff unclosed).mpr other])

/-- Another network is news to the connection, and the network in use is none. -/
theorem Sound.select (h : p.Sound) (n : Network) :
    Sound { p with networks := p.networks.select n } := by
  have behind := h.behind
  -- Selecting the network in use posts nothing, and nothing has changed then.
  by_cases same : p.networks.selected = n
  · subst same
    rw [p.networks.select_selected]
    exact h
  · rw [Network.Selection.select_other same]
    refine ⟨Nat.le_succ_of_le behind, fun made has seen => ?_⟩
    have seen : p.connection.reader.seen = p.networks.current.posts + 1 := seen
    omega

theorem Sound.act (h : p.Sound) (a : Act World) : (p.act s.stamped a).Sound := by
  cases a with
  | select n =>
    simp only [Portfolio.act]
    split
    · exact h
    · exact h.select n
  | drop => exact ⟨h.behind, h.current⟩
  | follow =>
    simp only [Portfolio.act]
    split
    · exact h
    · exact ⟨Nat.le_refl _, fun made has => absurd has (by simp [Connection.ofBoard])⟩
  | elapse change => exact ⟨h.behind, h.current⟩
  | fetch w =>
    show Sound { p with connection := _, world := _ }
    rcases p.connection_fetched s.stamped w with same | ⟨-, world, renewed⟩
    · rw [same]
      exact ⟨h.behind, h.current⟩
    · rw [renewed]
      exact ⟨Nat.le_refl _, fun made has _ => Services.network_stamped has⟩

theorem Sound.after (h : p.Sound) (acts : List (Act World)) : (p.after s.stamped acts).Sound := by
  induction acts generalizing p with
  | nil => exact h
  | cons a acts ih => exact ih (h.act a)

theorem sound_start (first : Network) (available : List Network) (world : World) :
    (start first available world : Portfolio World (Made Client)).Sound where
  behind := Nat.le_refl 0
  current made has := absurd has (by simp [start, Connection.ofBoard])

/-! ## After the networks were dropped -/

/-- Once the networks are closed, a connection stays as it is, or finds its first client. -/
theorem connection_act_closed (closed : p.networks.current.closed = true) (a : Act World) :
    (p.act s.stamped a).connection = p.connection ∨ p.connection.client = none ∧
      ∀ made, (p.act s.stamped a).connection.client = some made →
        made.network = p.networks.selected := by
  cases a with
  | select n | follow => exact .inl (congrArg Portfolio.connection (if_pos closed))
  | drop | elapse change => exact .inl rfl
  | fetch w =>
    show (p.fetched s.stamped w).1.2 = _ ∨ _ ∧
      ∀ made, (p.fetched s.stamped w).1.2.client = some made → _
    rcases p.connection_fetched s.stamped w with same | ⟨lacks, world, renewed⟩
    · exact .inl same
    · rw [renewed]
      refine .inr ⟨lacks.resolve_right fun old => ?_, fun made => Services.network_stamped⟩
      exact absurd (old.symm.trans (Connection.outdated_of_closed closed)) (by simp)

/-- The client that is kept was made for another network than the one in use, and the connection
does not learn of it since the networks are closed. -/
def Stuck (p : Portfolio World (Made Client)) : Prop :=
  p.networks.current.closed = true ∧
    ∃ made, p.connection.client = some made ∧ made.network ≠ p.networks.selected

theorem stuck_act_closed (closed : p.networks.current.closed = true) (a : Act World) :
    (p.act s.stamped a).Stuck ↔ p.Stuck := by
  have networks : (p.act s.stamped a).networks = p.networks :=
    networks_after_closed s.stamped p closed [a]
  unfold Stuck
  rw [networks]
  rcases connection_act_closed (s := s) closed a with same | ⟨none, found⟩
  · rw [same]
  · constructor
    · rintro ⟨-, made, has, other⟩
      exact absurd (found made has) other
    · rintro ⟨-, made, has, -⟩
      exact absurd (none.symm.trans has) (by simp)

theorem stuck_after_closed (closed : p.networks.current.closed = true) (acts : List (Act World)) :
    (p.after s.stamped acts).Stuck ↔ p.Stuck := by
  induction acts generalizing p with
  | nil => rfl
  | cons a acts ih =>
    have still : (p.act s.stamped a).networks.current.closed = true := by
      rw [show (p.act s.stamped a).networks = p.networks from
        networks_after_closed s.stamped p closed [a]]
      exact closed
    exact (ih still).trans (stuck_act_closed closed a)

/-- At the moment when the networks were dropped, the client that was kept had been made for another
network than the one that was put to use last. -/
def Stranded (s : Services World Client) (first : Network) (available : List Network)
    (world : World) (acts : List (Act World)) : Prop :=
  ∃ before after made, acts = before ++ .drop :: after ∧
    ((start first available world).after s.stamped before).connection.client = some made ∧
      made.network ≠ lastSelected first before

theorem stuck_iff (s : Services World Client) (first : Network) (available : List Network)
    (world : World) (acts : List (Act World)) :
    ((start first available world).after s.stamped acts).Stuck ↔
      Stranded s first available world acts := by
  -- From a drop on neither the networks nor a client that is kept change any more.
  have split (before after : List (Act World)) :
      ((start first available world).after s.stamped (before ++ .drop :: after)).Stuck ↔
        ∃ made, ((start first available world).after s.stamped before).connection.client = some made ∧
          made.network ≠ lastSelected first before := by
    have selected := selected_after s.stamped (start first available world) rfl before
    rw [after_append, show lastSelected first before = _ from selected.symm]
    exact (stuck_after_closed rfl after).trans (and_iff_right rfl)
  constructor
  · intro stuck
    obtain ⟨before, after, rfl⟩ := dropped s.stamped _ rfl acts stuck.1
    obtain ⟨made, has, other⟩ := (split before after).mp stuck
    exact ⟨before, after, made, rfl, has, other⟩
  · rintro ⟨before, after, made, rfl, has, other⟩
    exact (split before after).mpr ⟨made, has, other⟩

/-! ## The clients of a fetch -/

/-- A fetch uses the client that is kept, of closed networks, or one for the network in use. -/
theorem Sound.calls (h : p.Sound) (w : Wallet) : ∀ made ∈ p.calls s.stamped w,
    made.network = p.networks.selected ∨
      p.networks.current.closed = true ∧ p.connection.client = some made := by
  refine calls_through s.stamped p w fun c leads made has => ?_
  rcases leads.network has with ⟨kept, current⟩ | network
  · cases closed : p.networks.current.closed with
    | true => exact .inr ⟨rfl, kept⟩
    | false => exact .inl (h.used closed kept current)
  · exact .inl network

theorem calls_stuck (stuck : p.Stuck) (w : Wallet) :
    ∀ made ∈ p.calls s.stamped w, made.network ≠ p.networks.selected := by
  obtain ⟨closed, kept, has, other⟩ := stuck
  refine calls_through s.stamped p w fun c leads made has' => ?_
  cases leads with
  | keeps => exact Option.some.inj (has.symm.trans has') ▸ other
  | renews lacks world =>
    rcases lacks with none | old
    · exact absurd (none.symm.trans has) (by simp)
    · exact absurd (old.symm.trans (Connection.outdated_of_closed closed)) (by simp)

theorem Sound.calls_iff (h : p.Sound) (w : Wallet) :
    ∀ made ∈ p.calls s.stamped w, made.network = p.networks.selected ↔ ¬p.Stuck := by
  intro made called
  constructor
  · intro right stuck
    exact calls_stuck stuck w made called right
  · intro free
    rcases h.calls w made called with network | ⟨closed, has⟩
    · exact network
    · apply Classical.byContradiction
      exact fun other => free ⟨closed, made, has, other⟩

/-! ## Without stamps -/

/-- The portfolio without stamps. -/
def forget (p : Portfolio World (Made Client)) : Portfolio World Client :=
  ⟨p.networks, p.connection.map Made.client, p.world⟩

theorem fetched_forget (s : Services World Client) (p : Portfolio World (Made Client)) (w : Wallet) :
    p.forget.fetched s w =
      (Prod.map id (Connection.map Made.client) (p.fetched s.stamped w).1,
        (p.fetched s.stamped w).2.1, (p.fetched s.stamped w).2.2.map (Request.map Made.client)) :=
  s.track_stamped.logged.fetch p.networks.current w p.connection (p.world, [])

/-- A fetch makes the same calls with stamped clients. -/
theorem calls_forget (s : Services World Client) (p : Portfolio World (Made Client)) (w : Wallet) :
    (p.calls s.stamped w).map Made.client = p.forget.calls s w := by
  unfold calls
  rw [fetched_forget, List.filterMap_map, List.map_filterMap]
  congr 1
  funext r
  cases r <;> rfl

theorem forget_act (s : Services World Client) (p : Portfolio World (Made Client)) (a : Act World) :
    (p.act s.stamped a).forget = p.forget.act s a := by
  cases a with
  | select n | follow =>
    simp only [act]
    show forget (ite _ _ _) = ite (p.networks.current.closed = true) _ _
    split <;> rfl
  | drop | elapse change => rfl
  | fetch w =>
    simp only [act, fetched_forget]
    rfl

/-- Stamps change nothing about a run. -/
theorem forget_after (s : Services World Client) (p : Portfolio World (Made Client))
    (acts : List (Act World)) : (p.after s.stamped acts).forget = p.forget.after s acts := by
  induction acts generalizing p with
  | nil => rfl
  | cons a acts ih =>
    show ((p.act s.stamped a).after s.stamped acts).forget = (p.forget.act s a).after s acts
    rw [ih, forget_act]

/-- In every run of a portfolio, whatever its services do, a fetch calls the chain through a client
that was made for the network that was put to use last, unless the networks were dropped while a
client for another one was kept: then it uses that one. Clients are told apart by stamps, without
which the run and its calls are the same. -/
theorem calls_network_iff (s : Services World Client) (first : Network) (available : List Network)
    (world : World) (acts : List (Act World)) (w : Wallet) :
    let p := (start first available world).after s.stamped acts
    let q := (start first available world).after s acts
    p.forget = q ∧ (p.calls s.stamped w).map Made.client = q.calls s w ∧
      ∀ made ∈ p.calls s.stamped w,
        made.network = lastSelected first acts ↔ ¬Stranded s first available world acts := by
  intro p q
  have same : p.forget = q := forget_after s (start first available world) acts
  refine ⟨same, ?_, ?_⟩
  · rw [calls_forget, same]
  · have sound : p.Sound := (sound_start first available world).after acts
    have selected : p.networks.selected = lastSelected first acts :=
      selected_after s.stamped (start first available world) rfl acts
    rw [← stuck_iff, ← selected]
    exact sound.calls_iff w

/-- Services of a wallet with one token, whose balance is always zero. -/
def oneToken : Services Unit Unit where
  cached _ := pure (.ok [⟨"0x00000000000000000000000000000000000000aa", "A", "A", 0⟩])
  put _ _ := pure (.ok ())
  delete _ _ := pure (.ok ())
  listed _ := pure (.ok [])
  connect _ := pure (.ok ())
  call _ _ := pure (.ok (List.replicate 32 0))

/-- A balance can be read from a network that is not in use any more: Polygon was put to use after
the client for Ethereum was made, and then the networks were dropped. -/
theorem calls_of_dropped_outdated :
    ¬∀ (World Client : Type) (s : Services World Client) (first : Network)
      (available : List Network) (world : World) (acts : List (Act World)) (w : Wallet),
      ∀ made ∈ ((start first available world).after s.stamped acts).calls s.stamped w,
        made.network = lastSelected first acts := by
  intro right
  let w : Wallet := ⟨"0x00000000000000000000000000000000000000bb"⟩
  let acts : List (Act Unit) := [.fetch w, .select .polygon, .drop]
  have calls : ((start .ethereum [] ()).after oneToken.stamped acts).calls oneToken.stamped w =
      [⟨.ethereum, ()⟩] := by decide +kernel
  have other := right Unit Unit oneToken .ethereum [] () acts w ⟨.ethereum, ()⟩ (by simp [calls])
  exact absurd other (by decide)

end Portfolio

end EvmWallet.Token
