import EvmWallet.Proofs.Portfolio.Clients
import EvmWallet.Proofs.Portfolio.Notes

/-!
# The two answers of a fetch

A fetch gives its answers one at a time, as it is polled, and between two polls anything can happen
to the portfolio. The first poll reads the cache and nothing else. The second brings the cache up to
date and reads the balances, unless the first one failed; what went wrong in between decides what is
not asked any more. `Course` lists the ways in which a fetch can go, and every fetch goes one of them
(`course_of_polls`).
-/

namespace EvmWallet.Token

variable {World Client α : Type}

/-! ## Runs with notes -/

/-- An action that answers the same with notes, and adds to them whatever they are, has a run. -/
theorem runs_of_tracks {m : StateM World α} {m' : StateM (World × List (Note Client)) α}
    (plain : Tracks Prod.fst id m' m) (noted : ∀ notes, Tracks (Prod.map id (notes ++ ·)) id m' m')
    (world : World) : ∃ a world' newer, Runs m m' world a world' newer := by
  -- The notes that are added are those of the run that starts with none.
  refine ⟨_, _, (m' (world, [])).2.2, plain (world, []), fun notes => ?_⟩
  have run := noted notes (world, [])
  rw [Prod.map_apply, List.append_nil] at run
  exact run

theorem annotated_plain (r : Request Client) (act : StateM World (Except Error α)) :
    Tracks Prod.fst id (annotated r act) act := fun _ => rfl

theorem annotated_append (r : Request Client) (act : StateM World (Except Error α))
    (notes : List (Note Client)) :
    Tracks (Prod.map id (notes ++ ·)) id (annotated r act) (annotated r act) := by
  rintro ⟨world, earlier⟩
  exact congrArg (fun n => ((act world).1, (act world).2, n))
    (List.append_assoc notes earlier [⟨r, failure? (act world).1⟩])

theorem fetchWithBalances_runs (s : Services World Client) (networks : Board Network) (w : Wallet)
    (c : Connection Client) (world : World) :
    ∃ a world' newer, Runs (fetchWithBalances s networks w c) (fetchWithBalances s.noted networks w c)
      world a world' newer := by
  have plain : s.noted.Track Prod.fst id s :=
    ⟨fun _ => annotated_plain _ _, fun _ => Except.map_id ▸ annotated_plain _ _,
      fun _ _ => annotated_plain _ _⟩
  have noted (notes : List (Note Client)) : s.noted.Track (Prod.map id (notes ++ ·)) id s.noted :=
    ⟨fun _ => annotated_append _ _ _, fun _ => Except.map_id ▸ annotated_append _ _ _,
      fun _ _ => annotated_append _ _ _⟩
  have plain := plain.fetch networks w c
  have noted := fun notes => (noted notes).fetch networks w c
  simp only [Connection.map_id, Prod.map_id] at plain noted
  exact runs_of_tracks plain noted world

/-! ## Polling -/

/-- What a poll of a fetch gives. -/
structure Poll (World Client : Type) where
  /-- The answer, if there is one more. -/
  answer : Option (Except Error (List Holding))
  /-- What is still to come. -/
  stage : Stage
  /-- The portfolio after the poll. -/
  after : Portfolio World Client
  /-- What was asked of the services. -/
  notes : List (Note Client)

/-- Polls a fetch. -/
def poll (s : Services World Client) (w : Wallet) (stage : Stage) (p : Portfolio World Client) :
    Poll World Client :=
  let out := next s p.networks.current w p.connection stage p.world
  let noted := next s.noted p.networks.current w p.connection stage (p.world, [])
  ⟨out.1.1, out.1.2.2, { p with connection := out.1.2.1, world := out.2 }, noted.2.2⟩

/-- Polls a fetch once, and then once after each thing that happens. -/
def polls (s : Services World Client) (w : Wallet) (stage : Stage) (p : Portfolio World Client) :
    List (Portfolio World Client → Portfolio World Client) → List (Poll World Client)
  | [] => [poll s w stage p]
  | happens :: more =>
    let now := poll s w stage p
    now :: polls s w now.stage (happens now.after) more

section Polls

variable {s : Services World Client} {w : Wallet} {stage stage' : Stage} {p : Portfolio World Client}
  {answer : Option (Except Error (List Holding))} {c : Connection Client} {world : World}
  {newer : List (Note Client)}

/-- A poll is one run, with and without notes. -/
theorem poll_of_runs
    (run : Runs (next s p.networks.current w p.connection stage)
      (next s.noted p.networks.current w p.connection stage) p.world (answer, c, stage') world
      newer) :
    poll s w stage p = ⟨answer, stage', { p with connection := c, world }, newer⟩ := by
  unfold poll
  rw [run.plain, run.noted []]
  rfl

/-- Nothing is asked after the last answer. -/
theorem poll_finished (s : Services World Client) (w : Wallet) (p : Portfolio World Client) :
    poll s w .finished p = ⟨none, .finished, p, []⟩ := rfl

theorem polls_finished (s : Services World Client) (w : Wallet) (p : Portfolio World Client)
    (happenings : List (Portfolio World Client → Portfolio World Client)) :
    ∀ now ∈ polls s w .finished p happenings, now.answer = none ∧ now.notes = [] := by
  induction happenings generalizing p with
  | nil => exact fun now only => List.mem_singleton.mp only ▸ ⟨rfl, rfl⟩
  | cons happens more ih =>
    intro now found
    rcases List.mem_cons.mp found with rfl | later
    · exact ⟨rfl, rfl⟩
    · exact ih (happens p) now later

theorem poll_cached_of_error {e : Error} (read : s.cached w p.world = (.error e, world)) :
    poll s w .cached p =
      ⟨some (.error e), .finished, { p with world }, [⟨.cached w, some e⟩]⟩ := by
  have cached : Runs (fetchCached s w) (fetchCached s.noted w) p.world (.error e) world _ :=
    .bind (.request (.cached w) read) .pure
  exact poll_of_runs (.bind cached .pure)

theorem poll_cached_of_ok {tokens : List Token} (read : s.cached w p.world = (.ok tokens, world)) :
    poll s w .cached p =
      ⟨some (.ok (tokens.map .unknown)), .refreshed, { p with world }, [⟨.cached w, none⟩]⟩ := by
  have cached : Runs (fetchCached s w) (fetchCached s.noted w) p.world
      (.ok (tokens.map .unknown)) world _ :=
    .bind (.request (.cached w) read) .pure
  exact poll_of_runs (.bind cached .pure)

theorem poll_refreshed_of_error {e : Error}
    (refreshed : Runs (refresh s w) (refresh s.noted w) p.world (.error e) world newer) :
    poll s w .refreshed p = ⟨some (.error e), .finished, { p with world }, newer⟩ := by
  have run : poll s w .refreshed p = _ := poll_of_runs (.bind refreshed .pure)
  rwa [List.append_nil] at run

theorem poll_refreshed_of_ok {n : Nat} {world' : World} {all : Except Error (List Holding)}
    {newest : List (Note Client)}
    (refreshed : Runs (refresh s w) (refresh s.noted w) p.world (.ok n) world newer)
    (fetched : Runs (fetchWithBalances s p.networks.current w p.connection)
      (fetchWithBalances s.noted p.networks.current w p.connection) world (all, c) world' newest) :
    poll s w .refreshed p =
      ⟨some all, .finished, { p with connection := c, world := world' }, newer ++ newest⟩ := by
  have run : poll s w .refreshed p = _ := poll_of_runs (.bind refreshed (.bind fetched .pure))
  rwa [List.append_nil] at run

theorem filterMap_answer_cons (now : Poll World Client) (rest : List (Poll World Client)) :
    (now :: rest).filterMap Poll.answer = now.answer.toList ++ rest.filterMap Poll.answer := by
  rw [List.filterMap_cons]
  cases now.answer <;> rfl

/-- Once a poll has given the last answer, the polls after it give none. -/
theorem polls_of_last (last : (poll s w stage p).stage = .finished)
    (happenings : List (Portfolio World Client → Portfolio World Client)) :
    ∃ rest, polls s w stage p happenings = poll s w stage p :: rest ∧
      ∀ now ∈ rest, now.answer = none ∧ now.notes = [] := by
  cases happenings with
  | nil => exact ⟨[], rfl, fun now none => absurd none List.not_mem_nil⟩
  | cons happens more =>
    let q := happens (poll s w stage p).after
    refine ⟨polls s w .finished q more, ?_, polls_finished s w q more⟩
    rw [← last]
    rfl

end Polls

/-! ## The course of a fetch -/

/-- How a fetch can go, by the portfolios that the first and the second poll find: its answers, and
the notes of either poll. -/
inductive Course (s : Services World Client) (w : Wallet) (p q : Portfolio World Client) :
    List (Except Error (List Holding)) → List (Note Client) → List (Note Client) → Prop where
  /-- The cache cannot be read. Nothing else is asked. -/
  | unread {e : Error} (read : (s.cached w p.world).1 = .error e) :
      Course s w p q [.error e] [⟨.cached w, some e⟩] []
  /-- The explorer gives no list. Nothing is asked of the cache or of a chain. -/
  | unlisted {tokens : List Token} {e : Error} (read : (s.cached w p.world).1 = .ok tokens)
      (list : (s.listed w.address q.world).1 = .error e)
      (refreshed : (refresh s w q.world).1 = .error e) :
      Course s w p q [.ok (tokens.map .unknown), .error e] [⟨.cached w, none⟩]
        [⟨.listed w.address, some e⟩]
  /-- What is listed was put, and then the cache cannot be read. Nothing is asked of a chain. -/
  | unreread {tokens listed : List Token} {puts : List (Token × Option Error)} {e : Error}
      (read : (s.cached w p.world).1 = .ok tokens)
      (list : (s.listed w.address q.world).1 = .ok listed) (all : puts.map Prod.fst = listed)
      (refreshed : (refresh s w q.world).1 = .error e) :
      Course s w p q [.ok (tokens.map .unknown), .error e] [⟨.cached w, none⟩]
        (⟨.listed w.address, none⟩ :: puts.map (Note.put w) ++ [⟨.cached w, some e⟩])
  /-- The cache is up to date, and the balances are fetched for what it holds then. -/
  | whole {tokens : List Token} {n : Nat} {world : World} {asked : List (Note Client)}
      (read : (s.cached w p.world).1 = .ok tokens) (refreshed : refresh s w q.world = (.ok n, world))
      (asks : Refreshes s w q.world (.ok n) world asked) :
      Course s w p q
        [.ok (tokens.map .unknown),
          (fetchWithBalances s q.networks.current w q.connection world).1.1]
        [⟨.cached w, none⟩]
        (asked ++ (fetchWithBalances s.noted q.networks.current w q.connection (world, [])).2.2)

/-- The second poll gives the last answer, and the course is one of those that the first poll leaves
open. -/
theorem course_of_second (s : Services World Client) (w : Wallet) {p : Portfolio World Client}
    {tokens : List Token} (read : (s.cached w p.world).1 = .ok tokens)
    (q : Portfolio World Client) :
    let second := poll s w .refreshed q
    second.stage = .finished ∧ ∃ answer, second.answer = some answer ∧
      Course s w p q [.ok (tokens.map .unknown), answer] [⟨.cached w, none⟩] second.notes := by
  intro second
  obtain ⟨a, world, newer, runs, goes⟩ := refresh_runs s w q.world
  have refreshed : (refresh s w q.world).1 = a := congrArg Prod.fst runs.plain
  rcases a with e | n
  · have polled : second = _ := poll_refreshed_of_error runs
    rw [polled]
    refine ⟨rfl, .error e, rfl, ?_⟩
    -- Either the explorer gave no list, or the cache could not be read again.
    cases goes with
    | unlisted list => exact .unlisted read (congrArg Prod.fst list) refreshed
    | unread list put reread =>
      exact .unreread read (congrArg Prod.fst list) (map_fst_of_askEach put) refreshed
  · obtain ⟨⟨all, c⟩, world', newest, fetched⟩ :=
      fetchWithBalances_runs s q.networks.current w q.connection world
    have polled : second = _ := poll_refreshed_of_ok runs fetched
    have course := Course.whole read runs.plain goes
    rw [fetched.plain, fetched.noted []] at course
    rw [polled]
    exact ⟨rfl, all, rfl, course⟩

theorem course_of_two (s : Services World Client) (w : Wallet) (p q : Portfolio World Client) :
    let first := poll s w .cached p
    let second := poll s w first.stage q
    second.stage = .finished ∧
      Course s w p q (first.answer.toList ++ second.answer.toList) first.notes second.notes := by
  intro first second
  rcases read : s.cached w p.world with ⟨e | tokens, world⟩
  · have polled : first = _ := poll_cached_of_error read
    have none : second = ⟨none, .finished, q, []⟩ := by
      show poll s w first.stage q = _
      rw [polled, poll_finished]
    rw [polled, none]
    exact ⟨rfl, .unread (congrArg Prod.fst read)⟩
  · have polled : first = _ := poll_cached_of_ok read
    have refreshed : second = poll s w .refreshed q := congrArg (poll s w ·.stage q) polled
    obtain ⟨last, answer, given, course⟩ := course_of_second s w (congrArg Prod.fst read) q
    rw [polled, refreshed, given]
    exact ⟨last, course⟩

/-- The answers of a fetch are those of its polls with nothing in between. -/
theorem answers_of_fetch (s : Services World Client) (w : Wallet) (p : Portfolio World Client) :
    (fetch s p.networks.current w p.connection p.world).1.1 =
      (polls s w .cached p [id]).filterMap Poll.answer := by
  let first := poll s w .cached p
  let second := poll s w first.stage first.after
  show first.answer.toList ++ second.answer.toList = [first, second].filterMap Poll.answer
  rw [filterMap_answer_cons, filterMap_answer_cons, List.filterMap_nil, List.append_nil]

/-- However often a fetch is polled, and whatever happens to the portfolio in between, the fetch goes
one of the ways: it has one answer or two, which are given by the first and the second poll, and the
polls after those neither answer nor ask for anything. The first answer depends on the portfolio at
the first poll alone, which asks for nothing but the cache. The wallet of an address text is that of
the text without blanks at its ends. -/
theorem course_of_polls (s : Services World Client) (w : Wallet) (p : Portfolio World Client)
    (between : Portfolio World Client → Portfolio World Client)
    (later : List (Portfolio World Client → Portfolio World Client)) :
    let first := poll s w .cached p
    let second := poll s w first.stage (between first.after)
    let all := polls s w .cached p (between :: later)
    Course s w p (between first.after) (all.filterMap Poll.answer) first.notes second.notes ∧
      (∃ rest, all = first :: second :: rest ∧ ∀ now ∈ rest, now.answer = none ∧ now.notes = []) ∧
      (fetch s p.networks.current w p.connection p.world).1.1 =
        (polls s w .cached p [id]).filterMap Poll.answer ∧
      ∀ address, (fetchAddress s p.networks.current address p.connection p.world).1.1 =
        (polls s ⟨Text.trim address⟩ .cached p [id]).filterMap Poll.answer := by
  intro first second all
  obtain ⟨last, course⟩ := course_of_two s w p (between first.after)
  obtain ⟨rest, same, silent⟩ := polls_of_last last later
  have split : all = first :: second :: rest := congrArg (first :: ·) same
  have answers : all.filterMap Poll.answer = first.answer.toList ++ second.answer.toList := by
    have none : rest.filterMap Poll.answer = [] :=
      List.filterMap_eq_nil_iff.mpr fun now found => (silent now found).1
    rw [split, filterMap_answer_cons, filterMap_answer_cons, none, List.append_nil]
  rw [answers]
  exact ⟨course, ⟨rest, split, silent⟩, answers_of_fetch s w p,
    fun address => answers_of_fetch s (.ofAddress address) p⟩

end EvmWallet.Token
