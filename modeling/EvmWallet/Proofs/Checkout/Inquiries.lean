import EvmWallet.Proofs.Checkout.Between
import EvmWallet.Proofs.Checkout.Versions

/-!
# Waiting for an answer

An inquiry that waits is up to date: if nothing was posted since it last looked, the latest status
does not answer it (`Inquiry.Current`). So whenever it is polled it answers from the latest status,
as a getter does that looks for the first time, and it never fails, since the board of a desk that
is asked stays open. What a token, an outcome, a redirect or a request answered stays answered until
the next reset. All of it for every run of a hall: `polls_run`.
-/

namespace EvmWallet.Checkout

/-! ## Answers -/

/-- What answers a question in a status. Of the methods it is the first on offer of the kind; those
used before are not looked at. -/
inductive Status.Holds (s : Status) : Question → Finding → Prop where
  | token {text : String} (said : s.progress.token = some text) : Holds s .token (.token text)
  | outcome {result : Payment.Outcome} (said : s.progress.outcome = some result) :
      Holds s .outcome (.outcome result)
  | redirectUrl {text : String} (said : s.progress.redirectUrl = some text) :
      Holds s .redirectUrl (.redirectUrl text)
  | request {session : Nat} (said : s.progress.request = some session) :
      Holds s .request (.request session)
  | method {m : Payment.Method} {before after : List Payment.Method}
      (offered : s.progress.offered = before ++ m :: after)
      (first : ∀ other ∈ before, other.kind ≠ m.kind) :
      Holds s (.method m.kind) (.method m)

/-- Whether what answers a question stays until the next reset. Methods are offered anew. -/
def Question.lasts : Question → Bool
  | .method _ => false
  | _ => true

/-- What an event says to a question that lasts. -/
def Question.answer? : Question → Event → Option Finding
  | .token => Option.map .token ∘ Event.token?
  | .outcome => Option.map .outcome ∘ Event.outcome?
  | .redirectUrl => Option.map .redirectUrl ∘ Event.redirectUrl?
  | .request => Option.map .request ∘ Event.request?
  | .method _ => fun _ => none

theorem Status.method?_eq_some_iff (s : Status) (kind : String) (m : Payment.Method) :
    s.method? kind = some m ↔
      m.kind = kind ∧ ∃ before after, s.progress.offered = before ++ m :: after ∧
        ∀ other ∈ before, other.kind ≠ kind := by
  unfold Status.method?
  rw [List.find?_eq_some_iff_append]
  simp [Payment.Method.isOfKind]

theorem Status.find?_eq_some_iff (s : Status) (q : Question) (f : Finding) :
    s.find? q = some f ↔ s.Holds q f := by
  constructor
  · intro found
    cases q with
    | method kind =>
      obtain ⟨m, method, rfl⟩ := Option.map_eq_some_iff.mp found
      obtain ⟨rfl, before, after, offered, first⟩ := (s.method?_eq_some_iff kind m).mp method
      exact .method offered first
    | _ =>
      obtain ⟨said, progress, rfl⟩ := Option.map_eq_some_iff.mp found
      constructor
      exact progress
  · intro holds
    cases holds with
    | @method m before after offered first =>
      have method : s.method? m.kind = some m :=
        (s.method?_eq_some_iff m.kind m).mpr ⟨rfl, before, after, offered, first⟩
      exact congrArg (Option.map Finding.method) method
    | token said => exact congrArg (Option.map Finding.token) said
    | outcome said => exact congrArg (Option.map Finding.outcome) said
    | redirectUrl said => exact congrArg (Option.map Finding.redirectUrl) said
    | request said => exact congrArg (Option.map Finding.request) said

theorem Status.find?_eq_none_iff (s : Status) (q : Question) :
    s.find? q = none ↔ ∀ f, ¬s.Holds q f := by
  simp only [Option.eq_none_iff_forall_ne_some, ne_eq, Status.find?_eq_some_iff]

/-- A look answers a question from a status: it brings what the status holds, it waits if the
status holds nothing, and it does not fail. -/
structure Look.Answers (l : Look) (s : Status) (q : Question) : Prop where
  found : ∀ f, l = .found f ↔ s.Holds q f
  waits : (∃ i, l = .waiting i) ↔ ∀ f, ¬s.Holds q f
  sound : ∀ e, l ≠ .failed e

/-! ## Inquiries that are up to date -/

namespace Inquiry

variable {i : Inquiry} {b : Board Status}

/-- What an inquiry has looked at did not answer it. -/
def Current (i : Inquiry) (b : Board Status) : Prop :=
  ∀ r, i.reader = some r → r.seen ≤ b.posts ∧ (r.seen = b.posts → b.value.find? i.question = none)

theorem current_ask (q : Question) (b : Board Status) : (ask q).Current b := by
  intro r looked
  exact absurd looked (by simp [ask])

theorem Current.news? (h : i.Current b) : i.news? b = b.value.find? i.question := by
  unfold Inquiry.news?
  cases news : i.hasNews b with
  | true => rfl
  | false =>
    have looked : i.reader = some b.reader := by simpa [hasNews] using news
    exact ((h b.reader looked).2 rfl).symm

theorem Current.look (h : i.Current b) (unclosed : b.closed = false) :
    i.look b = match b.value.find? i.question with
      | some f => .found f
      | none => .waiting { i with reader := some b.reader } := by
  unfold Inquiry.look
  rw [h.news?, unclosed]
  rfl

theorem Current.answers (h : i.Current b) (unclosed : b.closed = false) :
    (i.look b).Answers b.value i.question := by
  have look := h.look unclosed
  cases found : b.value.find? i.question with
  | none =>
    rw [found] at look
    have nothing := (b.value.find?_eq_none_iff i.question).mp found
    rw [look]
    exact ⟨fun f => by simp [nothing f], by simpa using nothing, by simp⟩
  | some f =>
    rw [found] at look
    have holds := (b.value.find?_eq_some_iff i.question f).mp found
    rw [look]
    refine ⟨fun g => ?_, ?_, by simp⟩
    · rw [← b.value.find?_eq_some_iff, found, Look.found.injEq, Option.some.injEq]
    · simpa using ⟨f, holds⟩

/-- An inquiry that goes on waiting has looked at everything. -/
theorem Current.of_waiting {i' : Inquiry} (h : i.Current b) (unclosed : b.closed = false)
    (waits : i.look b = .waiting i') : i'.question = i.question ∧ i'.Current b := by
  have look := h.look unclosed
  rw [waits] at look
  cases found : b.value.find? i.question with
  | some f => simp [found] at look
  | none =>
    rw [found] at look
    obtain rfl : i' = { i with reader := some b.reader } := Look.waiting.inj look
    refine ⟨rfl, fun r looked => ?_⟩
    obtain rfl : b.reader = r := Option.some.inj looked
    exact ⟨Nat.le_refl _, fun _ => found⟩

/-- A publication is news to every inquiry, and without one nothing changes. -/
theorem Current.counts {d d' : Desk} {published : Bool} (h : i.Current d.board)
    (counts : d.Counts d' published) : i.Current d'.board := by
  intro r looked
  obtain ⟨behind, unanswered⟩ := h r looked
  cases published with
  | true =>
    have more : d'.board.posts = d.board.posts + 1 := counts.2
    exact ⟨by omega, fun seen => by omega⟩
  | false =>
    obtain ⟨status, posts⟩ := counts
    refine ⟨by omega, fun seen => ?_⟩
    have same : d'.board.value = d.board.value := status
    rw [same]
    exact unanswered (by omega)

end Inquiry

namespace Desk

variable {d d' : Desk} {m : Move} {t : Turn} {newer j : Journal} {q : Question}

theorem Step.preferred (hs : d.Step m d' t) : d'.preferred = d.preferred := by
  cases hs <;> rfl

theorem preferred_run (d : Desk) (moves : List Move) : (d.run moves).preferred = d.preferred := by
  refine run_stays (P := fun d' => d'.preferred = d.preferred) ?_ rfl moves
  intro d' m d'' t same hs
  exact hs.preferred.trans same

/-- Only a drop gives the desk up. -/
theorem Step.gone (hs : d.Step m d' t) (stays : m ≠ .drop) : d'.gone = d.gone := by
  cases hs with
  | leaves => exact absurd rfl stays
  | abandons => exact absurd rfl stays
  | _ => rfl

/-- What lasts is what the last event since the reset said that said something to the question. -/
theorem Follows.find? (h : d.Follows j) (lasts : q.lasts = true) :
    d.status.find? q = j.last? q.answer? := by
  cases q with
  | method kind => exact absurd lasts (by simp [Question.lasts])
  | _ =>
    simp only [Status.find?, h.progress]
    exact List.map_findSome?

/-- An answer that lasts is there until the next reset, though it may become another. -/
theorem Follows.lasting (h : d.Follows j) (h' : d'.Follows (newer ++ j))
    (unreset : newer.resets = 0) (lasts : q.lasts = true) (held : ∃ f, d.status.Holds q f) :
    ∃ f, d'.status.Holds q f := by
  simp only [← Status.find?_eq_some_iff, ← Option.isSome_iff_exists] at held ⊢
  rw [h'.find? lasts, Journal.last?_append unreset, ← h.find? lasts, Option.isSome_or, held,
    Bool.or_true]

end Desk

/-- The name under which an act polls. -/
def Act.poller : Act → Option String
  | .wait name _ | .poll name => some name
  | _ => none

namespace Hall

/-! ## Polls -/

/-- The inquiry that an act polls: a getter's own, or the one that is kept under a name. -/
def polled (h : Hall) : Act → Option Inquiry
  | .get q | .wait _ q => if h.desk.gone then none else some (.ask q)
  | .poll name => h.inquiries.lookup name
  | _ => none

/-- The question that waits under a name. -/
def awaited (h : Hall) (name : String) : Option Question :=
  (h.inquiries.lookup name).map (·.question)

/-- The inquiries of a hall are up to date, and are asked of a desk that was not given up. -/
structure Attends (h : Hall) : Prop where
  orderly : h.desk.Orderly
  waits : ∀ p ∈ h.inquiries, h.desk.gone = false ∧ p.2.Current h.desk.board

variable {h : Hall} {a : Act} {i : Inquiry} {name other : String}

theorem lookup_asking_self (h : Hall) (name : String) (l : Look) :
    (h.asking name l).lookup name = match l with
      | .waiting i => some i
      | _ => none := by
  have gone : (h.inquiries.filter (·.1 != name)).lookup name = none := by
    rw [List.lookup_eq_none_iff]
    intro p hp
    rw [bne_comm]
    exact (List.mem_filter.mp hp).2
  cases l with
  | waiting i => exact List.lookup_cons.trans (by rw [beq_self_eq_true])
  | found f => exact gone
  | failed e => exact gone

theorem lookup_asking_other (h : Hall) (different : other ≠ name) (l : Look) :
    (h.asking name l).lookup other = h.inquiries.lookup other := by
  have kept : (h.inquiries.filter (·.1 != name)).lookup other = h.inquiries.lookup other := by
    induction h.inquiries with
    | nil => rfl
    | cons p rest ih =>
      by_cases own : p.1 = name
      · rw [List.filter_cons_of_neg (by simp [own]), ih, List.lookup_cons,
          beq_eq_false_iff_ne.mpr (own ▸ different)]
      · rw [List.filter_cons_of_pos (by simp [own]), List.lookup_cons, List.lookup_cons, ih]
  cases l with
  | waiting i =>
    refine List.lookup_cons.trans ?_
    rw [beq_eq_false_iff_ne.mpr different]
    exact kept
  | found f => exact kept
  | failed e => exact kept

theorem mem_asking {l : Look} {p : String × Inquiry} (hp : p ∈ h.asking name l) :
    p ∈ h.inquiries ∨ l = .waiting p.2 := by
  have others (hp : p ∈ h.inquiries.filter (·.1 != name)) : p ∈ h.inquiries :=
    (List.mem_filter.mp hp).1
  cases l with
  | waiting i =>
    rcases List.mem_cons.mp hp with rfl | kept
    · exact .inr rfl
    · exact .inl (others kept)
  | found f => exact .inl (others hp)
  | failed e => exact .inl (others hp)

/-- A poll looks at the board and leaves the desk; under a name it keeps what waits. -/
theorem act_polled (polled : h.polled a = some i) :
    (h.act a).2 = .look (i.look h.desk.board) ∧ (h.act a).1.desk = h.desk ∧
      (h.act a).1.inquiries = match a.poller with
        | some name => h.asking name (i.look h.desk.board)
        | none => h.inquiries := by
  cases a with
  | get q | wait name q =>
    simp only [Hall.polled] at polled
    split at polled
    · exact absurd polled (by simp)
    · rename_i present
      obtain rfl := Option.some.inj polled
      simp only [act, move?, observe, inquire, if_neg present, Act.poller, and_self]
  | poll name =>
    have found : h.inquiries.lookup name = some i := polled
    simp only [act, move?, observe, inquire, found, Act.poller, and_self]
  | _ => exact absurd polled (by simp [Hall.polled])

/-- An act that is no drop makes no drop. -/
theorem move?_ne_drop (stays : a ≠ .move .drop) : h.move? a ≠ some .drop := by
  intro drop
  cases a with
  | move m => exact stays (congrArg Act.move (Option.some.inj drop))
  | takeOut name slot =>
    obtain ⟨s, -, hs⟩ := Option.bind_eq_some_iff.mp drop
    obtain ⟨c, -, hc⟩ := Option.map_eq_some_iff.mp hs
    exact absurd hc (by simp)
  | _ => exact absurd drop (by simp [move?])

/-- Acts that do not poll leave the inquiries, unless the desk is dropped. -/
theorem act_unpolled (polled : h.polled a = none) (stays : a ≠ .move .drop) :
    (h.act a).1.inquiries = h.inquiries := by
  have other := move?_ne_drop (h := h) stays
  unfold act
  cases hm : h.move? a with
  | some m =>
    show h.inquiriesAfter m = h.inquiries
    cases m with
    | drop => exact absurd hm other
    | _ => rfl
  | none =>
    show (h.observe a).1.inquiries = h.inquiries
    cases a with
    | wait name q =>
      simp only [Hall.polled] at polled
      split at polled
      · rename_i left
        simp only [observe, left, if_true]
      · exact absurd polled (by simp)
    | poll name =>
      have nothing : h.inquiries.lookup name = none := polled
      simp only [observe, nothing]
    | see | subscribe | keep =>
      simp only [observe]
      split <;> rfl
    | _ => rfl

/-- Only a drop gives the desk up. -/
theorem gone_act (stays : a ≠ .move .drop) : (h.act a).1.desk.gone = h.desk.gone := by
  have other := move?_ne_drop (h := h) stays
  rw [act_desk]
  cases hm : h.move? a with
  | none => rfl
  | some m => exact (Desk.step_spec h.desk m).gone fun drop => other (hm.trans (congrArg some drop))

theorem Attends.polled (ha : h.Attends) (polled : h.polled a = some i) :
    i.Current h.desk.board ∧ h.desk.gone = false := by
  cases a with
  | get q | wait name q =>
    simp only [Hall.polled] at polled
    split at polled
    · exact absurd polled (by simp)
    · rename_i present
      obtain rfl := Option.some.inj polled
      exact ⟨Inquiry.current_ask q _, by simpa using present⟩
  | poll name =>
    obtain ⟨before, after, split, -⟩ := List.lookup_eq_some_iff.mp polled
    have member : (name, i) ∈ h.inquiries := by simp [split]
    exact (ha.waits _ member).symm
  | _ => exact absurd polled (by simp [Hall.polled])

theorem attends_ofKind (k : Payment.Kind) : (ofKind k).Attends where
  orderly := Desk.orderly_ofKind k
  waits _ hp := absurd hp List.not_mem_nil

theorem Attends.act (ha : h.Attends) (a : Act) : (h.act a).1.Attends where
  orderly := h.act_keeps (P := fun d _ => d.Orderly) (fun orderly hs => orderly.step hs)
    (j := []) ha.orderly a
  waits p hp := by
    cases polled : h.polled a with
    | some i =>
      obtain ⟨current, present⟩ := ha.polled polled
      obtain ⟨-, same, inquiries⟩ := act_polled polled
      rw [same]
      rw [inquiries] at hp
      cases under : a.poller with
      | none =>
        rw [under] at hp
        exact ha.waits p hp
      | some name =>
        rw [under] at hp
        -- What is kept has waited before, or has just looked.
        rcases mem_asking hp with kept | waits
        · exact ha.waits p kept
        · exact ⟨present, (current.of_waiting (ha.orderly.unclosed present) waits).2⟩
    | none =>
      by_cases dropped : a = .move .drop
      · rw [dropped] at hp
        exact absurd hp List.not_mem_nil
      · rw [act_unpolled polled dropped] at hp
        obtain ⟨present, current⟩ := ha.waits p hp
        obtain ⟨published, counts⟩ := h.counts_act a
        exact ⟨(gone_act dropped).trans present, current.counts counts⟩

theorem attends_after (k : Payment.Kind) (acts : List Act) : ((ofKind k).after acts).Attends := by
  induction acts using List.reverseRecOn with
  | nil => exact attends_ofKind k
  | append_singleton acts a ih =>
    rw [after_append]
    exact ih.act a

theorem journal_unreset {j : Journal} {more : List Act}
    (same : (h.journal j more).resets = j.resets) :
    ∃ newer : Journal, newer.resets = 0 ∧ h.journal j more = newer ++ j := by
  rw [(run_moves h j more).2] at same ⊢
  exact Desk.journal_unreset same

/-! ## What a poll does -/

theorem Attends.answers (ha : h.Attends) (polled : h.polled a = some i) :
    ∃ l, (h.act a).2 = .look l ∧ l.Answers h.desk.status i.question := by
  obtain ⟨current, present⟩ := ha.polled polled
  exact ⟨_, (act_polled polled).1, current.answers (ha.orderly.unclosed present)⟩

/-- A question goes on waiting under its name exactly if the poll did not answer it. -/
theorem Attends.awaited_polled (ha : h.Attends) (polled : h.polled a = some i)
    (under : a.poller = some name) (q : Question) :
    (h.act a).1.awaited name = some q ↔ i.question = q ∧ ∀ f, ¬h.desk.status.Holds i.question f := by
  obtain ⟨current, present⟩ := ha.polled polled
  have unclosed := ha.orderly.unclosed present
  have inquiries := (act_polled polled).2.2
  rw [under] at inquiries
  have waits := (current.answers unclosed).waits
  unfold awaited
  rw [inquiries, lookup_asking_self]
  cases look : i.look h.desk.board with
  | waiting i' =>
    have same := (current.of_waiting unclosed look).1
    have nothing := waits.mp ⟨i', look⟩
    exact ⟨fun awaits => ⟨same.symm.trans (Option.some.inj awaits), nothing⟩,
      fun asked => congrArg some (same.trans asked.1)⟩
  | found f => exact ⟨fun awaits => absurd awaits (by simp), fun asked => by
      obtain ⟨i', waiting⟩ := waits.mpr asked.2
      exact absurd (look.symm.trans waiting) (by simp)⟩
  | failed e => exact absurd look ((current.answers unclosed).sound e)

/-- Whatever else is done but a drop leaves a question waiting. -/
theorem awaited_other (a : Act) (other : a.poller ≠ some name) (stays : a ≠ .move .drop) :
    (h.act a).1.awaited name = h.awaited name := by
  unfold awaited
  cases polled : h.polled a with
  | some i =>
    rw [(act_polled polled).2.2]
    cases under : a.poller with
    | none => rfl
    | some poller =>
      have different : name ≠ poller := fun same => other (under.trans (congrArg some same.symm))
      rw [lookup_asking_other h different]
  | none => rw [act_unpolled polled stays]

/-- What answers a question that lasts does so until the next reset. -/
theorem lasting_after (k : Payment.Kind) (acts : List Act) {more : List Act} {q : Question}
    (lasts : q.lasts = true) (held : ∃ f, ((ofKind k).after acts).desk.status.Holds q f)
    (unreset : (((ofKind k).after acts).journal ((ofKind k).journal [] acts) more).resets =
      ((ofKind k).journal [] acts).resets) :
    ∃ f, (((ofKind k).after acts).after more).desk.status.Holds q f := by
  have follows := follows_after k (acts ++ more)
  -- Without a reset in between, the calls before are still among the calls.
  obtain ⟨newer, none, added⟩ := journal_unreset unreset
  rw [after_append, journal_append, added] at follows
  exact (follows_after k acts).lasting follows none lasts held

theorem preferred_after (k : Payment.Kind) (acts : List Act) :
    ((ofKind k).after acts).desk.preferred = k := by
  rw [(run_moves (ofKind k) [] acts).1]
  exact Desk.preferred_run (Desk.ofKind k) _

/-! ## Every run -/

/-- In every run, wherever its polls are placed: a poll brings the answer that the latest status
holds, the first method on offer if it asks for one of a kind, or it waits; it does not fail. The
preferred kind is the one the desk was opened with. Under a name a question waits from one poll that
does not answer it to the next, unless the desk is dropped. And once the status holds an answer to a
question that lasts, each later status holds one until the next reset, and each poll for it is
answered. -/
theorem polls_run (k : Payment.Kind) (acts : List Act) :
    let h := (ofKind k).after acts
    let j := (ofKind k).journal [] acts
    h.desk.preferredMethod = .method k.id ∧
      (∀ a i, h.polled a = some i →
        ∃ l, (h.act a).2 = .look l ∧ l.Answers h.desk.status i.question) ∧
      (∀ a i name q, h.polled a = some i → a.poller = some name →
        ((h.act a).1.awaited name = some q ↔
          i.question = q ∧ ∀ f, ¬h.desk.status.Holds i.question f)) ∧
      (∀ a name, a.poller ≠ some name → a ≠ .move .drop →
        (h.act a).1.awaited name = h.awaited name) ∧
      (∀ q, q.lasts = true → (∃ f, h.desk.status.Holds q f) → ∀ more,
        (h.journal j more).resets = j.resets →
          (∃ f, (h.after more).desk.status.Holds q f) ∧
            ∀ a i, (h.after more).polled a = some i → i.question = q →
              ∃ f, ((h.after more).act a).2 = .look (.found f)) := by
  intro h j
  have attends : h.Attends := attends_after k acts
  refine ⟨?_, fun a i polled => attends.answers polled,
    fun a i name q polled under => attends.awaited_polled polled under q,
    fun a name other stays => awaited_other a other stays, ?_⟩
  · exact congrArg (fun kind => Question.method kind.id) (preferred_after k acts)
  · intro q lasts held more unreset
    have later : ∃ f, (h.after more).desk.status.Holds q f :=
      lasting_after k acts lasts held unreset
    refine ⟨later, fun a i polled asked => ?_⟩
    subst asked
    have attends' : (h.after more).Attends := by
      rw [← after_append]
      exact attends_after k _
    obtain ⟨f, holds⟩ := later
    obtain ⟨l, look, answers⟩ := attends'.answers polled
    exact ⟨f, look.trans (congrArg Sight.look ((answers.found f).mpr holds))⟩

/-- A question for the token that waits since before session 0 was opened: after the token was said
and its callback was answered, a poll finds it. -/
theorem polls_run_waiting :
    let acts : List Act := [.wait "t" .token, .move .create, .move (.hear 0 (.dataRequested "x" 7))]
    let h := (ofKind .card).after (acts ++ [.move (.answer (.data []))])
    h.awaited "t" = some .token ∧ ∃ f, (h.act (.poll "t")).2 = .look (.found f) := by
  intro acts h
  obtain ⟨-, -, -, -, lasting⟩ := polls_run .card acts
  have said : ∃ f, ((ofKind .card).after acts).desk.status.Holds .token f := ⟨_, .token rfl⟩
  have later := lasting .token rfl said [.move (.answer (.data []))] (by decide)
  exact ⟨rfl, later.2 (.poll "t") ⟨.token, some ⟨0⟩⟩ rfl rfl⟩

end Hall

end EvmWallet.Checkout
