import EvmWallet.Proofs.Checkout.Journal

/-!
# The desk follows its journal

`Desk.Follows d j` says that all that the desk `d` shows and holds is what the journal `j` tells:
the status with its version, the session in charge, how many sessions were opened, the callbacks
taken, whether it was given up. Every effect keeps it (`Follows.step`), so it holds after every run
(`follows_run`). What a turn of the desk adds to the journal is then what the journal has due for the
move (`Follows.note_eq`, `journal_concat_eq_due`).
-/

namespace EvmWallet.Checkout

/-! ## How a note changes the parts of a journal -/

namespace Journal

variable {α : Type} (j : Journal)

theorem last?_heard (part : Event → Option α) (s : Nat) (e : Event) :
    last? part (.heard s e :: j) = (part e).or (last? part j) := by
  unfold last?
  rw [calls, List.findSome?_cons]
  cases part e <;> rfl

theorem slots_get (slot : Slot) : j.progress.slots.get slot = j.waiting slot := by
  cases slot <;> rfl

theorem slots_ext {s t : Slots} (h : ∀ slot, s.get slot = t.get slot) : s = t := by
  obtain ⟨data, service, uri, details⟩ := s
  have hd : data = t.data := h .data
  have hs : service = t.service := h .service
  have hu : uri = t.uri := h .uri
  have hf : details = t.details := h .details
  rw [hd, hs, hu, hf]

/-- An event that counts is applied to the progress. -/
theorem progress_heard (s : Nat) (e : Event) :
    progress (.heard s e :: j) = e.apply j.progress := by
  cases e <;>
    simp [progress, last?_heard, waiting, Event.apply, Event.token?, Event.outcome?,
      Event.offered?, Event.recurring?, Event.fields?, Event.request?, Event.redirectUrl?,
      Event.callbackIn?, Event.callback?, Slots.put]

/-- An answer takes the callbacks that were taken out of their slots. -/
theorem progress_answered (callback : Nat) :
    progress (.answered callback :: j) =
      { j.progress with slots := j.progress.slots.clear (callback :: j.consumed) } := by
  have hslots : (progress (.answered callback :: j)).slots =
      j.progress.slots.clear (callback :: j.consumed) := by
    apply slots_ext
    intro slot
    rw [slots_get, Slots.get_clear, slots_get]
    rfl
  rw [← hslots]
  rfl

theorem publications_cons (n : Note) :
    publications (n :: j) = j.publications + if n.published then 1 else 0 :=
  List.countP_cons

theorem status_opened (s : Nat) : status (.opened s :: j) = j.status.reset (some s) := by
  unfold status
  rw [publications_cons]
  rfl

theorem status_released (s : Nat) : status (.released s :: j) = j.status.reset none := by
  unfold status
  rw [publications_cons]
  rfl

theorem status_heard (s : Nat) (e : Event) :
    status (.heard s e :: j) = j.status.advance (e.apply j.progress) := by
  unfold status
  rw [publications_cons, progress_heard]
  rfl

theorem status_answered (callback : Nat) :
    status (.answered callback :: j) = j.status.advance
      { j.progress with slots := j.progress.slots.clear (callback :: j.consumed) } := by
  unfold status
  rw [publications_cons, progress_answered]
  rfl

/-- Notes without a publication open no session. -/
theorem sessions_of_unpublished {n : Note} (h : n.published = false) :
    sessions (n :: j) = j.sessions := by
  cases n <;> first | rfl | simp [Note.published] at h

/-- Notes without a publication leave the status. -/
theorem status_of_unpublished {n : Note} (h : n.published = false) :
    status (n :: j) = j.status := by
  unfold status
  rw [publications_cons, h]
  cases n <;> first | rfl | simp [Note.published] at h

end Journal

namespace Desk

variable {d d' : Desk} {j : Journal} {m : Move} {t : Turn}

/-! ## A desk that was given up -/

/-- How a desk is given up: it listens to nobody from then on, and has nothing left to do but to
end publication once the last session is cancelled. -/
structure Orderly (d : Desk) : Prop where
  closed : d.board.closed = true → d.gone = true
  silent : d.gone = true → d.board.closed = true ∨ d.status.session = none
  last : d.gone = true → ∀ f ∈ d.frames, f = .closing
  closing : .closing ∈ d.frames → d.gone = true

/-- While anything else is under way the desk is not given up. -/
theorem Orderly.present (h : d.Orderly) {f : Frame} (hf : f ∈ d.frames) (other : f ≠ .closing) :
    d.gone = false := by
  cases left : d.gone with
  | false => rfl
  | true => exact absurd (h.last left f hf) other

theorem orderly_ofKind (k : Payment.Kind) : (ofKind k).Orderly where
  closed := by simp [ofKind, Board.showing]
  silent := by simp [ofKind]
  last := by simp [ofKind]
  closing := by simp [ofKind]

/-- While the desk is not given up, only the frames have to be looked at. -/
theorem Orderly.of_present (present : d.gone = false)
    (closed : d.board.closed = true → d.gone = true)
    (closing : .closing ∈ d.frames → d.gone = true) : d.Orderly where
  closed := closed
  silent left := absurd (present.symm.trans left) (by simp)
  last left := absurd (present.symm.trans left) (by simp)
  closing := closing

theorem Orderly.step (h : d.Orderly) (hs : d.Step m d' t) : d'.Orderly := by
  cases hs with
  | stays refused => exact h
  | ignores unheard => exact h
  | hears heard => exact ⟨h.closed, h.silent, h.last, h.closing⟩
  | opens ready =>
    rcases ready with ⟨-, present, -, rfl⟩ | ⟨-, opening⟩
    · exact .of_present present h.closed (by simpa using h.closing)
    · -- A session that is still to be opened keeps the desk from being given up.
      have present := h.present (f := .opening) (by simp [opening]) (by simp)
      have closing := h.closing
      rw [opening] at closing
      exact .of_present present h.closed (by simpa using closing)
  | releases asked present charge =>
    refine .of_present present h.closed ?_
    rcases asked with ⟨-, rfl⟩ | ⟨-, rfl⟩ <;> simpa using h.closing
  | answers present waits pending =>
    exact .of_present present h.closed (by simpa using h.closing)
  | takes pending => exact ⟨h.closed, h.silent, h.last, h.closing⟩
  | leaves present idle free =>
    refine ⟨fun _ => rfl, fun _ => .inl rfl, ?_, fun _ => rfl⟩
    intro _ f hf
    rw [idle] at hf
    exact absurd hf List.not_mem_nil
  | abandons present idle charge =>
    exact ⟨fun _ => rfl, fun _ => .inr rfl, fun _ f hf => List.mem_singleton.mp hf, fun _ => rfl⟩
  | @begins s rest made current =>
    have present := h.present (f := .making s) (by simp [made]) (by simp)
    have closing := h.closing
    rw [made] at closing
    exact .of_present present h.closed (by simpa using closing)
  | @replaces s rest made outdated =>
    have present := h.present (f := .making s) (by simp [made]) (by simp)
    have closing := h.closing
    rw [made] at closing
    exact .of_present present h.closed (by simpa using closing)
  | @returns f rest r innermost returns =>
    have inner {f' : Frame} (hf : f' ∈ rest) : f' ∈ d.frames := by
      rw [innermost]
      exact List.mem_cons_of_mem f hf
    exact ⟨h.closed, h.silent, fun left f' hf => h.last left f' (inner hf),
      fun hf => h.closing (inner hf)⟩
  | @closes rest innermost =>
    have left : d.gone = true := h.closing (by simp [innermost])
    refine ⟨fun _ => left, fun _ => .inl rfl, ?_, fun _ => left⟩
    intro _ f hf
    exact h.last left f (by rw [innermost]; exact List.mem_cons_of_mem _ hf)

/-! ## The desk and its journal -/

/-- The desk shows and holds what the journal tells. -/
structure Follows (d : Desk) (j : Journal) : Prop where
  status : d.status = j.status
  posts : d.board.posts = j.publications
  live : d.live = j.charge
  opened : d.opened = j.sessions
  taken : d.taken = j.consumed
  gone : d.gone = j.contains .left

theorem Follows.session (h : d.Follows j) : d.status.session = j.current := by
  rw [h.status]
  rfl

theorem Follows.progress (h : d.Follows j) : d.status.progress = j.progress := by
  rw [h.status]
  rfl

theorem Follows.waiting (h : d.Follows j) (slot : Slot) :
    j.waiting slot = d.status.progress.slots.get slot := by
  rw [h.progress, Journal.slots_get]

/-- The desk listens to whom the journal says. -/
theorem Follows.hears_eq (h : d.Follows j) (ho : d.Orderly) (s : Nat) : d.hears s = j.hears s := by
  unfold Desk.hears Journal.hears
  rw [← h.session, ← h.gone]
  -- The board may close later than the desk is given up, but no session has the status then.
  cases left : d.gone with
  | false =>
    have still : d.board.closed = false := by
      cases closed : d.board.closed with
      | false => rfl
      | true => exact absurd ((ho.closed closed).symm.trans left) (by simp)
    simp [still]
  | true =>
    rcases ho.silent left with closed | none
    · simp [closed]
    · simp [none]

theorem follows_ofKind (k : Payment.Kind) : (ofKind k).Follows [] :=
  ⟨rfl, rfl, rfl, rfl, rfl, rfl⟩

/-- A refusal leaves no note. -/
theorem Refuses.note {r : Reply} (h : d.Refuses m r) (j : Journal) : j.note m (.reply r) = j := by
  cases h with
  | shut _ user => rcases user with rfl | rfl | ⟨a, rfl⟩ <;> rfl
  | _ => rfl

/-- An event that the desk does not listen to leaves no note. -/
theorem Follows.note_ignored (h : d.Follows j) (ho : d.Orderly) {s : Nat} {e : Event}
    (unheard : d.hears s = false) : j.note (.hear s e) (.reply .done) = j := by
  rw [h.hears_eq ho] at unheard
  simp [Journal.note, unheard]

theorem Follows.note_heard (h : d.Follows j) (ho : d.Orderly) {s : Nat} {e : Event}
    (heard : d.hears s = true) : j.note (.hear s e) (.reply .done) = .heard s e :: j := by
  rw [h.hears_eq ho] at heard
  simp [Journal.note, heard]

theorem note_opens {P Q : Prop} {s : Nat} (ready : (m = .create ∧ P) ∨ (m = .resume ∧ Q)) :
    j.note m (.call (.make s)) = .opened s :: j := by
  rcases ready with ⟨rfl, -⟩ | ⟨rfl, -⟩ <;> rfl

theorem note_releases {P Q : Prop} {s : Nat} (asked : (m = .create ∧ P) ∨ (m = .cancel ∧ Q)) :
    j.note m (.call (.cancel s)) = .released s :: j := by
  rcases asked with ⟨rfl, -⟩ | ⟨rfl, -⟩ <;> rfl

/-- A desk that publishes the status of a note follows the note. -/
theorem Follows.publish (h : d.Follows j) {n : Note} {s : Status} (published : n.published = true)
    (shows : s = Journal.status (n :: j)) (board : d'.board = d.board.post s)
    (live : d'.live = Journal.charge (n :: j)) (opened : d'.opened = Journal.sessions (n :: j))
    (taken : d'.taken = Journal.consumed (n :: j)) (gone : d'.gone = d.gone) :
    d'.Follows (n :: j) := by
  refine ⟨?_, ?_, live, opened, taken, ?_⟩
  · rw [← shows, Desk.status, board]
    rfl
  · rw [Journal.publications_cons, if_pos published, ← h.posts, board]
    rfl
  · have other : n ≠ .left := by
      rintro rfl
      exact absurd published (by simp [Note.published])
    rw [gone, h.gone]
    cases n <;> first | exact absurd rfl other | simp

/-- A desk that leaves its status follows a note without a publication. -/
theorem Follows.hold (h : d.Follows j) {n : Note} (unpublished : n.published = false)
    (shows : d'.status = d.status) (posts : d'.board.posts = d.board.posts)
    (live : d'.live = Journal.charge (n :: j)) (opened : d'.opened = d.opened)
    (taken : d'.taken = Journal.consumed (n :: j)) (gone : d'.gone = (.left == n || d.gone)) :
    d'.Follows (n :: j) := by
  refine ⟨?_, ?_, live, ?_, taken, ?_⟩
  · rw [Journal.status_of_unpublished j unpublished, shows]
    exact h.status
  · rw [Journal.publications_cons, unpublished, posts]
    exact h.posts
  · rw [opened, h.opened, Journal.sessions_of_unpublished j unpublished]
  · rw [gone, h.gone, List.contains_cons]

/-- Every effect keeps the desk and its journal in step. -/
theorem Follows.step (h : d.Follows j) (ho : d.Orderly) (hs : d.Step m d' t) :
    d'.Follows (j.note m t) := by
  cases hs with
  | stays refused =>
    rw [refused.note]
    exact h
  | ignores unheard =>
    rw [h.note_ignored ho unheard]
    exact h
  | hears heard =>
    rw [h.note_heard ho heard]
    refine h.publish rfl ?_ rfl h.live h.opened h.taken rfl
    rw [Journal.status_heard, ← h.status, ← h.progress]
  | opens ready =>
    rw [note_opens ready]
    refine h.publish rfl ?_ rfl h.live (congrArg Nat.succ h.opened) h.taken rfl
    rw [Journal.status_opened, ← h.status]
  | releases asked present charge =>
    rw [note_releases asked]
    refine h.publish rfl ?_ rfl rfl h.opened h.taken rfl
    rw [Journal.status_released, ← h.status]
  | @answers a callback present waits pending =>
    refine h.publish (n := .answered callback) rfl ?_ rfl h.live h.opened ?_ rfl
    · rw [Journal.status_answered, ← h.status, ← h.progress, ← h.taken]
    · rw [h.taken]
      rfl
  | @takes callback pending =>
    refine h.hold (n := .taken callback) rfl rfl rfl h.live rfl ?_ rfl
    rw [h.taken]
    rfl
  | leaves present idle free => exact h.hold (n := .left) rfl rfl rfl h.live rfl h.taken rfl
  | @abandons s present idle charge =>
    -- Two notes are made: the session is taken away, and then the desk is given up.
    have released : Follows { d with live := none, board := d.board.post (d.status.reset none) }
        (.released s :: j) := by
      refine h.publish rfl ?_ rfl rfl h.opened h.taken rfl
      rw [Journal.status_released, ← h.status]
    exact released.hold (n := .left) rfl rfl rfl rfl rfl h.taken rfl
  | @begins s rest made current => exact h.hold (n := .began s) rfl rfl rfl rfl rfl h.taken rfl
  | @replaces s rest made outdated =>
    exact h.hold (n := .replaced s) rfl rfl rfl h.live rfl h.taken rfl
  | returns innermost returns => exact ⟨h.status, h.posts, h.live, h.opened, h.taken, h.gone⟩
  | closes innermost => exact ⟨h.status, h.posts, h.live, h.opened, h.taken, h.gone⟩

/-! ## What is due -/

theorem Follows.left_mem_iff (h : d.Follows j) : .left ∈ j ↔ d.gone = true := by
  rw [h.gone, List.contains_iff_mem]

theorem Follows.mem_consumed_iff (h : d.Follows j) (callback : Nat) :
    callback ∈ j.consumed ↔ d.taken.contains callback = true := by
  rw [h.taken, List.contains_iff_mem]

/-- Nothing is due for a move that is refused. -/
theorem Follows.due_refused (h : d.Follows j) {r : Reply} (refused : d.Refuses m r) :
    j.due d.frames m = [] := by
  cases refused with
  | shut left user =>
    rcases user with rfl | rfl | ⟨a, rfl⟩ <;> exact if_pos (h.left_mem_iff.mpr left)
  | free present free => simp only [Journal.due, ← h.live, free, ite_self]
  | unasked present nobody => simp only [Journal.due, h.waiting, nobody, ite_self]
  | spent present waits spent =>
    simp only [Journal.due, h.waiting, waits, (h.mem_consumed_iff _).mpr spent, if_true, ite_self]
  | taken spent => exact if_pos ((h.mem_consumed_iff _).mpr spent)
  | held held => exact if_pos (held.imp_left h.left_mem_iff.mpr)
  | idle idle =>
    rw [idle]
    rfl

/-- What is noted of a turn is what was due by the journal. -/
theorem Follows.note_eq (h : d.Follows j) (ho : d.Orderly) (hs : d.Step m d' t) :
    j.note m t = j.due d.frames m ++ j := by
  have here (present : d.gone = false) : .left ∉ j := by simp [h.left_mem_iff, present]
  have unspent {callback : Nat} (pending : d.taken.contains callback = false) :
      callback ∉ j.consumed := by
    rw [h.mem_consumed_iff, pending]
    exact Bool.false_ne_true
  cases hs with
  | stays refused => rw [refused.note, h.due_refused refused, List.nil_append]
  | ignores unheard =>
    rw [h.note_ignored ho unheard]
    rw [h.hears_eq ho] at unheard
    simp [Journal.due, unheard]
  | hears heard =>
    rw [h.note_heard ho heard]
    rw [h.hears_eq ho] at heard
    simp [Journal.due, heard]
  | opens ready =>
    rw [note_opens ready, h.opened]
    rcases ready with ⟨rfl, present, free, -⟩ | ⟨rfl, opening⟩
    · simp [Journal.due, here present, ← h.live, free]
    · rw [opening]
      rfl
  | releases asked present charge =>
    rw [note_releases asked]
    rcases asked with ⟨rfl, -⟩ | ⟨rfl, -⟩ <;> simp [Journal.due, here present, ← h.live, charge]
  | answers present waits pending =>
    simp [Journal.due, Journal.note, here present, h.waiting, waits, unspent pending]
  | takes pending => simp [Journal.due, Journal.note, unspent pending]
  | leaves present idle free =>
    simp [Journal.due, Journal.note, here present, idle, ← h.live, free]
  | abandons present idle charge =>
    simp [Journal.due, Journal.note, here present, idle, ← h.live, charge]
  | begins made current =>
    rw [h.session] at current
    simp [Journal.due, Journal.note, made, current]
  | replaces made outdated =>
    rw [h.session] at outdated
    simp [Journal.due, Journal.note, made, outdated]
  | returns innermost returns =>
    rw [innermost]
    cases returns <;> rfl
  | closes innermost =>
    rw [innermost]
    rfl

/-! ## Every run -/

/-- What every effect keeps of a desk that follows its journal holds after a run. -/
theorem run_follows {P : Desk → Journal → Prop}
    (keeps : ∀ {d : Desk} {j : Journal} {m : Move} {d' : Desk} {t : Turn},
      d.Follows j → d.Orderly → P d j → d.Step m d' t → P d' (j.note m t))
    (k : Payment.Kind) (start : P (ofKind k) []) (moves : List Move) :
    ((ofKind k).run moves).Follows ((ofKind k).journal [] moves) ∧
      P ((ofKind k).run moves) ((ofKind k).journal [] moves) := by
  have all : (((ofKind k).run moves).Follows ((ofKind k).journal [] moves) ∧
      ((ofKind k).run moves).Orderly) ∧
        P ((ofKind k).run moves) ((ofKind k).journal [] moves) := by
    refine run_keeps (P := fun d j => (d.Follows j ∧ d.Orderly) ∧ P d j) ?_
      ⟨⟨follows_ofKind k, orderly_ofKind k⟩, start⟩ moves
    rintro d j m d' t ⟨⟨follows, orderly⟩, hp⟩ hs
    exact ⟨⟨follows.step orderly hs, orderly.step hs⟩, keeps follows orderly hp hs⟩
  exact ⟨all.1.1, all.2⟩

/-- The desk shows and holds after a run what the journal of the run tells. -/
theorem follows_run (k : Payment.Kind) (moves : List Move) :
    ((ofKind k).run moves).Follows ((ofKind k).journal [] moves) :=
  (run_follows (P := fun _ _ => True) (fun _ _ _ _ => trivial) k trivial moves).1

theorem orderly_run (k : Payment.Kind) (moves : List Move) : ((ofKind k).run moves).Orderly :=
  (run_follows (P := fun d _ => d.Orderly) (fun _ _ orderly hs => orderly.step hs) k
    (orderly_ofKind k) moves).2

/-- The journal of a run tells by itself, with the calls under way, what a further move adds to it. -/
theorem journal_concat_eq_due (k : Payment.Kind) (moves : List Move) (m : Move) :
    (ofKind k).journal [] (moves ++ [m]) =
      Journal.due ((ofKind k).journal [] moves) ((ofKind k).run moves).frames m ++
        (ofKind k).journal [] moves := by
  rw [journal_concat]
  exact (follows_run k moves).note_eq (orderly_run k moves) (step_spec _ m)

end Desk

end EvmWallet.Checkout
