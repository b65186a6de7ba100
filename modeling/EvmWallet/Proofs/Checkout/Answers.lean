import EvmWallet.Proofs.Bytes.Utf8
import EvmWallet.Proofs.Checkout.Between
import EvmWallet.Proofs.Checkout.Callbacks
import EvmWallet.Proofs.Checkout.Calls

/-!
# Answers

An answer is refused if nothing waits for it, or if what waits was taken already, and a refusal leaves
everything as it is. Any other answer completes the callback that was delivered last, and it is the
only completion of it in the whole run. When the completion is called, one status more is published: it
differs from the one before in its version and in the slots of all callbacks that were taken by then.
The main statement is `answer_completes_or_refused`.
-/

namespace EvmWallet.Checkout

/-! ## The latest callback -/

namespace Journal

/-- The callback came with the last event that was for the slot, and the status was not reset since. -/
def Latest (slot : Slot) (callback : Nat) (j : Journal) : Prop :=
  ∃ newer s e older, j = newer ++ .heard s e :: older ∧ e.callbackIn? slot = some callback ∧
    resets newer = 0 ∧ ∀ n ∈ newer, ¬n.Fills slot

variable {slot : Slot} {callback : Nat} {j : Journal}

theorem Latest.cons {n : Note} (h : Latest slot callback j) (unreset : n.resets = false)
    (keeps : ¬n.Fills slot) : Latest slot callback (n :: j) := by
  obtain ⟨newer, s, e, older, rfl, carries, same, quiet⟩ := h
  refine ⟨n :: newer, s, e, older, rfl, carries, ?_, ?_⟩
  · rw [resets_cons, same, unreset]
    rfl
  · intro n' mem
    rcases List.mem_cons.mp mem with rfl | mem
    · exact keeps
    · exact quiet n' mem

theorem latest_of_delivered (h : j.delivered slot = some callback) : Latest slot callback j := by
  induction j with
  | nil => exact absurd h (by simp [delivered, last?, calls])
  | cons n j ih =>
    cases n with
    | opened s => exact absurd h (by simp [delivered, last?, calls])
    | released s => exact absurd h (by simp [delivered, last?, calls])
    | heard s e =>
      rw [delivered_heard] at h
      cases own : e.callbackIn? slot with
      | none =>
        rw [own, Option.none_or] at h
        exact (ih h).cons rfl (by simp [Note.Fills, own])
      | some c =>
        rw [own, Option.some_or] at h
        exact ⟨[], s, e, j, rfl, own.trans h, rfl, by simp⟩
    | answered c => exact Latest.cons (ih h) rfl (by simp [Note.Fills])
    | began s => exact Latest.cons (ih h) rfl (by simp [Note.Fills])
    | replaced s => exact Latest.cons (ih h) rfl (by simp [Note.Fills])
    | taken c => exact Latest.cons (ih h) rfl (by simp [Note.Fills])
    | left => exact Latest.cons (ih h) rfl (by simp [Note.Fills])

end Journal

/-! ## Completions -/

/-- The answer with which a call completes a callback. -/
def Call.answerTo? (callback : Nat) : Call → Option Answer
  | .complete c a => if c = callback then some a else none
  | _ => none

namespace Desk

variable {d d' : Desk} {m : Move} {t : Turn} {callback : Nat}

/-- The answers with which a callback is completed in a run, in order. -/
def answersTo (d : Desk) (callback : Nat) (moves : List Move) : List Answer :=
  (d.calls moves).filterMap (Call.answerTo? callback)

theorem calls_append (d : Desk) (moves more : List Move) :
    d.calls (moves ++ more) = d.calls moves ++ (d.run moves).calls more := by
  induction moves generalizing d with
  | nil => rfl
  | cons m moves ih =>
    show (d.step m).2.call?.toList ++ (d.step m).1.calls (moves ++ more) = _
    rw [ih, ← List.append_assoc]
    rfl

theorem answersTo_append (d : Desk) (callback : Nat) (moves more : List Move) :
    d.answersTo callback (moves ++ more) =
      d.answersTo callback moves ++ (d.run moves).answersTo callback more := by
  unfold answersTo
  rw [calls_append, List.filterMap_append]

/-- A completion is a turn of the run. -/
theorem turn_of_mem_answersTo {a : Answer} {moves : List Move}
    (h : a ∈ d.answersTo callback moves) :
    ∃ before m after, moves = before ++ m :: after ∧
      ((d.run before).step m).2 = .call (.complete callback a) := by
  obtain ⟨c, called, completes⟩ := List.mem_filterMap.mp h
  cases c with
  | complete c b =>
    obtain ⟨rfl, rfl⟩ : c = callback ∧ b = a := by simpa [Call.answerTo?] using completes
    exact turn_of_mem_calls called
  | _ => exact absurd completes (by simp [Call.answerTo?])

/-- A callback that is completed is taken by that. -/
theorem Step.taken_of_complete {a : Answer} (hs : d.Step m d' (.call (.complete callback a))) :
    callback ∈ d'.taken := by
  cases hs with
  | answers present waits pending => exact List.mem_cons_self

/-- A callback that was not taken was not completed. -/
theorem answersTo_of_not_taken {moves : List Move} (h : callback ∉ (d.run moves).taken) :
    d.answersTo callback moves = [] := by
  refine List.eq_nil_iff_forall_not_mem.mpr fun a completed => h ?_
  obtain ⟨before, m, after, rfl, turn⟩ := turn_of_mem_answersTo completed
  have hs := step_spec (d.run before) m
  rw [turn] at hs
  rw [run_append]
  exact taken_run hs.taken_of_complete after

/-- A callback that was taken is not completed any more. -/
theorem answersTo_of_taken (h : callback ∈ d.taken) (moves : List Move) :
    d.answersTo callback moves = [] := by
  refine List.eq_nil_iff_forall_not_mem.mpr fun a completed => ?_
  obtain ⟨before, m, after, rfl, turn⟩ := turn_of_mem_answersTo completed
  exact (spent_of_taken (taken_run h before)).final m a turn

end Desk

/-! ## Statuses without callbacks -/

/-- A status follows another one without the callbacks that were taken: it has the next version, each
slot holds what it held unless that was taken, and nothing else is different. -/
structure Status.Clears (s s' : Status) (taken : List Nat) : Prop where
  only : s' = { s with version := s.version + 1, progress.slots := s'.progress.slots }
  slots : ∀ slot callback, s'.progress.slots.get slot = some callback ↔
    s.progress.slots.get slot = some callback ∧ callback ∉ taken

theorem Status.clears_advance (s : Status) (taken : List Nat) :
    s.Clears (s.advance { s.progress with slots := s.progress.slots.clear taken }) taken where
  only := rfl
  slots slot callback := by
    show (s.progress.slots.clear taken).get slot = _ ↔ _
    simp [Slots.get_clear, Option.filter_eq_some_iff]

namespace Desk

/-- An answer completes a callback in a run. -/
structure Completes (k : Payment.Kind) (moves : List Move) (a : Answer) (callback : Nat) : Prop where
  /-- It is the callback of the last event of its kind in the session. -/
  latest : Journal.Latest a.slot callback ((ofKind k).journal [] moves)
  call : (((ofKind k).run moves).step (.answer a)).2 = .call (.complete callback a)
  /-- Whatever comes later, this is the only completion of it. -/
  once : ∀ more, (ofKind k).answersTo callback (moves ++ .answer a :: more) = [a]
  /-- One status is published before the call. -/
  posts : (((ofKind k).run moves).step (.answer a)).1.board.posts =
    ((ofKind k).run moves).board.posts + 1
  /-- That status is without the callbacks that were taken, the one that is completed included. -/
  clears : ((ofKind k).run moves).status.Clears (((ofKind k).run moves).step (.answer a)).1.status
    (callback :: ((ofKind k).journal [] moves).consumed)

variable {d : Desk} {a : Answer} {callback : Nat}

/-- An answer to a desk that was not given up is refused, or completes what waits for it. -/
theorem step_answer_eq (present : d.gone = false) : d.step (.answer a) =
    match d.status.progress.slots.get a.slot with
    | none => (d, .reply (.refused (.invalidState (unasked a.slot))))
    | some callback =>
      if d.taken.contains callback then (d, .reply (.refused .callbackConsumed))
      else ((d.mark callback).tidy.push .completing, .call (.complete callback a)) :=
  if_neg (by simp [present])

theorem completes_of_pending {k : Payment.Kind} {moves : List Move}
    (present : ((ofKind k).run moves).gone = false)
    (waits : ((ofKind k).run moves).status.progress.slots.get a.slot = some callback)
    (pending : callback ∉ ((ofKind k).run moves).taken) : Completes k moves a callback := by
  have follows := follows_run k moves
  have step := step_answer_eq (a := a) present
  rw [waits] at step
  simp only [List.contains_iff_mem, if_neg pending] at step
  refine ⟨?_, congrArg Prod.snd step, fun more => ?_, ?_, ?_⟩
  · have waiting := waits
    rw [← follows.waiting] at waiting
    exact Journal.latest_of_delivered (Journal.delivered_of_waiting waiting)
  · -- Before this answer the callback was not taken, and from then on it is.
    have now : ((ofKind k).run moves).answersTo callback (.answer a :: more) =
        a :: (((ofKind k).run moves).step (.answer a)).1.answersTo callback more := by
      unfold answersTo
      rw [calls, step]
      simp [Turn.call?, Call.answerTo?]
    have later : callback ∈ (((ofKind k).run moves).step (.answer a)).1.taken := by
      rw [step]
      exact List.mem_cons_self
    rw [answersTo_append, answersTo_of_not_taken pending, now, answersTo_of_taken later]
    rfl
  · rw [step]
    rfl
  · rw [step, ← follows.taken]
    exact Status.clears_advance _ _

/-- In every run, whoever acts inside its calls, as long as the desk was not given up: an answer is
refused exactly if no callback waits for it, or if the callback that waits was taken already, each with
its own error, and then everything is left as it is. Otherwise the answer completes the callback that
waits, with just what was given. Payment data are given as the UTF-8 bytes of a text. -/
theorem answer_completes_or_refused (k : Payment.Kind) (moves : List Move) (a : Answer)
    (present : ((ofKind k).run moves).gone = false) :
    let d := (ofKind k).run moves
    let j := (ofKind k).journal [] moves
    let waits := d.status.progress.slots.get a.slot
    (∀ e, (d.step (.answer a)).2 = .reply (.refused e) ↔
      (waits = none ∧ e = .invalidState (unasked a.slot)) ∨
        (∃ callback ∈ j.consumed, waits = some callback) ∧ e = .callbackConsumed) ∧
      (∀ e, (d.step (.answer a)).2 = .reply (.refused e) → (d.step (.answer a)).1 = d) ∧
      (∀ callback, waits = some callback → callback ∉ j.consumed → Completes k moves a callback) ∧
      ∀ text, Answer.ofText text = .data text.toUTF8.data.toList := by
  intro d j waits
  have taken : d.taken = j.consumed := (follows_run k moves).taken
  have step : d.step (.answer a) = _ := step_answer_eq (a := a) present
  rw [← taken]
  refine ⟨?_, ?_, fun callback => completes_of_pending present, fun text => ?_⟩
  · intro e
    rw [step]
    change _ ↔ (d.status.progress.slots.get a.slot = none ∧ _) ∨
      (∃ callback ∈ d.taken, d.status.progress.slots.get a.slot = some callback) ∧ _
    cases d.status.progress.slots.get a.slot with
    | none => simp [eq_comm]
    | some callback =>
      by_cases spent : callback ∈ d.taken <;> simp [spent, eq_comm]
  · intro e
    rw [step]
    cases d.status.progress.slots.get a.slot with
    | none => simp
    | some callback =>
      by_cases spent : callback ∈ d.taken <;> simp [spent]
  · exact congrArg Answer.data (Bytes.utf8_eq text)

/-- A session asks for payment data, for a redirect and for a choice of method, and the callback of the
redirect is taken past the desk. Then the redirect cannot be answered any more, nobody waits for
details, and payment data complete their callback, which clears two of the three slots. -/
theorem answer_completes_or_refused_mixed :
    let moves : List Move := [.create, .resume, .resume, .hear 0 (.dataRequested "t" 10),
      .hear 0 (.redirected "app" 11), .hear 0 (.methodsOffered [] [] 12), .take 11]
    let d := (ofKind .card).run moves
    let form : Payment.Form := .blank (.named "card" "Card")
    d.gone = false ∧ d.status.progress.slots = ⟨some 10, some 12, some 11, none⟩ ∧
      (d.step (.answer (.details form))).2 =
        .reply (.refused (.invalidState
          "Not possible to finish payment with details no callback available.")) ∧
      (d.step (.answer (.service (.named "card" "Card")))).2 =
        .call (.complete 12 (.service (.named "card" "Card"))) ∧
      Completes .card moves (.ofText "é") 10 ∧
      (d.step (.answer (.ofText "é"))).1.status.progress.slots = ⟨none, some 12, none, none⟩ := by
  intro moves d form
  have present : d.gone = false := rfl
  obtain ⟨refused, -, -, -⟩ := answer_completes_or_refused .card moves (.details form) present
  obtain ⟨-, -, chosen, -⟩ :=
    answer_completes_or_refused .card moves (.service (.named "card" "Card")) present
  obtain ⟨-, -, completes, -⟩ := answer_completes_or_refused .card moves (.ofText "é") present
  exact ⟨present, rfl, (refused _).mpr (.inl ⟨rfl, rfl⟩), (chosen 12 rfl (by decide)).call,
    completes 10 rfl (by decide), rfl⟩

end Desk

end EvmWallet.Checkout
