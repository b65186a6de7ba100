import EvmWallet.Proofs.Checkout.Published
import Mathlib.Data.List.Induction

/-!
# Callbacks

A callback is shared by every status that shows it, those kept from earlier included. Main
statement: it is taken out at most once in a run, by an answer or past the desk, is pending before
and spent from then on for every status that shows it; and a status shows only callbacks of events
that counted (`callback_taken_once`).
-/

namespace EvmWallet.Checkout

/-! ## Where callbacks come from -/

namespace Journal

theorem heard_mem_of_calls {j : Journal} {s : Nat} {e : Event} (h : (s, e) ∈ j.calls) :
    .heard s e ∈ j := by
  induction j with
  | nil => exact absurd h List.not_mem_nil
  | cons n j ih =>
    cases n with
    | opened s' => exact absurd h List.not_mem_nil
    | released s' => exact absurd h List.not_mem_nil
    | heard s' e' =>
      rcases List.mem_cons.mp h with same | h
      · obtain ⟨rfl, rfl⟩ := Prod.mk.inj same
        exact List.mem_cons_self
      · exact List.mem_cons_of_mem _ (ih h)
    | answered c => exact List.mem_cons_of_mem _ (ih h)
    | began s' => exact List.mem_cons_of_mem _ (ih h)
    | replaced s' => exact List.mem_cons_of_mem _ (ih h)
    | taken c => exact List.mem_cons_of_mem _ (ih h)
    | left => exact List.mem_cons_of_mem _ (ih h)

/-- What was delivered to a slot came with an event since the reset. -/
theorem call_of_delivered {slot : Slot} {callback : Nat} {j : Journal}
    (h : j.delivered slot = some callback) :
    ∃ s e, (s, e) ∈ j.calls ∧ e.callbackIn? slot = some callback := by
  obtain ⟨⟨s, e⟩, mem, he⟩ := List.exists_of_findSome?_eq_some h
  exact ⟨s, e, mem, he⟩

/-- An event is noted when it is sent and counts. -/
theorem heard_mem_note {j : Journal} {m : Desk.Move} {t : Turn} {s : Nat} {e : Event}
    (h : .heard s e ∈ j.note m t) : .heard s e ∈ j ∨ (m = .hear s e ∧ j.hears s = true) := by
  cases m with
  | hear s' e' =>
    by_cases heard : j.hears s' = true
    · rw [note, if_pos heard] at h
      rcases List.mem_cons.mp h with same | h
      · obtain ⟨rfl, rfl⟩ := Note.heard.inj same
        exact .inr ⟨rfl, heard⟩
      · exact .inl h
    · rw [note, if_neg heard] at h
      exact .inl h
  | _ =>
    left
    unfold note at h
    split at h <;> first | contradiction | exact h | simpa using h

end Journal

namespace Desk

variable {d d' : Desk} {m : Move} {t : Turn}

/-- What the journal has heard was sent in the run, and counted when it was sent. -/
theorem sent_of_heard (d : Desk) {moves : List Move} {s : Nat} {e : Event}
    (h : .heard s e ∈ d.journal [] moves) :
    ∃ before after, moves = before ++ .hear s e :: after ∧
      (d.journal [] before).hears s = true := by
  -- By the last move, whose note is the newest.
  induction moves using List.reverseRecOn with
  | nil => exact absurd h List.not_mem_nil
  | append_singleton moves m ih =>
    rw [journal_concat] at h
    rcases Journal.heard_mem_note h with old | ⟨rfl, heard⟩
    · obtain ⟨before, after, rfl, heard⟩ := ih old
      exact ⟨before, after ++ [m], by simp, heard⟩
    · exact ⟨moves, [], rfl, heard⟩

/-- A callback in a slot of the status after a run came with an event that was sent in the run and
counted then. -/
theorem sent_of_waiting (k : Payment.Kind) {moves : List Move} {slot : Slot} {callback : Nat}
    (h : ((ofKind k).run moves).status.progress.slots.get slot = some callback) :
    ∃ before s e after, moves = before ++ .hear s e :: after ∧ e.callbackIn? slot = some callback ∧
      ((ofKind k).journal [] before).hears s = true := by
  rw [← (follows_run k moves).waiting] at h
  obtain ⟨s, e, mem, carries⟩ := Journal.call_of_delivered (Journal.delivered_of_waiting h)
  obtain ⟨before, after, split, heard⟩ := sent_of_heard _ (Journal.heard_mem_of_calls mem)
  exact ⟨before, s, e, after, split, carries, heard⟩

/-! ## Callbacks that were taken -/

/-- A move takes a callback that was not taken before, or none. -/
theorem Step.taken (hs : d.Step m d' t) :
    d'.taken = d.taken ∨ ∃ callback, callback ∉ d.taken ∧ d'.taken = callback :: d.taken := by
  cases hs with
  | answers present waits pending => exact .inr ⟨_, by simpa using pending, rfl⟩
  | takes pending => exact .inr ⟨_, by simpa using pending, rfl⟩
  | _ => exact .inl rfl

/-- No callback is taken twice. -/
theorem taken_nodup (k : Payment.Kind) (moves : List Move) :
    ((ofKind k).run moves).taken.Nodup := by
  refine run_keeps (P := fun d _ => d.taken.Nodup) (j := []) ?_ List.nodup_nil moves
  intro d j m d' t nodup hs
  rcases hs.taken with same | ⟨callback, fresh, more⟩
  · rw [same]
    exact nodup
  · rw [more]
    exact List.nodup_cons.mpr ⟨fresh, nodup⟩

/-- What was taken stays taken. -/
theorem taken_run {callback : Nat} (h : callback ∈ d.taken) (moves : List Move) :
    callback ∈ (d.run moves).taken := by
  refine run_keeps (P := fun d _ => callback ∈ d.taken) (j := []) ?_ h moves
  intro d j m d' t mem hs
  rcases hs.taken with same | ⟨other, -, more⟩
  · rw [same]
    exact mem
  · rw [more]
    exact List.mem_cons_of_mem other mem

/-- What a slot of a status reports of its callback: whether it was taken. -/
def reports (d : Desk) (s : Status) (slot : Slot) : Option Bool :=
  (s.progress.slots.get slot).map d.taken.contains

/-- A callback is pending: whoever asks for it first gets it. -/
structure Pending (d : Desk) (callback : Nat) : Prop where
  reported : ∀ (s : Status) (slot : Slot), s.progress.slots.get slot = some callback →
    d.reports s slot = some false
  taken : (d.step (.take callback)).2 = .reply .done
  answered : ∀ a : Answer, d.gone = false →
    d.status.progress.slots.get a.slot = some callback →
      (d.step (.answer a)).2 = .call (.complete callback a)

/-- A callback is spent: nobody gets it any more. -/
structure Spent (d : Desk) (callback : Nat) : Prop where
  /-- Whatever status shows it, whenever it was published, reports that it was taken. -/
  reported : ∀ (s : Status) (slot : Slot), s.progress.slots.get slot = some callback →
    d.reports s slot = some true
  /-- It cannot be taken past the desk. -/
  taken : d.step (.take callback) = (d, .reply (.refused .callbackConsumed))
  /-- An answer that it would take is refused. -/
  answered : ∀ a : Answer, d.gone = false →
    d.status.progress.slots.get a.slot = some callback →
      d.step (.answer a) = (d, .reply (.refused .callbackConsumed))
  /-- No move completes it. -/
  final : ∀ m a, (d.step m).2 ≠ .call (.complete callback a)

/-- An answer completes a callback that waits for it and was not taken. -/
theorem Step.complete {callback : Nat} {a : Answer}
    (hs : d.Step m d' (.call (.complete callback a))) :
    m = .answer a ∧ d.status.progress.slots.get a.slot = some callback ∧
      d.taken.contains callback = false := by
  cases hs with
  | answers present waits pending => exact ⟨rfl, waits, pending⟩

theorem pending_of_not_taken {callback : Nat} (h : callback ∉ d.taken) : d.Pending callback := by
  have pending : ¬d.taken.contains callback = true := by simpa using h
  refine ⟨?_, ?_, ?_⟩
  · intro s slot shows
    rw [reports, shows, Option.map_some, Bool.eq_false_iff.mpr pending]
  · show Turn.reply (d.take callback).2 = _
    rw [take, if_neg pending]
  · intro a present waits
    show (d.answer a).2 = _
    rw [answer, if_neg (by simp [present]), waits]
    exact congrArg Prod.snd (if_neg pending)

theorem spent_of_taken {callback : Nat} (h : callback ∈ d.taken) : d.Spent callback := by
  have spent : d.taken.contains callback = true := List.contains_iff_mem.mpr h
  refine ⟨?_, ?_, ?_, ?_⟩
  · intro s slot shows
    rw [reports, shows, Option.map_some, spent]
  · show ((d.take callback).1, Turn.reply (d.take callback).2) = _
    rw [take, if_pos spent]
  · intro a present waits
    show d.answer a = _
    rw [answer, if_neg (by simp [present]), waits]
    exact if_pos spent
  · intro m a done
    have hs := step_spec d m
    rw [done] at hs
    have pending := hs.complete.2.2
    exact absurd (pending.symm.trans spent) (by simp)

/-- In every run, each callback is taken out at most once, by an answer or past the desk; it is
pending before and spent from then on, whatever comes after; a status shows only callbacks of
events that counted when they were sent; and so a callback that is handed over only once, by an
event of a session to which the status does not belong or after the desk was given up, is in no
status ever published. -/
theorem callback_taken_once (k : Payment.Kind) (moves : List Move) :
    let d := (ofKind k).run
    let j := (ofKind k).journal []
    (∀ callback, (j moves).consumed.count callback ≤ 1) ∧
      (∀ callback, callback ∉ (j moves).consumed → (d moves).Pending callback) ∧
      (∀ callback ∈ (j moves).consumed, ∀ more, (d (moves ++ more)).Spent callback) ∧
      (∀ slot callback, (d moves).status.progress.slots.get slot = some callback →
        ∃ before s e after, moves = before ++ .hear s e :: after ∧
          e.callbackIn? slot = some callback ∧ (j before).current = some s ∧ .left ∉ j before) ∧
      ∀ before s e after slot callback, moves = before ++ .hear s e :: after →
        e.callbackIn? slot = some callback → (j before).current ≠ some s ∨ .left ∈ j before →
        (∀ before' s' e' after' slot', moves = before' ++ .hear s' e' :: after' →
          e'.callbackIn? slot' = some callback → before' = before) →
        ∀ part, part <+: moves →
          ∀ slot', (d part).status.progress.slots.get slot' ≠ some callback := by
  intro d j
  have origin (part : List Move) (slot : Slot) (callback : Nat)
      (h : (d part).status.progress.slots.get slot = some callback) :
      ∃ before s e after, part = before ++ .hear s e :: after ∧
        e.callbackIn? slot = some callback ∧ (j before).current = some s ∧ .left ∉ j before := by
    obtain ⟨before, s, e, after, split, carries, heard⟩ := sent_of_waiting k h
    refine ⟨before, s, e, after, split, carries, ?_⟩
    simpa [Journal.hears] using heard
  refine ⟨?_, ?_, ?_, origin moves, ?_⟩
  · intro callback
    rw [← (follows_run k moves).taken]
    exact List.nodup_iff_count.mp (taken_nodup k moves) callback
  · intro callback pending
    rw [← (follows_run k moves).taken] at pending
    exact pending_of_not_taken pending
  · intro callback taken more
    rw [← (follows_run k moves).taken] at taken
    refine spent_of_taken ?_
    show callback ∈ ((ofKind k).run (moves ++ more)).taken
    rw [run_append]
    exact taken_run taken more
  · rintro before s e after slot callback split carries stale once part ⟨rest, rfl⟩ slot' shown
    obtain ⟨before', s', e', after', split', carries', current, present⟩ :=
      origin part slot' callback shown
    have whole : part ++ rest = before' ++ .hear s' e' :: (after' ++ rest) := by
      rw [split']
      simp
    -- What filled the slot is the one event with the callback, but that one did not count.
    have same : before' = before := once before' s' e' (after' ++ rest) slot' whole carries'
    subst same
    have event : Move.hear s' e' = .hear s e :=
      (List.cons.inj (List.append_cancel_left (whole.symm.trans split))).1
    obtain ⟨rfl, -⟩ := Move.hear.inj event
    rcases stale with other | left
    · exact other current
    · exact present left

/-- The callback of a redirect that comes after its session was cancelled waits in no slot. -/
theorem callback_taken_once_cancelled :
    ((ofKind .card).journal [] [.create, .resume, .resume, .cancel]).current ≠ some 0 ∧
      ((ofKind .card).run [.create, .resume, .resume, .cancel,
        .hear 0 (.redirected "app" 3)]).status.progress.slots.get .uri ≠ some 3 := by
  have late :
      ((ofKind .card).journal [] [.create, .resume, .resume, .cancel]).current ≠ some 0 := by
    decide
  refine ⟨late, ?_⟩
  refine (callback_taken_once .card _).2.2.2.2 _ 0 (.redirected "app" 3) [] .uri 3 rfl rfl (.inl late)
    ?_ _ (List.prefix_refl _) .uri
  intro before s e after slot split carries
  have only : before = [.create, .resume, .resume, .cancel] ∧
      (s = 0 ∧ e = .redirected "app" 3) ∧ after = [] := by
    simpa [List.cons_eq_append_iff] using split
  exact only.1

end Desk

end EvmWallet.Checkout
