import EvmWallet.Proofs.Checkout.Follows

/-!
# The calls of a run

The calls that the desk makes of the processor, in order, and what may come in between. While a
call is under way any moves may be made (`Nested`); a move is settled when all calls that it makes
itself have returned (`Settles`).

A session is started only while the status is its own (`Step.start`), and the status never
belongs again to a session that it has left (`Past.step`), so such a session is not started any
more (`Past.not_started`).
-/

namespace EvmWallet.Checkout

/-- The call at which a move stands. -/
def Turn.call? : Turn → Option Call
  | .call c => some c
  | .reply _ => none

namespace Desk

variable {d d' : Desk} {m : Move} {t : Turn} {s : Nat}

/-! ## Calls -/

/-- The calls that the desk makes in a run, in order. -/
def calls (d : Desk) : List Move → List Call
  | [] => []
  | m :: moves => (d.step m).2.call?.toList ++ (d.step m).1.calls moves

/-- A call of a run is the turn of one of its moves. -/
theorem turn_of_mem_calls {c : Call} {moves : List Move} (h : c ∈ d.calls moves) :
    ∃ before m after, moves = before ++ m :: after ∧ ((d.run before).step m).2 = .call c := by
  induction moves generalizing d with
  | nil => exact absurd h List.not_mem_nil
  | cons m moves ih =>
    rcases List.mem_append.mp h with now | later
    · refine ⟨[], m, moves, rfl, ?_⟩
      have now : (d.step m).2.call? = some c := Option.mem_toList.mp now
      show (d.step m).2 = .call c
      cases turn : (d.step m).2 with
      | call other =>
        rw [turn] at now
        rw [Option.some.inj now]
      | reply r =>
        rw [turn] at now
        exact absurd now (by simp [Turn.call?])
    · obtain ⟨before, m', after, rfl, turn⟩ := ih later
      exact ⟨m :: before, m', after, rfl, turn⟩

/-- What every effect keeps of a desk holds after a run. -/
theorem run_stays {P : Desk → Prop}
    (keeps : ∀ {d : Desk} {m : Move} {d' : Desk} {t : Turn}, P d → d.Step m d' t → P d')
    (h : P d) (moves : List Move) : P (d.run moves) :=
  run_keeps (P := fun d _ => P d) (j := []) keeps h moves

/-! ## Moves during a call -/

/-- Moves that are made while the innermost call is under way: it does not return among them, and is
the innermost again afterwards. -/
structure Nested (d : Desk) (moves : List Move) : Prop where
  under : ∀ n ≤ moves.length, d.frames <:+ (d.run (moves.take n)).frames
  back : (d.run moves).frames = d.frames

/-- The first of the moves is settled by the others: the calls that it makes itself, each of which
returns after moves nested in it, and its reply. -/
inductive Settles : Desk → List Move → List Call → Reply → Prop where
  | replies {d : Desk} {m : Move} {r : Reply} (turn : (d.step m).2 = .reply r) :
      Settles d [m] [] r
  | calls {d : Desk} {m : Move} {c : Call} {inner more : List Move} {own : List Call} {r : Reply}
      (turn : (d.step m).2 = .call c) (nested : (d.step m).1.Nested inner)
      (rest : Settles ((d.step m).1.run inner) (.resume :: more) own r) :
      Settles d (m :: (inner ++ .resume :: more)) (c :: own) r

/-! ## Cancels -/

/-- A cancel without a session in charge does nothing. -/
theorem step_cancel_free (present : d.gone = false) (free : d.live = none) :
    d.step .cancel = (d, .reply (.cancelled false)) := by
  simp [step, cancel, present, free]

/-- A cancel takes the session in charge away and has it cancelled. -/
theorem step_cancel_charge (present : d.gone = false) (charge : d.live = some s) :
    d.step .cancel = (d.release.push .cancelling, .call (.cancel s)) := by
  simp [step, cancel, present, charge]

/-! ## Calls that return -/

section Returning

variable {rest : List Frame}

/-- A session that was made is started if the status is its own. -/
theorem resume_making (innermost : d.frames = .making s :: rest)
    (current : d.status.session = some s) : (d.step .resume).2 = .call (.start s) := by
  have same : ({ d with frames := rest } : Desk).status.session = some s := current
  simp only [step, resume, innermost, made, if_pos same]

/-- A session that was made is cancelled if the status is not its own. -/
theorem resume_outdated (innermost : d.frames = .making s :: rest)
    (outdated : d.status.session ≠ some s) : (d.step .resume).2 = .call (.cancel s) := by
  have other : ({ d with frames := rest } : Desk).status.session ≠ some s := outdated
  simp only [step, resume, innermost, made, if_neg other]

/-- When the session before was cancelled, the new one is made. -/
theorem resume_opening (innermost : d.frames = .opening :: rest) :
    (d.step .resume).2 = .call (.make d.opened) ∧
      (d.step .resume).1.status = ⟨some d.opened, d.status.version + 1, .empty⟩ := by
  simp only [step, resume, innermost]
  exact ⟨rfl, rfl⟩

/-- When the session in charge was cancelled on demand, the reply is that there was one. -/
theorem resume_cancelling (innermost : d.frames = .cancelling :: rest) :
    (d.step .resume).2 = .reply (.cancelled true) := by
  simp only [step, resume, innermost]

/-- A completion that returns changes nothing else. -/
theorem resume_completing (innermost : d.frames = .completing :: rest) :
    (d.step .resume).1 = { d with frames := rest } := by
  simp only [step, resume, innermost]

end Returning

/-! ## Versions -/

theorem Step.version_le (hs : d.Step m d' t) : d.status.version ≤ d'.status.version := by
  cases hs with
  | hears heard => exact Nat.le_succ _
  | opens ready => exact Nat.le_succ _
  | releases asked present charge => exact Nat.le_succ _
  | answers present waits pending => exact Nat.le_succ _
  | abandons present idle charge => exact Nat.le_succ _
  | _ => exact Nat.le_refl _

/-- Versions do not decrease. -/
theorem version_le_run (d : Desk) (moves : List Move) :
    d.status.version ≤ (d.run moves).status.version :=
  run_stays (P := fun d' => d.status.version ≤ d'.status.version)
    (fun le hs => Nat.le_trans le hs.version_le) (Nat.le_refl _) moves

/-! ## Sessions that the status has left -/

/-- The status belongs to a session that was opened, or to none. -/
def Numbered (d : Desk) : Prop := ∀ s, d.status.session = some s → s < d.opened

/-- A move leaves the session of the status, takes it away, or opens the next one. -/
theorem Step.session (hs : d.Step m d' t) :
    (d'.opened = d.opened ∧ (d'.status.session = d.status.session ∨ d'.status.session = none)) ∨
      (d'.opened = d.opened + 1 ∧ d'.status.session = some d.opened) := by
  cases hs with
  | opens ready => exact .inr ⟨rfl, rfl⟩
  | releases asked present charge => exact .inl ⟨rfl, .inr rfl⟩
  | abandons present idle charge => exact .inl ⟨rfl, .inr rfl⟩
  | _ => exact .inl ⟨rfl, .inl rfl⟩

theorem Step.opened_le (hs : d.Step m d' t) : d.opened ≤ d'.opened := by
  rcases hs.session with ⟨opened, -⟩ | ⟨opened, -⟩ <;> omega

theorem opened_le_run (d : Desk) (moves : List Move) : d.opened ≤ (d.run moves).opened :=
  run_stays (P := fun d' => d.opened ≤ d'.opened)
    (fun le hs => Nat.le_trans le hs.opened_le) (Nat.le_refl _) moves

theorem Numbered.step (h : d.Numbered) (hs : d.Step m d' t) : d'.Numbered := by
  intro s current
  rcases hs.session with ⟨opened, same | none⟩ | ⟨opened, next⟩
  · rw [opened]
    exact h s (same.symm.trans current)
  · exact absurd (none.symm.trans current) (by simp)
  · have last : d.opened = s := Option.some.inj (next.symm.trans current)
    omega

theorem numbered_run (k : Payment.Kind) (moves : List Move) : ((ofKind k).run moves).Numbered := by
  refine run_stays Numbered.step ?_ moves
  intro s current
  exact absurd current (by simp [ofKind, status, Board.showing, Status.initial])

/-- A session that was opened, and that the status has left. -/
structure Past (d : Desk) (s : Nat) : Prop where
  opened : s < d.opened
  other : d.status.session ≠ some s

/-- The status does not return to a session: the next one has a new number. -/
theorem Past.step (h : d.Past s) (hs : d.Step m d' t) : d'.Past s := by
  refine ⟨Nat.lt_of_lt_of_le h.opened hs.opened_le, fun again => ?_⟩
  -- Only an opening can bring a session to the status, and it brings one that was not opened yet.
  have before := h.opened
  rcases hs.session with ⟨-, same | none⟩ | ⟨-, next⟩
  · exact h.other (same.symm.trans again)
  · exact absurd (none.symm.trans again) (by simp)
  · have last : d.opened = s := Option.some.inj (next.symm.trans again)
    omega

theorem Past.run (h : d.Past s) (moves : List Move) : (d.run moves).Past s :=
  run_stays Past.step h moves

/-- A session is made under the next number, and the call for it is the innermost then. -/
theorem Step.make (hs : d.Step m d' (.call (.make s))) :
    s = d.opened ∧ d'.opened = d.opened + 1 ∧ ∃ rest, d'.frames = .making s :: rest := by
  cases hs with
  | opens ready => exact ⟨rfl, rfl, _, rfl⟩

/-- A session is started when it was made, if the status is its own. -/
theorem Step.start (hs : d.Step m d' (.call (.start s))) :
    m = .resume ∧ d.status.session = some s ∧ ∃ rest, d.frames = .making s :: rest := by
  cases hs with
  | begins made current => exact ⟨rfl, current, _, made⟩

/-- A session that the status has left is not started. -/
theorem Past.not_started (h : d.Past s) (moves : List Move) : .start s ∉ d.calls moves := by
  intro started
  obtain ⟨before, m, after, rfl, turn⟩ := turn_of_mem_calls started
  have hs := step_spec (d.run before) m
  rw [turn] at hs
  exact (h.run before).other hs.start.2.1

end Desk

end EvmWallet.Checkout
