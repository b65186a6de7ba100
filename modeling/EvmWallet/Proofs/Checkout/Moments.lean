import EvmWallet.Proofs.Checkout.Charge

/-!
# What is published at each call

Whoever is called by the desk can look at the latest status. Main statement: a session is made
under its own empty status, with a number that no status had before, and is started under its own;
the session in charge is cancelled under a cleared status, and a session that was made too late
under a status that is not its own; a new session is opened over another in two publications, the
cleared status before the old one is cancelled and the empty status before the new one is made,
whatever happens in between (`published_at_calls`).
-/

namespace EvmWallet.Checkout

/-- A status of one session, or of none, that shows nothing at all. -/
structure Status.Blank (s : Status) (whose : Option Nat) : Prop where
  session : s.session = whose
  progress : s.progress = .empty

namespace Desk

variable {d d' : Desk} {m : Move} {t : Turn}

/-- What is published at the moment of a call, by the move that makes it. -/
inductive Shown : Move → Call → Status → Prop where
  /-- A session is made, at once or when the one before was cancelled. -/
  | make {m : Move} {n : Nat} {s : Status} (asked : m = .create ∨ m = .resume)
      (blank : s.Blank (some n)) : Shown m (.make n) s
  | start {n : Nat} {s : Status} (own : s.session = some n) : Shown .resume (.start n) s
  /-- The session in charge is cancelled: for a new one, on demand, or when the desk is given up. -/
  | cancel {m : Move} {n : Nat} {s : Status} (asked : m = .create ∨ m = .cancel ∨ m = .drop)
      (blank : s.Blank none) : Shown m (.cancel n) s
  /-- A session that was made is cancelled instead of started. -/
  | replaced {n : Nat} {s : Status} (other : s.session ≠ some n) : Shown .resume (.cancel n) s
  | complete {a : Answer} {callback : Nat} {s : Status} : Shown (.answer a) (.complete callback a) s

theorem Step.shown {c : Call} (hs : d.Step m d' (.call c)) : Shown m c d'.status := by
  cases hs with
  | opens ready =>
    refine .make ?_ ⟨rfl, rfl⟩
    rcases ready with ⟨create, -⟩ | ⟨resume, -⟩
    · exact .inl create
    · exact .inr resume
  | releases asked present charge =>
    refine .cancel ?_ ⟨rfl, rfl⟩
    rcases asked with ⟨create, -⟩ | ⟨cancel, -⟩
    · exact .inl create
    · exact .inr (.inl cancel)
  | answers present waits pending => exact .complete
  | abandons present idle charge => exact .cancel (.inr (.inr rfl)) ⟨rfl, rfl⟩
  | begins made current => exact .start current
  | replaces made outdated => exact .replaced outdated

/-! ## New numbers -/

/-- A session is made with a number that no status had up to then. -/
theorem make_fresh (k : Payment.Kind) {moves before : List Move} {n : Nat}
    (turn : (((ofKind k).run moves).step m).2 = .call (.make n)) (earlier : before <+: moves) :
    ((ofKind k).run before).status.session ≠ some n := by
  obtain ⟨after, rfl⟩ := earlier
  have hs := step_spec ((ofKind k).run (before ++ after)) m
  rw [turn] at hs
  intro used
  have old : n < ((ofKind k).run before).opened := numbered_run k before n used
  have grows := opened_le_run ((ofKind k).run before) after
  rw [← run_append] at grows
  have next : n = ((ofKind k).run (before ++ after)).opened := hs.make.1
  omega

/-! ## A session opened over another -/

/-- A new session first has the session in charge cancelled, under the cleared status. -/
theorem step_create_over {s : Nat} (present : d.gone = false) (charge : d.live = some s) :
    d.step .create = (d.release.push .opening, .call (.cancel s)) := by
  simp [step, create, present, charge]

/-- In every run, whatever was done inside calls: each call is made under the status that belongs
to it. A session is made with a new number. And when a session is in charge, opening another one
publishes the cleared status, then cancels the one in charge, and once that call has returned,
whatever was done inside it, publishes the empty status of the new session under a later version,
and then has it made. -/
theorem published_at_calls (k : Payment.Kind) (moves : List Move) :
    let d := (ofKind k).run moves
    (∀ m c, (d.step m).2 = .call c → Shown m c (d.step m).1.status) ∧
      (∀ m n, (d.step m).2 = .call (.make n) →
        ∀ before, before <+: moves → ((ofKind k).run before).status.session ≠ some n) ∧
      ∀ s, d.live = some s →
        (d.step .create).2 = .call (.cancel s) ∧
          (d.step .create).1.status = ⟨none, d.status.version + 1, .empty⟩ ∧
          ∀ inner, (d.step .create).1.Nested inner →
            let d' := (d.step .create).1.run inner
            ∃ n, (d'.step .resume).2 = .call (.make n) ∧
              (d'.step .resume).1.status = ⟨some n, d'.status.version + 1, .empty⟩ ∧
              d.status.version + 1 ≤ d'.status.version := by
  intro d
  refine ⟨fun m c turn => ?_, fun m n turn before earlier => make_fresh k turn earlier, ?_⟩
  · have hs := step_spec d m
    rw [turn] at hs
    exact hs.shown
  · intro s charge
    obtain ⟨coherent, -⟩ := coherent_run k moves
    have asked : d.step .create = (d.release.push .opening, .call (.cancel s)) :=
      step_create_over (coherent.present charge) charge
    rw [asked]
    refine ⟨rfl, rfl, fun inner nested => ?_⟩
    -- The call of the cancel is the innermost again, so it is this opening that goes on.
    have innermost : ((d.release.push .opening).run inner).frames = .opening :: d.frames :=
      nested.back
    obtain ⟨turn, shown⟩ := resume_opening innermost
    exact ⟨_, turn, shown, version_le_run (d.release.push .opening) inner⟩

/-- Inside the cancel call for session 0, that was in charge, session 1 is opened and started, and
session 0 speaks; then session 2 is made under the empty status of a later version. -/
theorem published_at_calls_reopened :
    let d := (ofKind .card).run [.create, .resume, .resume]
    let d' := (d.step .create).1.run [.create, .resume, .hear 0 (.outcome .cancelled), .resume]
    d.live = some 0 ∧ ∃ n, (d'.step .resume).2 = .call (.make n) ∧
      (d'.step .resume).1.status = ⟨some n, d'.status.version + 1, .empty⟩ ∧
      d.status.version + 1 ≤ d'.status.version :=
  ⟨rfl, ((published_at_calls .card [.create, .resume, .resume]).2.2 0 rfl).2.2 _
    ⟨by decide, by decide⟩⟩

end Desk

end EvmWallet.Checkout
