import EvmWallet.Proofs.Checkout.Calls

/-!
# The session of the status and the session in charge

The status names a session before it is in charge: the session is still being made then. Main
statements: while no session is being opened, one is in charge exactly if the status belongs to
one, and a status that belongs to none is empty and stays what it is until the next session is
opened (`ongoing_iff_session`); a cancel keeps the session of the status from being started
exactly if some session is in charge (`cancel_prevents_start_iff`).

Both rest on `Coherent`: the session of the status is in charge or still being made, and in the
latter case nothing but completions is under way inside its making.
-/

namespace EvmWallet.Checkout

/-- Whether a call under way opens a session. -/
def Frame.opens : Frame → Bool
  | .opening | .making _ | .starting _ | .replaced _ => true
  | .cancelling | .completing | .closing => false

namespace Desk

variable {d d' : Desk} {m : Move} {t : Turn} {s : Nat}

/-- Whether a session is being opened: from the move that asks for it to the reply. -/
def isOpening (d : Desk) : Bool := d.frames.any Frame.opens

/-! ## Where the session of the status is -/

/-- A session is being made, and only completions are under way inside. -/
def Awaits (s : Nat) : List Frame → Prop
  | .making t :: _ => t = s
  | .completing :: rest => Awaits s rest
  | _ => False

/-- A session that is awaited is being made. -/
theorem making_of_awaits {frames : List Frame} (h : Awaits s frames) : .making s ∈ frames := by
  induction frames with
  | nil => exact absurd h id
  | cons f rest ih =>
    cases f with
    | making t =>
      have same : t = s := h
      rw [same]
      exact List.mem_cons_self
    | completing => exact List.mem_cons_of_mem _ (ih h)
    | _ => exact absurd h id

/-- The session of the status and the session in charge fit together. -/
structure Coherent (d : Desk) : Prop where
  /-- While the status belongs to no session, none is in charge, and nothing was said. -/
  free : d.status.session = none → d.live = none ∧ d.status.progress = .empty
  /-- The session of the status is in charge, or still being made. -/
  attended : ∀ s, d.status.session = some s → d.live = some s ∨ Awaits s d.frames
  left : d.gone = true → d.live = none

theorem coherent_ofKind (k : Payment.Kind) : (ofKind k).Coherent where
  free _ := ⟨rfl, rfl⟩
  attended s current := absurd current (by simp [ofKind, status, Board.showing, Status.initial])
  left _ := rfl

/-- While a session is in charge the desk was not given up. -/
theorem Coherent.present (h : d.Coherent) (charge : d.live = some s) : d.gone = false := by
  cases left : d.gone with
  | false => rfl
  | true => exact absurd ((h.left left).symm.trans charge) (by simp)

/-- When the session in charge was taken away, the status is cleared. -/
theorem Coherent.of_cleared (session : d.status.session = none) (live : d.live = none)
    (progress : d.status.progress = .empty) : d.Coherent where
  free _ := ⟨live, progress⟩
  attended s current := absurd (session.symm.trans current) (by simp)
  left _ := live

/-- A call that returns, and was not the making of a session, leaves the desk coherent. -/
theorem Coherent.pop {f : Frame} {rest : List Frame} (h : d.Coherent)
    (innermost : d.frames = f :: rest) (other : ∀ s, f ≠ .making s) (status : d'.status = d.status)
    (live : d'.live = d.live) (gone : d'.gone = d.gone) (frames : d'.frames = rest) :
    d'.Coherent where
  free none := by
    rw [status] at none ⊢
    rw [live]
    exact h.free none
  attended s current := by
    rw [status] at current
    rw [live, frames]
    refine (h.attended s current).imp_right ?_
    rw [innermost]
    intro awaits
    cases f with
    | completing => exact awaits
    | making t => exact absurd rfl (other t)
    | _ => exact absurd awaits id
  left gave := by
    rw [gone] at gave
    rw [live]
    exact h.left gave

theorem Coherent.step (h : d.Coherent) (ho : d.Orderly) (hs : d.Step m d' t) : d'.Coherent := by
  cases hs with
  | stays refused => exact h
  | ignores unheard => exact h
  | @hears s e heard =>
    have current : d.status.session = some s := by
      simp only [Desk.hears, Bool.and_eq_true, beq_iff_eq] at heard
      exact heard.2
    exact ⟨fun none => absurd (current.symm.trans none) (by simp), h.attended, h.left⟩
  | opens ready =>
    refine ⟨fun none => absurd none (Option.some_ne_none _), fun s current => .inr ?_, h.left⟩
    exact Option.some.inj current
  | releases asked present charge => exact .of_cleared rfl rfl rfl
  | @answers a callback present waits pending =>
    refine ⟨fun none => ?_, h.attended, h.left⟩
    -- Nobody waits for an answer in the status of no session.
    rw [(h.free none).2, Progress.empty, Slots.get_empty] at waits
    exact absurd waits (by simp)
  | takes pending => exact ⟨h.free, h.attended, h.left⟩
  | leaves present idle free =>
    exact ⟨fun none => ⟨free, (h.free none).2⟩, h.attended, fun _ => free⟩
  | abandons present idle charge => exact .of_cleared rfl rfl rfl
  | @begins s rest made current =>
    have present : d.gone = false := ho.present (f := .making s) (by simp [made]) (by simp)
    refine ⟨fun none => absurd (current.symm.trans none) (by simp), fun s' current' => .inl ?_,
      fun left => absurd (present.symm.trans left) (by simp)⟩
    exact current.symm.trans current'
  | @replaces s rest made outdated =>
    refine ⟨h.free, fun s' current => .inl ((h.attended s' current).resolve_right ?_), h.left⟩
    -- What is being made innermost is another session than that of the status.
    rw [made]
    intro same
    exact outdated (same ▸ current)
  | returns innermost returns =>
    exact h.pop innermost (by cases returns <;> simp) rfl rfl rfl rfl
  | closes innermost => exact h.pop innermost (by simp) rfl rfl rfl rfl

theorem coherent_run (k : Payment.Kind) (moves : List Move) :
    ((ofKind k).run moves).Coherent ∧ ((ofKind k).run moves).Orderly := by
  refine run_stays (P := fun d => d.Coherent ∧ d.Orderly) ?_
    ⟨coherent_ofKind k, orderly_ofKind k⟩ moves
  rintro d m d' t ⟨coherent, orderly⟩ hs
  exact ⟨coherent.step orderly hs, orderly.step hs⟩

/-! ## Between sessions -/

/-- Between sessions: the status belongs to none, and none is being opened. -/
structure Resting (d : Desk) : Prop where
  coherent : d.Coherent
  orderly : d.Orderly
  free : d.status.session = none
  closed : d.isOpening = false

/-- Between sessions no frame of an opening is left. -/
theorem Resting.not_opens (h : d.Resting) {f : Frame} {rest : List Frame}
    (frames : d.frames = f :: rest) : f.opens = false ∧ rest.any Frame.opens = false := by
  have closed := h.closed
  rw [isOpening, frames, List.any_cons, Bool.or_eq_false_iff] at closed
  exact closed

/-- Between sessions only a new one changes the status. -/
theorem Resting.step (h : d.Resting) (other : m ≠ .create) (hs : d.Step m d' t) :
    d'.Resting ∧ d'.status = d.status := by
  -- Most effects need a session that is in charge or being opened.
  obtain ⟨uncharged, unsaid⟩ := h.coherent.free h.free
  have keeps (status : d'.status = d.status) (closed : d'.isOpening = false) :
      d'.Resting ∧ d'.status = d.status :=
    ⟨⟨h.coherent.step h.orderly hs, h.orderly.step hs, status ▸ h.free, closed⟩, status⟩
  cases hs with
  | stays refused => exact keeps rfl h.closed
  | ignores unheard => exact keeps rfl h.closed
  | hears heard =>
    simp only [Desk.hears, h.free, Bool.and_eq_true, beq_iff_eq] at heard
    exact absurd heard.2 (by simp)
  | opens ready =>
    rcases ready with ⟨create, -⟩ | ⟨-, opening⟩
    · exact absurd create other
    · exact absurd (h.not_opens opening).1 (by simp [Frame.opens])
  | releases asked present charge => exact absurd (uncharged.symm.trans charge) (by simp)
  | answers present waits pending =>
    rw [unsaid, Progress.empty, Slots.get_empty] at waits
    exact absurd waits (by simp)
  | takes pending => exact keeps rfl h.closed
  | leaves present idle free => exact keeps rfl h.closed
  | abandons present idle charge => exact absurd (uncharged.symm.trans charge) (by simp)
  | begins made current => exact absurd (h.free.symm.trans current) (by simp)
  | replaces made outdated => exact absurd (h.not_opens made).1 (by simp [Frame.opens])
  | returns innermost returns => exact keeps rfl (h.not_opens innermost).2
  | closes innermost => exact keeps rfl (h.not_opens innermost).2

theorem Resting.run (h : d.Resting) {moves : List Move} (others : ∀ m ∈ moves, m ≠ .create) :
    (d.run moves).Resting ∧ (d.run moves).status = d.status := by
  induction moves generalizing d with
  | nil => exact ⟨h, rfl⟩
  | cons m moves ih =>
    obtain ⟨resting, same⟩ := h.step (others m List.mem_cons_self) (step_spec d m)
    obtain ⟨end_resting, end_same⟩ := ih resting fun m' hm => others m' (List.mem_cons_of_mem m hm)
    exact ⟨end_resting, end_same.trans same⟩

/-- In every run: while no session is being opened, one is in charge exactly if the status
belongs to one. A status that belongs to none shows nothing at all; while no session is being
opened it stays the same, and no session is in charge, whatever is done before the next one is
asked for. -/
theorem ongoing_iff_session (k : Payment.Kind) (moves : List Move) :
    let d := (ofKind k).run moves
    (d.isOpening = false → (d.isOngoing = true ↔ d.status.session.isSome = true)) ∧
      (d.status.session = none → d.status.progress = .empty) ∧
      (d.isOpening = false → d.status.session = none →
        ∀ more : List Move, (∀ m ∈ more, m ≠ .create) →
          (d.run more).status = d.status ∧ (d.run more).isOngoing = false) := by
  intro d
  obtain ⟨coherent, orderly⟩ := coherent_run k moves
  refine ⟨fun closed => ?_, fun none => (coherent.free none).2, fun closed none more others => ?_⟩
  · cases session : d.status.session with
    | none =>
      have free : d.live = none := (coherent.free session).1
      simp [isOngoing, free]
    | some s =>
      have charge : d.live = some s := by
        refine (coherent.attended s session).resolve_right fun awaits => ?_
        have opening : d.isOpening = true :=
          List.any_eq_true.mpr ⟨_, making_of_awaits awaits, rfl⟩
        exact absurd (closed.symm.trans opening) (by simp)
      simp [isOngoing, charge]
  · have resting : d.Resting := ⟨coherent, orderly, none, closed⟩
    obtain ⟨still, same⟩ := resting.run others
    refine ⟨same, ?_⟩
    rw [isOngoing, (still.coherent.free still.free).1]
    rfl

/-- Once session 0 was cancelled, its events, answers to it and the return of the cancel call leave
the cleared status. -/
theorem ongoing_iff_session_cancelled :
    let d := (ofKind .card).run [.create, .resume, .resume, .cancel]
    (d.isOpening = false ∧ d.status.session = none) ∧
      (d.run [.hear 0 (.redirected "app" 3), .answer (.data []), .resume]).status = d.status :=
  ⟨by decide, ((ongoing_iff_session .card _).2.2 (by decide) rfl _ (by simp)).1⟩

/-! ## Cancelling while a session is being made -/

/-- A session that is awaited is started if all that is under way inside its making returns, and
then the making. -/
theorem start_of_awaits (awaits : Awaits s d.frames) (current : d.status.session = some s) :
    ∃ after, .start s ∈ d.calls after := by
  -- Completions under way are peeled off, innermost first, until the making itself is innermost.
  generalize inside : d.frames = frames at awaits
  induction frames generalizing d with
  | nil => exact absurd awaits id
  | cons f rest ih =>
    cases f with
    | making t =>
      obtain rfl : t = s := awaits
      refine ⟨[.resume], List.mem_append_left _ ?_⟩
      rw [resume_making inside current]
      exact List.mem_singleton.mpr rfl
    | completing =>
      obtain ⟨after, started⟩ := ih (d := { d with frames := rest }) current rfl awaits
      refine ⟨.resume :: after, List.mem_append_right _ ?_⟩
      rw [resume_completing inside]
      exact started
    | _ => exact absurd awaits id

/-- A cancel takes the status from its session if any session is in charge. -/
theorem past_of_cancel (numbered : d.Numbered) (present : d.gone = false) {other : Nat}
    (charge : d.live = some other) (current : d.status.session = some s) :
    (d.step .cancel).1.Past s := by
  rw [step_cancel_charge present charge]
  exact ⟨numbered s current, Option.some_ne_none s ∘ Eq.symm⟩

/-- Whenever the status belongs to a session, a cancel keeps that session from being started, now
or later, exactly if some session is in charge. Otherwise the session is still being made, and the
cancel does nothing: the session is started whenever it would have been without it. -/
theorem cancel_prevents_start_iff (k : Payment.Kind) (moves : List Move) (s : Nat)
    (current : ((ofKind k).run moves).status.session = some s) :
    let d := (ofKind k).run moves
    ((∀ after, .start s ∉ d.calls (.cancel :: after)) ↔ d.isOngoing = true) ∧
      (d.isOngoing = false →
        d.step .cancel = (d, .reply (.cancelled false)) ∧ .making s ∈ d.frames) := by
  intro d
  obtain ⟨coherent, orderly⟩ := coherent_run k moves
  have unmanned (free : d.live = none) :
      Awaits s d.frames ∧ d.step .cancel = (d, .reply (.cancelled false)) := by
    have awaits : Awaits s d.frames :=
      (coherent.attended s current).resolve_left fun charge =>
        absurd (free.symm.trans charge) (by simp)
    have present : d.gone = false := orderly.present (making_of_awaits awaits) (by simp)
    exact ⟨awaits, step_cancel_free present free⟩
  refine ⟨⟨fun prevented => ?_, fun ongoing after => ?_⟩, fun idle => ?_⟩
  · cases charge : d.live with
    | some other => simp [isOngoing, charge]
    | none =>
      -- Without the cancel the session would be started, and the cancel changes nothing.
      obtain ⟨awaits, nothing⟩ := unmanned charge
      obtain ⟨after, started⟩ := start_of_awaits awaits current
      refine absurd ?_ (prevented after)
      rw [calls, nothing]
      exact started
  · obtain ⟨other, charge⟩ := Option.isSome_iff_exists.mp ongoing
    have present : d.gone = false := coherent.present charge
    -- The session in charge need not be that of the status; the status is cleared all the same.
    have past : (d.step .cancel).1.Past s :=
      past_of_cancel (numbered_run k moves) present charge current
    intro started
    rcases List.mem_append.mp started with now | later
    · rw [step_cancel_charge present charge] at now
      exact absurd (List.mem_singleton.mp now) (by simp)
    · exact past.not_started after later
  · have free : d.live = none := Option.not_isSome_iff_eq_none.mp (by simpa [isOngoing] using idle)
    obtain ⟨awaits, nothing⟩ := unmanned free
    exact ⟨nothing, making_of_awaits awaits⟩

/-- Session 2 is being made while session 1 is in charge, which took charge inside the cancel call
of session 0: a cancel keeps session 2 from being started. -/
theorem cancel_prevents_start_over_charge :
    let d := (ofKind .card).run
      [.create, .resume, .resume, .create, .create, .resume, .resume, .resume]
    d.status.session = some 2 ∧ ∀ after, .start 2 ∉ d.calls (.cancel :: after) :=
  ⟨by decide, (cancel_prevents_start_iff .card _ 2 (by decide)).1.mpr (by decide)⟩

/-- A cancel of a session that is being made can be lost: the session is started nevertheless. -/
theorem cancel_during_making_lost :
    ¬∀ (k : Payment.Kind) (moves after : List Move) (s : Nat),
      ((ofKind k).run moves).status.session = some s →
        .start s ∉ ((ofKind k).run moves).calls (.cancel :: after) := by
  intro prevented
  exact prevented .card [.create] [.resume] 0 rfl List.mem_cons_self

end Desk

end EvmWallet.Checkout
