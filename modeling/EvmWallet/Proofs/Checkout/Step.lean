import EvmWallet.Checkout.Desk

/-!
# What a move of the desk does

`Desk.Step d m d' t` lists everything that a move `m` of the desk `d` can do: the desk `d'` that
it leaves, the turn `t` that it takes, and the condition under which it does so. `step_spec` says
that the list is complete, so that what a run keeps is shown by one case for each line of it.
-/

namespace EvmWallet.Checkout.Desk

/-! ## The effects of a move -/

/-- Why a move does nothing, with the reply that says so. -/
inductive Refuses (d : Desk) : Move → Reply → Prop where
  | shut {m : Move} (left : d.gone = true) (user : m = .create ∨ m = .cancel ∨ ∃ a, m = .answer a) :
      Refuses d m .nothing
  | free (present : d.gone = false) (free : d.live = none) : Refuses d .cancel (.cancelled false)
  | unasked {a : Answer} (present : d.gone = false)
      (nobody : d.status.progress.slots.get a.slot = none) :
      Refuses d (.answer a) (.refused (.invalidState (unasked a.slot)))
  | spent {a : Answer} {callback : Nat} (present : d.gone = false)
      (waits : d.status.progress.slots.get a.slot = some callback)
      (spent : d.taken.contains callback = true) :
      Refuses d (.answer a) (.refused .callbackConsumed)
  | taken {callback : Nat} (spent : d.taken.contains callback = true) :
      Refuses d (.take callback) (.refused .callbackConsumed)
  /-- A desk that was given up, or that has calls under way, cannot be given up. -/
  | held (held : d.gone = true ∨ d.frames ≠ []) : Refuses d .drop .nothing
  | idle (idle : d.frames = []) : Refuses d .resume .nothing

/-- The reply with which a call under way ends that has nothing more to do. -/
inductive Returns : Frame → Reply → Prop where
  | starting (s : Nat) : Returns (.starting s) (.opened s)
  | replaced (s : Nat) : Returns (.replaced s) (.opened s)
  | cancelling : Returns .cancelling (.cancelled true)
  | completing : Returns .completing .done

/-- The effects of a move, with the conditions under which they come about. -/
inductive Step (d : Desk) : Move → Desk → Turn → Prop where
  | stays {m : Move} {r : Reply} (refused : d.Refuses m r) : Step d m d (.reply r)
  /-- An event from a session that is over, or after the end of publication. -/
  | ignores {s : Nat} {e : Event} (unheard : d.hears s = false) :
      Step d (.hear s e) d (.reply .done)
  | hears {s : Nat} {e : Event} (heard : d.hears s = true) :
      Step d (.hear s e)
        { d with board := d.board.post (d.status.advance (e.apply d.status.progress)) }
        (.reply .done)
  /-- A session is opened, at once or when the one before was cancelled. -/
  | opens {m : Move} {rest : List Frame}
      (ready : (m = .create ∧ d.gone = false ∧ d.live = none ∧ rest = d.frames) ∨
        (m = .resume ∧ d.frames = .opening :: rest)) :
      Step d m
        { d with
          opened := d.opened + 1
          board := d.board.post (d.status.reset (some d.opened))
          frames := .making d.opened :: rest }
        (.call (.make d.opened))
  /-- The session in charge is cancelled, by the user or before a new one is opened. -/
  | releases {m : Move} {f : Frame} {s : Nat}
      (asked : (m = .create ∧ f = .opening) ∨ (m = .cancel ∧ f = .cancelling))
      (present : d.gone = false) (charge : d.live = some s) :
      Step d m
        { d with
          live := none
          board := d.board.post (d.status.reset none)
          frames := f :: d.frames }
        (.call (.cancel s))
  | answers {a : Answer} {callback : Nat} (present : d.gone = false)
      (waits : d.status.progress.slots.get a.slot = some callback)
      (pending : d.taken.contains callback = false) :
      Step d (.answer a)
        { d with
          taken := callback :: d.taken
          board := d.board.post (d.status.advance
            { d.status.progress with
              slots := d.status.progress.slots.clear (callback :: d.taken) })
          frames := .completing :: d.frames }
        (.call (.complete callback a))
  | takes {callback : Nat} (pending : d.taken.contains callback = false) :
      Step d (.take callback) { d with taken := callback :: d.taken } (.reply .done)
  /-- The desk is given up while no session is in charge. -/
  | leaves (present : d.gone = false) (idle : d.frames = []) (free : d.live = none) :
      Step d .drop { d with gone := true, board := d.board.close } (.reply .done)
  /-- The desk is given up, which cancels the session in charge. -/
  | abandons {s : Nat} (present : d.gone = false) (idle : d.frames = [])
      (charge : d.live = some s) :
      Step d .drop
        { d with
          gone := true
          live := none
          board := d.board.post (d.status.reset none)
          frames := [.closing] }
        (.call (.cancel s))
  | begins {s : Nat} {rest : List Frame} (made : d.frames = .making s :: rest)
      (current : d.status.session = some s) :
      Step d .resume { d with live := some s, frames := .starting s :: rest } (.call (.start s))
  | replaces {s : Nat} {rest : List Frame} (made : d.frames = .making s :: rest)
      (outdated : d.status.session ≠ some s) :
      Step d .resume { d with frames := .replaced s :: rest } (.call (.cancel s))
  | returns {f : Frame} {rest : List Frame} {r : Reply} (innermost : d.frames = f :: rest)
      (returns : Returns f r) : Step d .resume { d with frames := rest } (.reply r)
  /-- The session of a desk that was given up is cancelled. -/
  | closes {rest : List Frame} (innermost : d.frames = .closing :: rest) :
      Step d .resume { d with frames := rest, board := d.board.close } (.reply .done)

/-! ## One lemma for each kind of move -/

theorem step_create (d : Desk) : d.Step .create d.create.1 d.create.2 := by
  unfold create
  split
  · rename_i left
    exact .stays (.shut left (.inl rfl))
  · rename_i present
    have present : d.gone = false := by simpa using present
    split
    · rename_i free
      exact .opens (.inl ⟨rfl, present, free, rfl⟩)
    · rename_i s charge
      exact .releases (.inl ⟨rfl, rfl⟩) present charge

theorem step_cancel (d : Desk) : d.Step .cancel d.cancel.1 d.cancel.2 := by
  unfold cancel
  split
  · rename_i left
    exact .stays (.shut left (.inr (.inl rfl)))
  · rename_i present
    have present : d.gone = false := by simpa using present
    split
    · rename_i free
      exact .stays (.free present free)
    · rename_i s charge
      exact .releases (.inr ⟨rfl, rfl⟩) present charge

theorem step_answer (d : Desk) (a : Answer) : d.Step (.answer a) (d.answer a).1 (d.answer a).2 := by
  unfold answer
  split
  · rename_i left
    exact .stays (.shut left (.inr (.inr ⟨a, rfl⟩)))
  · rename_i present
    have present : d.gone = false := by simpa using present
    split
    · rename_i unasked
      exact .stays (.unasked present unasked)
    · rename_i callback waits
      split
      · rename_i spent
        exact .stays (.spent present waits spent)
      · rename_i pending
        exact .answers present waits (by simpa using pending)

theorem step_take (d : Desk) (callback : Nat) :
    d.Step (.take callback) (d.take callback).1 (.reply (d.take callback).2) := by
  unfold take
  split
  · rename_i spent
    exact .stays (.taken spent)
  · rename_i pending
    exact .takes (by simpa using pending)

theorem step_drop (d : Desk) : d.Step .drop d.drop.1 d.drop.2 := by
  unfold drop
  split
  · rename_i held
    exact .stays (.held (by simpa using held))
  · rename_i held
    have present : d.gone = false ∧ d.frames = [] := by simpa using held
    obtain ⟨present, idle⟩ := present
    split
    · rename_i free
      exact .leaves present idle free
    · rename_i s charge
      have after : ({ d with gone := true } : Desk).release.push .closing =
          { d with
            gone := true
            live := none
            board := d.board.post (d.status.reset none)
            frames := [.closing] } := by
        simp [release, push, publish, status, idle]
      rw [after]
      exact .abandons present idle charge

theorem step_hear (d : Desk) (s : Nat) (e : Event) :
    d.Step (.hear s e) (d.hear s e) (.reply .done) := by
  unfold hear
  split
  · rename_i heard
    exact .hears heard
  · rename_i unheard
    exact .ignores (by simpa using unheard)

theorem step_made {d : Desk} {s : Nat} {rest : List Frame} (made : d.frames = .making s :: rest) :
    d.Step .resume (({ d with frames := rest } : Desk).made s).1
      (({ d with frames := rest } : Desk).made s).2 := by
  unfold Desk.made
  by_cases current : d.status.session = some s
  · rw [if_pos (show ({ d with frames := rest } : Desk).status.session = some s from current)]
    exact .begins made current
  · rw [if_neg (show ¬({ d with frames := rest } : Desk).status.session = some s from current)]
    exact .replaces made current

theorem step_resume (d : Desk) : d.Step .resume d.resume.1 d.resume.2 := by
  unfold resume
  split
  · rename_i idle
    exact .stays (.idle idle)
  · rename_i f rest innermost
    cases f with
    | opening => exact .opens (.inr ⟨rfl, innermost⟩)
    | making s => exact step_made innermost
    | starting s => exact .returns innermost (.starting s)
    | replaced s => exact .returns innermost (.replaced s)
    | cancelling => exact .returns innermost .cancelling
    | completing => exact .returns innermost .completing
    | closing => exact .closes innermost

/-- Every move has one of the effects. -/
theorem step_spec (d : Desk) (m : Move) : d.Step m (d.step m).1 (d.step m).2 := by
  cases m with
  | create => exact step_create d
  | cancel => exact step_cancel d
  | answer a => exact step_answer d a
  | take callback => exact step_take d callback
  | drop => exact step_drop d
  | hear s e => exact step_hear d s e
  | resume => exact step_resume d

end EvmWallet.Checkout.Desk
