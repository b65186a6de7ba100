import EvmWallet.Proofs.Checkout.Step

/-!
# The journal of a run

Whoever sees the moves of a run and the turns that the desk takes can keep a journal of it,
newest note first (`note`). Only whether an event counts cannot be seen from its turn, and is decided
by the journal: the session that spoke must be the one to which the last reset gave the status, and
the desk must not have been given up.

What the desk should show and hold after a run is a function of the journal: the parts below
look for the last reset, the last event of a kind since then, the last session that took charge.
So is what a move should come to: `due` are its notes by the journal and the calls under way, without
a look at the turn.
-/

namespace EvmWallet.Checkout

/-! ## Parts of an event -/

namespace Event

def token? : Event → Option String
  | dataRequested token _ => some token
  | _ => none

def outcome? : Event → Option Payment.Outcome
  | outcome result => some result
  | _ => none

def recurring? : Event → Option (List Payment.Method)
  | methodsOffered recurring _ _ => some recurring
  | _ => none

def offered? : Event → Option (List Payment.Method)
  | methodsOffered _ offered _ => some offered
  | _ => none

def redirectUrl? : Event → Option String
  | redirected url _ => some url
  | _ => none

def fields? : Event → Option (List Payment.Field)
  | detailsRequired fields _ _ => some fields
  | _ => none

def request? : Event → Option Nat
  | detailsRequired _ request _ => some request
  | _ => none

/-- The callback that an event puts into a slot. -/
def callbackIn? (slot : Slot) (e : Event) : Option Nat :=
  e.callback?.bind fun (own, callback) => if own = slot then some callback else none

end Event

/-! ## Notes -/

/-- What is noted of a run. -/
inductive Note where
  /-- The empty status of a new session was published; the session is being made. -/
  | opened (session : Nat)
  /-- A session was made and took charge; it is started. -/
  | began (session : Nat)
  /-- A session was made too late to take charge; it is cancelled. -/
  | replaced (session : Nat)
  /-- The session in charge was taken away and the cleared status published; it is cancelled. -/
  | released (session : Nat)
  /-- An event that counts. -/
  | heard (session : Nat) (e : Event)
  /-- An answer took a callback, and the status without the taken callbacks was published. -/
  | answered (callback : Nat)
  /-- A callback was taken out of a status, past the desk. -/
  | taken (callback : Nat)
  /-- The desk was given up. -/
  | left
  deriving DecidableEq, Repr

namespace Note

/-- Whether a status was published. -/
def published : Note → Bool
  | opened _ | released _ | heard _ _ | answered _ => true
  | began _ | replaced _ | taken _ | left => false

/-- The callback that was taken. -/
def consumed? : Note → Option Nat
  | answered callback | taken callback => some callback
  | _ => none

/-- Whether a callback was put into a slot. -/
def Fills (slot : Slot) : Note → Prop
  | heard _ e => e.callbackIn? slot ≠ none
  | _ => False

end Note

/-- The notes of a run, newest first. -/
abbrev Journal := List Note

namespace Journal

/-- The session to which the last reset gave the status, if to any. -/
def current : Journal → Option Nat
  | [] => none
  | .opened session :: _ => some session
  | .released _ :: _ => none
  | _ :: older => current older

/-- The session in charge: the last that began, unless one was taken away since. -/
def charge : Journal → Option Nat
  | [] => none
  | .began session :: _ => some session
  | .released _ :: _ => none
  | _ :: older => charge older

/-- The events since the last reset, with the sessions that spoke. -/
def calls : Journal → List (Nat × Event)
  | [] => []
  | .opened _ :: _ => []
  | .released _ :: _ => []
  | .heard session e :: older => (session, e) :: calls older
  | _ :: older => calls older

/-- How many statuses were published. -/
def publications (j : Journal) : Nat := j.countP Note.published

/-- How many sessions were opened. -/
def sessions : Journal → Nat
  | [] => 0
  | .opened _ :: older => sessions older + 1
  | _ :: older => sessions older

/-- The callbacks that were taken. -/
def consumed (j : Journal) : List Nat := j.filterMap Note.consumed?

/-- Whether an event of a session counts. -/
def hears (j : Journal) (session : Nat) : Bool := j.current == some session && !j.contains .left

/-- What the last event of a kind since the reset said. -/
def last? {α : Type} (part : Event → Option α) (j : Journal) : Option α :=
  j.calls.findSome? fun call => part call.2

/-- The callback that was last put into a slot since the reset. -/
def delivered (slot : Slot) (j : Journal) : Option Nat := j.last? (Event.callbackIn? slot)

/-- The callback last put into a slot was taken, and an answer that came after both emptied the
slot: no later event filled it again. -/
def Cleared (slot : Slot) (callback : Nat) (j : Journal) : Prop :=
  ∃ newer other older, j = newer ++ .answered other :: older ∧
    (∀ n ∈ newer, ¬n.Fills slot) ∧ callback ∈ consumed (.answered other :: older)

/-- The callback that waits in a slot. -/
def waiting (slot : Slot) : Journal → Option Nat
  | [] => none
  | .opened _ :: _ => none
  | .released _ :: _ => none
  | .heard _ e :: older => (e.callbackIn? slot).or (waiting slot older)
  | .answered callback :: older =>
    (waiting slot older).filter (!(callback :: consumed older).contains ·)
  | _ :: older => waiting slot older

/-- The progress that the journal tells of. -/
def progress (j : Journal) : Progress where
  token := j.last? Event.token?
  outcome := j.last? Event.outcome?
  offered := (j.last? Event.offered?).getD []
  recurring := (j.last? Event.recurring?).getD []
  fields := (j.last? Event.fields?).getD []
  request := j.last? Event.request?
  redirectUrl := j.last? Event.redirectUrl?
  slots := ⟨j.waiting .data, j.waiting .service, j.waiting .uri, j.waiting .details⟩

/-- The status that the journal tells of. -/
def status (j : Journal) : Status := ⟨j.current, j.publications, j.progress⟩

/-! ## Keeping the journal -/

/-- The journal after a move and its turn: what the desk did. -/
def note (j : Journal) : Desk.Move → Turn → Journal
  | .create, .call (.make session) | .resume, .call (.make session) => .opened session :: j
  | .create, .call (.cancel session) | .cancel, .call (.cancel session) => .released session :: j
  | .drop, .call (.cancel session) => .left :: .released session :: j
  | .drop, .reply .done => .left :: j
  | .resume, .call (.start session) => .began session :: j
  | .resume, .call (.cancel session) => .replaced session :: j
  | .answer _, .call (.complete callback _) => .answered callback :: j
  | .take callback, .reply .done => .taken callback :: j
  | .hear session e, _ => if j.hears session then .heard session e :: j else j
  | _, _ => j

/-- The notes that a move should come to, newest first, by the journal and the calls under way: the
session in charge is cancelled before a new one is opened, and on demand; an answer takes the callback
that waits for it, unless that was taken; sessions go by the number of those opened before. -/
def due (j : Journal) (frames : List Frame) : Desk.Move → List Note
  | .create =>
    if .left ∈ j then []
    else
      match j.charge with
      | none => [.opened j.sessions]
      | some session => [.released session]
  | .cancel =>
    if .left ∈ j then []
    else
      match j.charge with
      | none => []
      | some session => [.released session]
  | .answer a =>
    if .left ∈ j then []
    else
      match j.waiting a.slot with
      | none => []
      | some callback => if callback ∈ j.consumed then [] else [.answered callback]
  | .take callback => if callback ∈ j.consumed then [] else [.taken callback]
  | .drop =>
    if .left ∈ j ∨ frames ≠ [] then []
    else
      match j.charge with
      | none => [.left]
      | some session => [.left, .released session]
  | .hear session e => if j.hears session then [.heard session e] else []
  | .resume =>
    match frames with
    | .opening :: _ => [.opened j.sessions]
    | .making session :: _ =>
      if j.current = some session then [.began session] else [.replaced session]
    | _ => []

/-- Notes are only added. -/
theorem suffix_note (j : Journal) (m : Desk.Move) (t : Turn) : j <:+ j.note m t := by
  unfold note
  split <;> first
    | exact List.suffix_refl j
    | exact List.suffix_cons _ j
    | exact (List.suffix_cons _ j).trans (List.suffix_cons _ _)
    | (split <;> first | exact List.suffix_refl j | exact List.suffix_cons _ j)

end Journal

namespace Desk

/-- The journal after moves in order. -/
def journal (d : Desk) (j : Journal) : List Move → Journal
  | [] => j
  | m :: moves => (d.step m).1.journal (j.note m (d.step m).2) moves

theorem run_cons (d : Desk) (m : Move) (moves : List Move) :
    d.run (m :: moves) = (d.step m).1.run moves := rfl

theorem journal_append (d : Desk) (j : Journal) (s t : List Move) :
    d.journal j (s ++ t) = (d.run s).journal (d.journal j s) t := by
  induction s generalizing d j with
  | nil => rfl
  | cons m s ih =>
    rw [List.cons_append, journal, ih, run_cons, journal]

theorem journal_concat (d : Desk) (moves : List Move) (m : Move) :
    d.journal [] (moves ++ [m]) = (d.journal [] moves).note m ((d.run moves).step m).2 :=
  journal_append d [] moves [m]

/-- What every effect keeps holds after a run. -/
theorem run_keeps {P : Desk → Journal → Prop}
    (keeps : ∀ {d : Desk} {j : Journal} {m : Move} {d' : Desk} {t : Turn},
      P d j → d.Step m d' t → P d' (j.note m t))
    {d : Desk} {j : Journal} (h : P d j) (moves : List Move) :
    P (d.run moves) (d.journal j moves) := by
  induction moves generalizing d j with
  | nil => exact h
  | cons m moves ih =>
    rw [run_cons, journal]
    exact ih (keeps h (step_spec d m))

end Desk

end EvmWallet.Checkout
