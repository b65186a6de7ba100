import EvmWallet.Board
import EvmWallet.Bytes.Utf8
import EvmWallet.Checkout.Status
import EvmWallet.Payment.Error
import EvmWallet.Settings.Profile
import EvmWallet.Url

/-!
# The checkout desk

The desk runs one checkout session after the other with a payment processor and publishes
what becomes of them. While the desk calls the processor, to make, start or cancel a session
or to complete a callback, the processor may say anything and the user may do anything; the
call is resumed afterwards. So every move of the desk runs to the next call or to its reply,
and what the calls under way have still to do is kept as a stack of frames.

A session that is over is not listened to: the published status names the only session that
is.
-/

namespace EvmWallet.Checkout

/-! ## Calls and replies -/

/-- An answer to the processor. -/
inductive Answer where
  | data (bytes : List UInt8)
  | service (m : Payment.Method)
  | uri (u : Url)
  | details (f : Payment.Form)

namespace Answer

/-- The slot whose callback takes the answer. -/
def slot : Answer → Slot
  | data _ => .data
  | service _ => .service
  | uri _ => .uri
  | details _ => .details

/-- The payment data that a text is. -/
def ofText (s : String) : Answer := .data (Bytes.utf8 s)

end Answer

/-- What the desk asks of the processor. -/
inductive Call where
  | make (session : Nat)
  | start (session : Nat)
  | cancel (session : Nat)
  | complete (callback : Nat) (a : Answer)

/-- What a finished move replies. -/
inductive Reply where
  /-- A new session was opened. -/
  | opened (session : Nat)
  /-- Whether there was a session to cancel. -/
  | cancelled (was : Bool)
  | done
  | refused (e : Payment.Error)
  /-- The desk is closed, or nothing is under way. -/
  | nothing
  deriving DecidableEq, Repr

/-- Where a move stands: at a call, or at its reply. -/
inductive Turn where
  | call (c : Call)
  | reply (r : Reply)

/-- What a call under way has still to do once the processor returns. -/
inductive Frame where
  /-- The session before was cancelled; a new one is to be opened. -/
  | opening
  /-- A session is being made; it is to be started, or cancelled if it was replaced. -/
  | making (session : Nat)
  | starting (session : Nat)
  | replaced (session : Nat)
  | cancelling
  | completing
  | closing
  deriving DecidableEq, Repr

/-! ## The desk -/

/-- The state of the desk. -/
structure Desk where
  /-- The session in charge. -/
  live : Option Nat
  /-- How many sessions were opened; they are numbered in order. -/
  opened : Nat
  /-- The callbacks that were taken. -/
  taken : List Nat
  board : Board Status
  /-- The calls under way, the innermost first. -/
  frames : List Frame
  /-- Whether the desk was given up. -/
  gone : Bool
  /-- The kind of method that the user prefers. -/
  preferred : Payment.Kind

namespace Desk

/-- A desk that has done nothing. -/
def ofKind (preferred : Payment.Kind) : Desk :=
  ⟨none, 0, [], .showing .initial, [], false, preferred⟩

/-- The desk of a profile. -/
def ofProfile (p : Profile) : Desk := ofKind p.settings.payment.defaultKind

/-- The latest published status. -/
def status (d : Desk) : Status := d.board.value

/-- Whether a session is in charge. -/
def isOngoing (d : Desk) : Bool := d.live.isSome

/-- Publishes a status. -/
def publish (d : Desk) (s : Status) : Desk := { d with board := d.board.post s }

/-- What calls under way have to do, with one more. -/
def push (d : Desk) (f : Frame) : Desk := { d with frames := f :: d.frames }

/-! ## Moves of the user -/

/-- Takes the session in charge away and publishes that there is none. -/
def release (d : Desk) : Desk := { d with live := none }.publish (d.status.reset none)

/-- Publishes an empty status for the next session and has it made. -/
def openSession (d : Desk) : Desk × Turn :=
  let d' := { d with opened := d.opened + 1 }.publish (d.status.reset (some d.opened))
  (d'.push (.making d.opened), .call (.make d.opened))

/-- Opens a session, once the one in charge is cancelled. -/
def create (d : Desk) : Desk × Turn :=
  if d.gone then (d, .reply .nothing)
  else
    match d.live with
    | none => d.openSession
    | some s => (d.release.push .opening, .call (.cancel s))

/-- Cancels the session in charge. -/
def cancel (d : Desk) : Desk × Turn :=
  if d.gone then (d, .reply .nothing)
  else
    match d.live with
    | none => (d, .reply (.cancelled false))
    | some s => (d.release.push .cancelling, .call (.cancel s))

/-- The complaint about an answer that nobody waits for. -/
def unasked : Slot → String
  | .data => "Not possible to create payment no callback available."
  | .service => "Not possible to select payment service no callback available."
  | .uri => "Not possible to finish redirect no callback available."
  | .details => "Not possible to finish payment with details no callback available."

/-- Marks a callback as taken. -/
def mark (d : Desk) (callback : Nat) : Desk := { d with taken := callback :: d.taken }

/-- Publishes the status without the callbacks that were taken. -/
def tidy (d : Desk) : Desk :=
  let p := d.status.progress
  d.publish (d.status.advance { p with slots := p.slots.clear d.taken })

/-- Completes the callback that waits for an answer, its slot being cleared before. -/
def answer (d : Desk) (a : Answer) : Desk × Turn :=
  if d.gone then (d, .reply .nothing)
  else
    match d.status.progress.slots.get a.slot with
    | none => (d, .reply (.refused (.invalidState (unasked a.slot))))
    | some callback =>
      if d.taken.contains callback then (d, .reply (.refused .callbackConsumed))
      else ((d.mark callback).tidy.push .completing, .call (.complete callback a))

/-- Takes a callback that some status shows, past the desk. -/
def take (d : Desk) (callback : Nat) : Desk × Reply :=
  if d.taken.contains callback then (d, .refused .callbackConsumed) else (d.mark callback, .done)

/-- Ends publication. -/
def close (d : Desk) : Desk := { d with board := d.board.close }

/-- Gives the desk up: its session is cancelled, and then nothing more is published. -/
def drop (d : Desk) : Desk × Turn :=
  if d.gone || !d.frames.isEmpty then (d, .reply .nothing)
  else
    match d.live with
    | none => ({ d with gone := true }.close, .reply .done)
    | some s => ({ d with gone := true }.release.push .closing, .call (.cancel s))

/-! ## Moves of the processor -/

/-- Whether a session is listened to. -/
def hears (d : Desk) (session : Nat) : Bool :=
  !d.board.closed && d.status.session == some session

/-- An event from a session. -/
def hear (d : Desk) (session : Nat) (e : Event) : Desk :=
  if d.hears session then d.publish (d.status.advance (e.apply d.status.progress)) else d

/-- A session was made: it takes charge and is started, unless it was replaced meanwhile. -/
def made (d : Desk) (session : Nat) : Desk × Turn :=
  if d.status.session = some session then
    ({ d with live := some session }.push (.starting session), .call (.start session))
  else (d.push (.replaced session), .call (.cancel session))

/-- The innermost call returns. -/
def resume (d : Desk) : Desk × Turn :=
  match d.frames with
  | [] => (d, .reply .nothing)
  | f :: rest =>
    let d := { d with frames := rest }
    match f with
    | .opening => d.openSession
    | .making session => d.made session
    | .starting session | .replaced session => (d, .reply (.opened session))
    | .cancelling => (d, .reply (.cancelled true))
    | .completing => (d, .reply .done)
    | .closing => (d.close, .reply .done)

/-! ## Runs -/

/-- A move of the user or the processor. -/
inductive Move where
  | create
  | cancel
  | answer (a : Answer)
  | take (callback : Nat)
  | drop
  | hear (session : Nat) (e : Event)
  | resume

/-- One move. An event is noted without a reply of its own. -/
def step (d : Desk) : Move → Desk × Turn
  | .create => d.create
  | .cancel => d.cancel
  | .answer a => d.answer a
  | .take callback => let (d, r) := d.take callback; (d, .reply r)
  | .drop => d.drop
  | .hear session e => (d.hear session e, .reply .done)
  | .resume => d.resume

/-- The desk after moves in order. -/
def run (d : Desk) (moves : List Move) : Desk := moves.foldl (fun d m => (d.step m).1) d

theorem run_append (d : Desk) (s t : List Move) : d.run (s ++ t) = (d.run s).run t :=
  List.foldl_append

end Desk

end EvmWallet.Checkout
