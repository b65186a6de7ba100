import EvmWallet.Checkout.Desk

/-!
# Inquiries

A user who waits for something of a checkout: its token, how it ended, where to go, a method
to pay with. An inquiry looks at the latest status, and looks again only when something was
posted since. It is over when a status holds an answer, or when the board is closed.
-/

namespace EvmWallet.Checkout

/-! ## Questions -/

/-- What a user can wait for. -/
inductive Question where
  | token
  | outcome
  | redirectUrl
  | request
  | method (kind : String)
  deriving DecidableEq, Repr

/-- What answers a question. -/
inductive Finding where
  | token (text : String)
  | outcome (result : Payment.Outcome)
  | redirectUrl (text : String)
  | request (session : Nat)
  | method (m : Payment.Method)
  deriving DecidableEq, Repr

/-- The answer that a status holds, if it does. -/
def Status.find? (s : Status) : Question → Option Finding
  | .token => s.progress.token.map .token
  | .outcome => s.progress.outcome.map .outcome
  | .redirectUrl => s.progress.redirectUrl.map .redirectUrl
  | .request => s.progress.request.map .request
  | .method kind => (s.method? kind).map .method

/-- The question for a method of the kind that the user prefers. -/
def Desk.preferredMethod (d : Desk) : Question := .method d.preferred.id

/-! ## Waiting -/

/-- A question that waits for its answer, and when it last looked. -/
structure Inquiry where
  question : Question
  reader : Option Reader
  deriving DecidableEq, Repr

/-- What a look at the board brings. -/
inductive Look where
  | found (f : Finding)
  | waiting (i : Inquiry)
  | failed (e : Payment.Error)
  deriving DecidableEq, Repr

namespace Inquiry

/-- A question that has not looked yet. -/
def ask (q : Question) : Inquiry := ⟨q, none⟩

/-- Whether there is something on the board that was not looked at. -/
def hasNews (i : Inquiry) (b : Board Status) : Bool := i.reader != some b.reader

/-- The answer in what was not looked at. -/
def news? (i : Inquiry) (b : Board Status) : Option Finding :=
  if i.hasNews b then b.value.find? i.question else none

/-- Looks at the board. -/
def look (i : Inquiry) (b : Board Status) : Look :=
  match i.news? b with
  | some f => .found f
  | none => if b.closed then .failed .channelClosed else .waiting { i with reader := some b.reader }

/-- A first look answers from the status on the board. -/
theorem news?_ask (q : Question) (b : Board Status) : (ask q).news? b = b.value.find? q := rfl

/-- An inquiry that has looked finds nothing until something is posted. -/
theorem news?_of_seen {i : Inquiry} {b : Board Status} (h : i.reader = some b.reader) :
    i.news? b = none := by
  simp [news?, hasNews, h]

end Inquiry

end EvmWallet.Checkout
