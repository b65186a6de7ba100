import EvmWallet.Payment.Form
import EvmWallet.Payment.Outcome

/-!
# Checkout status

What a checkout has come to: everything the payment processor has said in one session, with
the callbacks through which it waits for answers. Each status that is published has the next
version.
-/

namespace EvmWallet.Checkout

/-! ## Callbacks -/

/-- What the processor can wait for: payment data, a choice of method, the end of a redirect,
and filled-in details. -/
inductive Slot where
  | data
  | service
  | uri
  | details
  deriving DecidableEq, Repr

/-- The callback that waits in each slot. The processor numbers its callbacks. -/
structure Slots where
  data : Option Nat
  service : Option Nat
  uri : Option Nat
  details : Option Nat
  deriving DecidableEq, Repr

namespace Slots

/-- Nothing is waited for. -/
def empty : Slots := ⟨none, none, none, none⟩

/-- The callback in a slot. -/
def get (s : Slots) : Slot → Option Nat
  | .data => s.data
  | .service => s.service
  | .uri => s.uri
  | .details => s.details

/-- A callback takes a slot. -/
def put (s : Slots) (slot : Slot) (callback : Nat) : Slots :=
  match slot with
  | .data => { s with data := some callback }
  | .service => { s with service := some callback }
  | .uri => { s with uri := some callback }
  | .details => { s with details := some callback }

/-- The slots without callbacks that were taken. -/
def clear (s : Slots) (taken : List Nat) : Slots :=
  let keep := Option.filter (!taken.contains ·)
  ⟨keep s.data, keep s.service, keep s.uri, keep s.details⟩

theorem get_empty (slot : Slot) : empty.get slot = none := by cases slot <;> rfl

theorem get_put (s : Slots) (slot other : Slot) (callback : Nat) :
    (s.put slot callback).get other = if other = slot then some callback else s.get other := by
  cases slot <;> cases other <;> rfl

theorem get_clear (s : Slots) (taken : List Nat) (slot : Slot) :
    (s.clear taken).get slot = (s.get slot).filter (!taken.contains ·) := by
  cases slot <;> rfl

end Slots

/-! ## Progress -/

/-- What the processor has said in a session. -/
structure Progress where
  token : Option String
  outcome : Option Payment.Outcome
  offered : List Payment.Method
  recurring : List Payment.Method
  fields : List Payment.Field
  /-- The session to which the last request for details belongs. -/
  request : Option Nat
  redirectUrl : Option String
  slots : Slots
  deriving DecidableEq, Repr

namespace Progress

/-- Nothing has been said. -/
def empty : Progress := ⟨none, none, [], [], [], none, none, .empty⟩

/-- Whether the processor has neither asked for anything nor reported an outcome. The fields
of a form come with a callback and a request, and are not looked at. -/
def isEmpty (p : Progress) : Bool :=
  p.token.isNone && p.outcome.isNone && p.offered.isEmpty && p.recurring.isEmpty
    && p.request.isNone && p.redirectUrl.isNone && p.slots == .empty

end Progress

/-! ## Events -/

/-- What the processor says. All but an outcome come with a callback of their own. -/
inductive Event where
  /-- Payment data is asked for, to be made from a token. -/
  | dataRequested (token : String) (callback : Nat)
  | outcome (result : Payment.Outcome)
  /-- A choice is asked for, among methods used before and others. -/
  | methodsOffered (recurring offered : List Payment.Method) (callback : Nat)
  | redirected (url : String) (callback : Nat)
  /-- A form is asked for, on behalf of a session. -/
  | detailsRequired (fields : List Payment.Field) (request : Nat) (callback : Nat)
  deriving DecidableEq, Repr

namespace Event

/-- The callback of an event, and the slot in which it waits. -/
def callback? : Event → Option (Slot × Nat)
  | dataRequested _ callback => some (.data, callback)
  | outcome _ => none
  | methodsOffered _ _ callback => some (.service, callback)
  | redirected _ callback => some (.uri, callback)
  | detailsRequired _ _ callback => some (.details, callback)

/-- The progress after an event. -/
def apply (e : Event) (p : Progress) : Progress :=
  match e with
  | dataRequested token callback =>
    { p with token := some token, slots := p.slots.put .data callback }
  | outcome result => { p with outcome := some result }
  | methodsOffered recurring offered callback =>
    { p with recurring, offered, slots := p.slots.put .service callback }
  | redirected url callback =>
    { p with redirectUrl := some url, slots := p.slots.put .uri callback }
  | detailsRequired fields request callback =>
    { p with fields, request := some request, slots := p.slots.put .details callback }

end Event

/-! ## Status -/

/-- A published status: whose it is, how many were published up to it, and the progress. -/
structure Status where
  session : Option Nat
  version : Nat
  progress : Progress
  deriving DecidableEq, Repr

namespace Status

/-- Before anything is published. -/
def initial : Status := ⟨none, 0, .empty⟩

/-- The status after this one, with another progress. -/
def advance (s : Status) (p : Progress) : Status := ⟨s.session, s.version + 1, p⟩

/-- The status after this one, for another session or none. -/
def reset (s : Status) (session : Option Nat) : Status := ⟨session, s.version + 1, .empty⟩

/-- Whether the processor has said nothing. -/
def isEmpty (s : Status) : Bool := s.progress.isEmpty

/-- The first method on offer of a kind. -/
def method? (s : Status) (kind : String) : Option Payment.Method :=
  s.progress.offered.find? (·.isOfKind kind)

end Status

end EvmWallet.Checkout
