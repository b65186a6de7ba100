import EvmWallet.Checkout.Inquiry
import EvmWallet.Proofs.Checkout.Callbacks

/-!
# The hall around the desk

In the hall of a desk are all who look at it: the readers of its board, the inquiries that wait,
the statuses that somebody kept. An act in the hall is a move of the desk or a look, and what is
learned from it is its sight. A callback can be taken out of a kept status, which moves the desk.
-/

namespace EvmWallet.Checkout

/-! ## Acts and sights -/

/-- Something done in the hall. Readers, inquiries and kept statuses go by names. -/
inductive Act where
  | move (m : Desk.Move)
  | ongoing
  | status
  /-- A getter is polled once. -/
  | get (q : Question)
  /-- A getter is polled, and kept while it waits. -/
  | wait (name : String) (q : Question)
  | poll (name : String)
  | subscribe (name : String)
  | changed (name : String)
  | see (name : String)
  | keep (name : String)
  | recall (name : String)
  /-- The callback in a slot of a kept status is taken. -/
  | takeOut (name : String) (slot : Slot)

/-- What is learned from an act. -/
inductive Sight where
  | turn (t : Turn)
  | ongoing (yes : Bool)
  /-- A status, and what its slots report. -/
  | status (s : Status) (reports : Slot → Option Bool)
  | look (l : Look)
  /-- Whether something was posted; `none` once the board is closed. -/
  | changed (news : Option Bool)
  | done
  /-- The desk was given up, or the name or the slot holds nothing. -/
  | nothing

/-- A desk and those who look at it. -/
structure Hall where
  desk : Desk
  readers : List (String × Reader)
  inquiries : List (String × Inquiry)
  kept : List (String × Status)

namespace Hall

/-- The hall of a desk that has done nothing. -/
def ofKind (k : Payment.Kind) : Hall := ⟨.ofKind k, [], [], []⟩

/-! ## Acting -/

/-- The move of the desk that an act makes. -/
def move? (h : Hall) : Act → Option Desk.Move
  | .move m => some m
  | .takeOut name slot =>
    (h.kept.lookup name).bind fun s => (s.progress.slots.get slot).map Desk.Move.take
  | _ => none

/-- The inquiries after a move: whoever gives the desk up asks for nothing more. -/
def inquiriesAfter (h : Hall) : Desk.Move → List (String × Inquiry)
  | .drop => []
  | _ => h.inquiries

/-- The desk moves. -/
def moved (h : Hall) (m : Desk.Move) : Hall × Sight :=
  ({ h with desk := (h.desk.step m).1, inquiries := h.inquiriesAfter m },
    .turn (h.desk.step m).2)

/-- The inquiries once one of them has looked. -/
def asking (h : Hall) (name : String) (l : Look) : List (String × Inquiry) :=
  let others := h.inquiries.filter (·.1 != name)
  match l with
  | .waiting i => (name, i) :: others
  | _ => others

/-- An inquiry looks at the board. -/
def inquire (h : Hall) (name : String) (i : Inquiry) : Hall × Sight :=
  let l := i.look h.desk.board
  ({ h with inquiries := h.asking name l }, .look l)

/-- A look that does not move the desk. -/
def observe (h : Hall) : Act → Hall × Sight
  | .ongoing => (h, if h.desk.gone then .nothing else .ongoing h.desk.isOngoing)
  | .status =>
    (h, if h.desk.gone then .nothing
      else .status h.desk.status (h.desk.reports h.desk.status))
  | .get q => (h, if h.desk.gone then .nothing else .look ((Inquiry.ask q).look h.desk.board))
  | .wait name q => if h.desk.gone then (h, .nothing) else h.inquire name (.ask q)
  | .poll name =>
    match h.inquiries.lookup name with
    | none => (h, .nothing)
    | some i => h.inquire name i
  | .subscribe name =>
    if h.desk.gone then (h, .nothing)
    else ({ h with readers := (name, h.desk.board.reader) :: h.readers }, .done)
  | .changed name =>
    (h, match h.readers.lookup name with
      | none => .nothing
      | some r => .changed (h.desk.board.changed? r))
  | .see name =>
    match h.readers.lookup name with
    | none => (h, .nothing)
    | some _ =>
      ({ h with readers := (name, h.desk.board.reader) :: h.readers },
        .status h.desk.status (h.desk.reports h.desk.status))
  | .keep name =>
    if h.desk.gone then (h, .nothing)
    else ({ h with kept := (name, h.desk.status) :: h.kept }, .done)
  | .recall name =>
    (h, match h.kept.lookup name with
      | none => .nothing
      | some s => .status s (h.desk.reports s))
  | .move _ | .takeOut _ _ => (h, .nothing)

/-- One act. -/
def act (h : Hall) (a : Act) : Hall × Sight :=
  match h.move? a with
  | some m => h.moved m
  | none => h.observe a

/-- The hall after acts in order. -/
def after (h : Hall) (acts : List Act) : Hall := acts.foldl (fun h a => (h.act a).1) h

/-- The statuses that an act publishes. -/
def posted (h : Hall) (a : Act) : List Status :=
  let d := (h.act a).1.desk
  if d.board.posts = h.desk.board.posts then [] else [d.status]

/-! ## The journal of the hall -/

/-- The journal after an act. -/
def noted (h : Hall) (j : Journal) (a : Act) : Journal :=
  match h.move? a with
  | some m => j.note m (h.desk.step m).2
  | none => j

/-- The journal after acts in order. -/
def journal (h : Hall) (j : Journal) : List Act → Journal
  | [] => j
  | a :: acts => (h.act a).1.journal (h.noted j a) acts

/-- The moves of the desk that acts make, in order. -/
def moves (h : Hall) : List Act → List Desk.Move
  | [] => []
  | a :: acts => (h.move? a).toList ++ (h.act a).1.moves acts

variable (h : Hall)

theorem after_cons (a : Act) (acts : List Act) :
    h.after (a :: acts) = (h.act a).1.after acts := rfl

/-- A look leaves the desk. -/
theorem observe_desk (a : Act) : (h.observe a).1.desk = h.desk := by
  unfold observe inquire
  repeat' split
  all_goals rfl

/-- A look takes no turn of the desk. -/
theorem observe_ne_turn (a : Act) (t : Turn) : (h.observe a).2 ≠ .turn t := by
  unfold observe inquire
  repeat' split
  all_goals simp

/-- Only an answer moves the desk as an answer does. -/
theorem act_of_answer {h : Hall} {a : Act} {b : Answer} (hm : h.move? a = some (.answer b)) :
    a = .move (.answer b) := by
  cases a with
  | move m => exact congrArg Act.move (Option.some.inj hm)
  | takeOut name slot =>
    obtain ⟨s, -, hs⟩ := Option.bind_eq_some_iff.mp hm
    obtain ⟨c, -, hc⟩ := Option.map_eq_some_iff.mp hs
    exact absurd hc (by simp)
  | _ => exact absurd hm (by simp [move?])

/-- An act moves the desk as its move does, or leaves it. -/
theorem act_desk (a : Act) :
    (h.act a).1.desk = ((h.move? a).map fun m => (h.desk.step m).1).getD h.desk := by
  unfold act
  cases h.move? a with
  | none => exact h.observe_desk a
  | some m => rfl

/-- What every effect of the desk keeps, every act keeps. -/
theorem act_keeps {P : Desk → Journal → Prop}
    (keeps : ∀ {d : Desk} {j : Journal} {m : Desk.Move} {d' : Desk} {t : Turn},
      P d j → d.Step m d' t → P d' (j.note m t))
    {j : Journal} (hp : P h.desk j) (a : Act) : P (h.act a).1.desk (h.noted j a) := by
  rw [act_desk]
  unfold noted
  cases h.move? a with
  | none => exact hp
  | some m => exact keeps hp (Desk.step_spec h.desk m)

theorem after_append (acts more : List Act) :
    h.after (acts ++ more) = (h.after acts).after more := List.foldl_append

/-- Acts leave the desk and its journal as their moves do, so that what holds of every run of the
desk holds of every run of the hall. -/
theorem run_moves (j : Journal) (acts : List Act) :
    (h.after acts).desk = h.desk.run (h.moves acts) ∧
      h.journal j acts = h.desk.journal j (h.moves acts) := by
  induction acts generalizing h j with
  | nil => exact ⟨rfl, rfl⟩
  | cons a acts ih =>
    obtain ⟨same_desk, same_journal⟩ := ih (h.act a).1 (h.noted j a)
    rw [after_cons, journal, same_desk, same_journal, moves, act_desk, noted]
    cases h.move? a with
    | none => exact ⟨rfl, rfl⟩
    | some m => exact ⟨rfl, rfl⟩

theorem journal_append (j : Journal) (acts more : List Act) :
    h.journal j (acts ++ more) = (h.after acts).journal (h.journal j acts) more := by
  induction acts generalizing h j with
  | nil => rfl
  | cons a acts ih => exact ih (h.act a).1 (h.noted j a)

theorem follows_after (k : Payment.Kind) (acts : List Act) :
    ((ofKind k).after acts).desk.Follows ((ofKind k).journal [] acts) := by
  obtain ⟨same_desk, same_journal⟩ := run_moves (ofKind k) [] acts
  rw [same_desk, same_journal]
  exact Desk.follows_run k _

end Hall

end EvmWallet.Checkout
