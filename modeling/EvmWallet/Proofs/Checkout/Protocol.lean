import EvmWallet.Proofs.Checkout.Charge
import EvmWallet.Proofs.Checkout.Sessions

/-!
# The calls on a session

Main statement: whatever is done inside calls, a session is made, then started, then cancelled, or
made and then cancelled at once, each at most once and in this order; it is cancelled at once
exactly when it was replaced while it was being made; and a cancel replies that there was a session
exactly when it had one session cancelled (`session_call_protocol`).

The order is read off the journal, where the sessions are counted: the deeds on a session are
always sorted (`Sorted`), since a session is started before it is cancelled.
-/

namespace EvmWallet.Checkout

/-- What the processor is asked to do with a session. -/
inductive Deed where
  | make
  | start
  | cancel
  deriving DecidableEq, Repr

/-- What a call asks for, if it is about a session. -/
def Call.deed? (s : Nat) : Call → Option Deed
  | .make n => if n = s then some .make else none
  | .start n => if n = s then some .start else none
  | .cancel n => if n = s then some .cancel else none
  | .complete _ _ => none

/-- What was asked for when a note was made, if it was about a session. -/
def Note.deed? (s : Nat) : Note → Option Deed
  | .opened n => if n = s then some .make else none
  | .began n => if n = s then some .start else none
  | .replaced n | .released n => if n = s then some .cancel else none
  | .heard _ _ | .answered _ | .taken _ | .left => none

namespace Journal

variable {j : Journal}

/-- What was asked for a session, in order of time. -/
def deeds (s : Nat) : Journal → List Deed
  | [] => []
  | n :: older => deeds s older ++ (n.deed? s).toList

/-- How often a session was cancelled. -/
def cancels (j : Journal) (s : Nat) : Nat := j.count (.released s) + j.count (.replaced s)

/-- Each session was made before it was started, and started before it was cancelled. -/
def Sorted (j : Journal) : Prop :=
  ∀ s, j.deeds s = List.replicate (j.count (.opened s)) .make ++
    (List.replicate (j.count (.began s)) .start ++ List.replicate (j.cancels s) .cancel)

/-- A note keeps the deeds sorted if nothing was done yet that belongs behind it. -/
theorem Sorted.cons {n : Note} (h : j.Sorted)
    (made : ∀ s, n = .opened s → j.count (.began s) = 0 ∧ j.cancels s = 0)
    (started : ∀ s, n = .began s → j.cancels s = 0) : Sorted (n :: j) := by
  intro s
  have before := h s
  rw [deeds, before]
  unfold cancels at *
  cases n with
  | opened x =>
    by_cases same : x = s
    · subst same
      obtain ⟨unstarted, uncancelled⟩ := made x rfl
      simp [Note.deed?, unstarted, uncancelled, List.replicate_succ']
    · simp [Note.deed?, same]
  | began x =>
    by_cases same : x = s
    · subst same
      have uncancelled := started x rfl
      simp [Note.deed?, uncancelled, List.replicate_succ']
    · simp [Note.deed?, same]
  | replaced x =>
    by_cases same : x = s
    · subst same
      simp [Note.deed?, List.replicate_succ', ← Nat.add_assoc]
    · simp [Note.deed?, same]
  | released x =>
    by_cases same : x = s
    · subst same
      have more : j.count (.released x) + 1 + j.count (.replaced x) =
          j.count (.released x) + j.count (.replaced x) + 1 := by omega
      simp [Note.deed?, more, List.replicate_succ']
    · simp [Note.deed?, same]
  | _ => simp [Note.deed?]

end Journal

namespace Desk

variable {d d' : Desk} {j : Journal} {m : Move} {t : Turn} {s : Nat}

/-! ## Deeds -/

/-- What the desk asks for a session in a run, in order. -/
def deeds (d : Desk) (s : Nat) (moves : List Move) : List Deed :=
  (d.calls moves).filterMap (Call.deed? s)

/-- The journal notes what is asked for. -/
theorem Step.deeds (hs : d.Step m d' t) (s : Nat) :
    (j.note m t).deeds s = j.deeds s ++ (t.call?.bind (Call.deed? s)).toList := by
  have unnoted {n : Note} (h : n.deed? s = none) : Journal.deeds s (n :: j) = j.deeds s ++ [] := by
    rw [Journal.deeds, h]
    rfl
  have spoken (x : Nat) (e : Event) : (j.note (.hear x e) t).deeds s = j.deeds s ++ [] := by
    simp only [Journal.note]
    split
    · exact unnoted rfl
    · exact (List.append_nil _).symm
  cases hs with
  | stays refused =>
    rw [refused.note]
    exact (List.append_nil _).symm
  | ignores unheard => exact spoken _ _
  | hears heard => exact spoken _ _
  | opens ready =>
    rw [note_opens ready]
    rfl
  | releases asked present charge =>
    rw [note_releases asked]
    rfl
  | answers present waits pending => exact unnoted rfl
  | takes pending => exact unnoted rfl
  | leaves present idle free => exact unnoted rfl
  | abandons present idle charge => exact List.append_nil _
  | begins made current => rfl
  | replaces made outdated => rfl
  | returns innermost returns => exact (List.append_nil _).symm
  | closes innermost => exact (List.append_nil _).symm

/-- The deeds of a run are those that its journal adds. -/
theorem journal_deeds (d : Desk) (j : Journal) (s : Nat) (moves : List Move) :
    (d.journal j moves).deeds s = j.deeds s ++ d.deeds s moves := by
  -- The journal grows by later notes, so the induction is over all desks and journals at once.
  induction moves generalizing d j with
  | nil => exact (List.append_nil _).symm
  | cons m moves ih =>
    have first : ((d.step m).2.call?.toList).filterMap (Call.deed? s) =
        ((d.step m).2.call?.bind (Call.deed? s)).toList := by
      cases (d.step m).2.call? with
      | none => rfl
      | some c => cases h : c.deed? s <;> simp [h]
    rw [journal, ih, (step_spec d m).deeds, deeds, deeds, calls, List.filterMap_append, first,
      List.append_assoc]

/-- With the session of the next number nothing was done. -/
theorem Accounts.unused (h : d.Accounts j) :
    j.count (.began d.opened) = 0 ∧ j.cancels d.opened = 0 := by
  have hopened := h.opened d.opened
  rw [if_neg (Nat.lt_irrefl _)] at hopened
  have hmade := h.made d.opened
  have hbegan := h.began d.opened
  unfold Journal.cancels
  omega

/-- A session that is being made was neither started nor cancelled. -/
theorem Accounts.unfinished {rest : List Frame} (h : d.Accounts j)
    (made : d.frames = .making s :: rest) : j.count (.began s) = 0 ∧ j.cancels s = 0 := by
  -- A session has one call for its making, so the one under way leaves none to start or cancel it.
  have hopened := h.opened s
  have hmade := h.made s
  rw [made, List.count_cons_self] at hmade
  have hbegan := h.began s
  unfold Journal.cancels
  split at hopened <;> omega

theorem Accounts.sorted (h : d.Accounts j) (hf : d.Follows j) (ho : d.Orderly) (hj : j.Sorted)
    (hs : d.Step m d' t) : (j.note m t).Sorted := by
  cases hs with
  | stays refused =>
    rw [refused.note]
    exact hj
  | ignores unheard =>
    rw [hf.note_ignored ho unheard]
    exact hj
  | hears heard =>
    rw [hf.note_heard ho heard]
    exact hj.cons (by simp) (by simp)
  | opens ready =>
    rw [note_opens ready]
    refine hj.cons ?_ (by simp)
    rintro s ⟨⟩
    exact h.unused
  | releases asked present charge =>
    rw [note_releases asked]
    exact hj.cons (by simp) (by simp)
  | answers present waits pending => exact hj.cons (by simp) (by simp)
  | takes pending => exact hj.cons (by simp) (by simp)
  | leaves present idle free => exact hj.cons (by simp) (by simp)
  | abandons present idle charge => exact (hj.cons (by simp) (by simp)).cons (by simp) (by simp)
  | @begins s rest made current =>
    refine hj.cons (by simp) ?_
    rintro s ⟨⟩
    exact (h.unfinished made).2
  | replaces made outdated => exact hj.cons (by simp) (by simp)
  | returns innermost returns => exact hj
  | closes innermost => exact hj

theorem sorted_run (k : Payment.Kind) (moves : List Move) :
    ((ofKind k).run moves).Accounts ((ofKind k).journal [] moves) ∧
      ((ofKind k).journal [] moves).Sorted := by
  have start : (ofKind k).Accounts [] ∧ Journal.Sorted [] := ⟨accounts_ofKind k, fun s => rfl⟩
  refine (run_follows (P := fun d j => d.Accounts j ∧ j.Sorted) ?_ k start moves).2
  rintro d j m d' t follows orderly ⟨accounts, sorted⟩ hs
  exact ⟨accounts.step follows orderly hs, accounts.sorted follows orderly sorted hs⟩

/-! ## The course of a session -/

/-- The deeds on a session, counted by the journal. -/
theorem deeds_eq (k : Payment.Kind) (moves : List Move) (s : Nat) :
    let j := (ofKind k).journal [] moves
    (ofKind k).deeds s moves = List.replicate (j.count (.opened s)) .make ++
      (List.replicate (j.count (.began s)) .start ++ List.replicate (j.cancels s) .cancel) := by
  intro j
  rw [← (sorted_run k moves).2 s, journal_deeds (ofKind k) [] s moves]
  rfl

/-- A session is opened once, made at most as often, and cancelled at most as often as made. -/
theorem Accounts.counts (h : d.Accounts j) (s : Nat) :
    j.count (.opened s) ≤ 1 ∧ j.count (.began s) + j.count (.replaced s) ≤ j.count (.opened s) ∧
      j.count (.released s) ≤ j.count (.began s) := by
  have hopened := h.opened s
  have hmade := h.made s
  have hbegan := h.began s
  split at hopened <;> omega

/-- The deeds on a session: made, started and cancelled, or made and cancelled, as far as it got. -/
theorem deeds_course (k : Payment.Kind) (moves : List Move) (s : Nat) :
    (ofKind k).deeds s moves <+: [.make, .start, .cancel] ∨
      (ofKind k).deeds s moves <+: [.make, .cancel] := by
  have counts := (sorted_run k moves).1.counts s
  rw [deeds_eq]
  generalize (ofKind k).journal [] moves = j at *
  have possible : (j.count (.opened s) = 0 ∧ j.count (.began s) = 0 ∧ j.cancels s = 0) ∨
      (j.count (.opened s) = 1 ∧ (j.count (.began s) = 0 ∨ j.count (.began s) = 1) ∧
        (j.cancels s = 0 ∨ j.cancels s = 1)) := by
    unfold Journal.cancels
    omega
  -- Sorted deeds that are counted so can only have stopped somewhere on one of the two courses.
  rcases possible with ⟨opened, began, cancels⟩ | ⟨opened, began | began, cancels | cancels⟩
  all_goals
    rw [opened, began, cancels]
    decide

/-- A session that was noted as replaced was made and cancelled, and never started. -/
theorem deeds_of_replaced (k : Payment.Kind) {moves : List Move} {s : Nat}
    (replaced : .replaced s ∈ (ofKind k).journal [] moves) :
    (ofKind k).deeds s moves = [.make, .cancel] := by
  have counts := (sorted_run k moves).1.counts s
  have once := List.count_pos_iff.mpr replaced
  rw [deeds_eq]
  generalize (ofKind k).journal [] moves = j at *
  have opened : j.count (.opened s) = 1 := by omega
  have began : j.count (.began s) = 0 := by omega
  have cancels : j.cancels s = 1 := by
    unfold Journal.cancels
    omega
  rw [opened, began, cancels]
  rfl

/-! ## Sessions that are replaced while they are made -/

/-- A session is replaced during moves: at some moment, between two of them or at the end, the
status is no longer its own. -/
def ReplacedDuring (d : Desk) (s : Nat) (moves : List Move) : Prop :=
  ∃ n ≤ moves.length, (d.run (moves.take n)).status.session ≠ some s

/-- The status does not return to a session that it left. -/
theorem past_of_replacedDuring {moves : List Move} (opened : s < d.opened)
    (replaced : d.ReplacedDuring s moves) : (d.run moves).Past s := by
  obtain ⟨n, -, other⟩ := replaced
  have kept : s < (d.run (moves.take n)).opened :=
    Nat.lt_of_lt_of_le opened (opened_le_run d (moves.take n))
  have whole : d.run moves = (d.run (moves.take n)).run (moves.drop n) := by
    rw [← run_append, List.take_append_drop]
  rw [whole]
  exact Past.run ⟨kept, other⟩ _

/-- The notes of a run stay in its journal. -/
theorem mem_journal {n : Note} (h : n ∈ j) (moves : List Move) : n ∈ d.journal j moves :=
  run_keeps (P := fun _ j => n ∈ j) (fun h _ => (Journal.suffix_note _ _ _).mem h) h moves

/-- A session whose making returns is cancelled if it was replaced meanwhile, and is started
otherwise. -/
theorem making_returns {inner : List Move} (hs : d.Step m d' (.call (.make s)))
    (nested : d'.Nested inner) :
    (d'.ReplacedDuring s inner → ((d'.run inner).step .resume).2 = .call (.cancel s)) ∧
      (¬d'.ReplacedDuring s inner → ((d'.run inner).step .resume).2 = .call (.start s)) := by
  obtain ⟨next, more, rest, frames⟩ := hs.make
  have opened : s < d'.opened := by omega
  have innermost : (d'.run inner).frames = .making s :: rest := nested.back.trans frames
  refine ⟨fun replaced => ?_, fun stayed => ?_⟩
  · exact resume_outdated innermost (past_of_replacedDuring opened replaced).other
  · by_cases current : (d'.run inner).status.session = some s
    · exact resume_making innermost current
    · refine absurd ⟨inner.length, Nat.le_refl _, ?_⟩ stayed
      rw [List.take_length]
      exact current

/-- A session that was replaced while it was made, by whatever the moves inside its making did, is
cancelled when the making returns and never started. -/
theorem deeds_of_replacedDuring (k : Payment.Kind) {before inner after : List Move}
    (turn : (((ofKind k).run before).step m).2 = .call (.make s))
    (nested : (((ofKind k).run before).step m).1.Nested inner)
    (replaced : (((ofKind k).run before).step m).1.ReplacedDuring s inner) :
    (ofKind k).deeds s (before ++ m :: (inner ++ .resume :: after)) = [.make, .cancel] := by
  have hs := step_spec ((ofKind k).run before) m
  rw [turn] at hs
  have cancelled := (making_returns hs nested).1 replaced
  -- What follows may add notes, but this one stays and already decides the deeds.
  apply deeds_of_replaced
  rw [journal_append, journal, journal_append, journal, cancelled]
  exact mem_journal List.mem_cons_self after

/-! ## Cancelling on demand -/

/-- How a cancel is settled: at once if no session is in charge, and otherwise by having that one
cancelled, whatever is done meanwhile. -/
theorem settles_cancel_iff (coherent : d.Coherent) {more : List Move} {own : List Call}
    {r : Reply} :
    d.Settles (.cancel :: more) own r ↔
      (∃ s inner, d.live = some s ∧ (d.step .cancel).1.Nested inner ∧ more = inner ++ [.resume] ∧
        own = [.cancel s] ∧ r = .cancelled true) ∨
      (d.live = none ∧ more = [] ∧ own = [] ∧
        r = if d.gone then .nothing else .cancelled false) := by
  cases charge : d.live with
  | some s =>
    have asked := step_cancel_charge (coherent.present charge) charge
    have returned {inner : List Move} (nested : (d.step .cancel).1.Nested inner) :
        (((d.step .cancel).1.run inner).step .resume).2 = .reply (.cancelled true) := by
      rw [asked] at nested ⊢
      exact resume_cancelling nested.back
    constructor
    · intro settled
      left
      cases settled with
      | replies turn =>
        rw [asked] at turn
        exact absurd turn (by simp)
      | @calls _ _ c inner more own r turn nested rest =>
        have same : c = .cancel s := by
          rw [asked] at turn
          exact (Turn.call.inj turn).symm
        cases rest with
        | replies reply =>
          have replied : r = .cancelled true :=
            Turn.reply.inj (reply.symm.trans (returned nested))
          exact ⟨s, inner, rfl, nested, rfl, by rw [same], replied⟩
        | calls turn' => exact absurd (turn'.symm.trans (returned nested)) (by simp)
    · rintro (⟨s', inner, charge', nested, rfl, rfl, rfl⟩ | ⟨free, -⟩)
      · have same : s' = s := (Option.some.inj charge').symm
        have turn : (d.step .cancel).2 = .call (.cancel s') := by rw [asked, same]
        exact .calls turn nested (.replies (returned nested))
      · exact absurd free (by simp)
  | none =>
    have replied : (d.step .cancel).2 = .reply (if d.gone then .nothing else .cancelled false) := by
      cases left : d.gone with
      | false => rw [step_cancel_free left charge]; rfl
      | true => simp [step, cancel, left]
    constructor
    · intro settled
      right
      cases settled with
      | replies turn => exact ⟨rfl, rfl, rfl, Turn.reply.inj (turn.symm.trans replied)⟩
      | calls turn => exact absurd (turn.symm.trans replied) (by simp)
    · rintro (⟨s', inner, charge', -⟩ | ⟨-, rfl, rfl, rfl⟩)
      · exact absurd charge' (by simp)
      · exact .replies replied

/-- In every run, whatever was done inside calls: a session is made, started and cancelled, or made
and cancelled, each once at most and in this order. A session that was replaced during its making
is cancelled once and never started, whatever comes after, and one that was not is started when its
making returns. A cancel that is settled has asked for nothing but one cancellation at most, and
replies that there was a session exactly if it asked for one; it is settled at once if no session
is in charge, and otherwise as soon as its call returns. -/
theorem session_call_protocol (k : Payment.Kind) (moves : List Move) :
    (∀ s, (ofKind k).deeds s moves <+: [.make, .start, .cancel] ∨
        (ofKind k).deeds s moves <+: [.make, .cancel]) ∧
      (∀ before m inner after s, moves = before ++ m :: (inner ++ .resume :: after) →
        let d := ((ofKind k).run before).step m
        d.2 = .call (.make s) → d.1.Nested inner →
          (d.1.ReplacedDuring s inner → (ofKind k).deeds s moves = [.make, .cancel]) ∧
          (¬d.1.ReplacedDuring s inner → ((d.1.run inner).step .resume).2 = .call (.start s))) ∧
      let d := (ofKind k).run moves
      (∀ more own r, d.Settles (.cancel :: more) own r →
        (own = [] ∨ ∃ s, own = [.cancel s]) ∧ (r = .cancelled true ↔ ∃ s, own = [.cancel s])) ∧
      (d.gone = false → d.live = none → d.Settles [.cancel] [] (.cancelled false)) ∧
      ∀ s, d.live = some s → ∀ inner, (d.step .cancel).1.Nested inner →
        d.Settles (.cancel :: (inner ++ [.resume])) [.cancel s] (.cancelled true) := by
  have coherent := (coherent_run k moves).1
  refine ⟨deeds_course k moves, ?_, ?_, ?_, ?_⟩
  · rintro before m inner after s rfl d turn nested
    have hs : ((ofKind k).run before).Step m d.1 (.call (.make s)) := turn ▸ step_spec _ m
    exact ⟨deeds_of_replacedDuring k turn nested, (making_returns hs nested).2⟩
  · intro more own r settled
    rcases (settles_cancel_iff coherent).mp settled with
      ⟨s, inner, -, -, -, rfl, rfl⟩ | ⟨-, -, rfl, rfl⟩
    · exact ⟨.inr ⟨s, rfl⟩, fun _ => ⟨s, rfl⟩, fun _ => rfl⟩
    · refine ⟨.inl rfl, fun replied => ?_, fun ⟨s, asked⟩ => absurd asked (by simp)⟩
      split at replied <;> exact absurd replied (by simp)
  · intro present free
    exact (settles_cancel_iff coherent).mpr (.inr ⟨free, rfl, rfl, by rw [present]; rfl⟩)
  · intro s charge inner nested
    exact (settles_cancel_iff coherent).mpr (.inl ⟨s, inner, charge, nested, rfl, rfl, rfl⟩)

/-- Session 0 is replaced by session 1, which is opened and started while session 0 is made: when
its making returns, session 0 is cancelled, and nothing more is ever asked for it. -/
theorem session_call_protocol_replaced :
    (ofKind .card).deeds 0
        ([] ++ .create :: ([.create, .resume, .resume] ++ .resume :: [.cancel])) =
      [.make, .cancel] :=
  ((session_call_protocol .card _).2.1 [] .create [.create, .resume, .resume] [.cancel] 0 rfl rfl
    ⟨by decide, by decide⟩).1 ⟨1, by decide, by decide⟩

end Desk

end EvmWallet.Checkout
