import EvmWallet.Proofs.Checkout.Follows

/-!
# Between two resets

A reset gives the status to another session, or to none. Until the next one the events that count
only add up (`calls_append`), so that what an event has set stays set, though its value may change
(`last?_append`).
-/

namespace EvmWallet.Checkout

/-- Whether the status was given to another session, or to none. -/
def Note.resets : Note → Bool
  | opened _ | released _ => true
  | began _ | replaced _ | heard _ _ | answered _ | taken _ | left => false

namespace Journal

variable {α : Type} {newer older : Journal}

/-- How often the status was reset. -/
def resets (j : Journal) : Nat := j.countP Note.resets

theorem resets_cons (n : Note) (j : Journal) :
    resets (n :: j) = j.resets + if n.resets then 1 else 0 :=
  List.countP_cons

theorem resets_append : resets (newer ++ older) = resets newer + resets older := List.countP_append

theorem calls_append (unreset : resets newer = 0) :
    calls (newer ++ older) = calls newer ++ calls older := by
  induction newer with
  | nil => rfl
  | cons n newer ih =>
    rw [resets_cons] at unreset
    have rest := ih (by omega)
    -- A reset would cut off the calls before it.
    cases n with
    | opened s => exact absurd unreset (by simp [Note.resets])
    | released s => exact absurd unreset (by simp [Note.resets])
    | heard s e =>
      show (s, e) :: calls (newer ++ older) = (s, e) :: calls newer ++ calls older
      rw [rest]
      rfl
    | _ => exact rest

theorem last?_append (unreset : resets newer = 0) (part : Event → Option α) :
    last? part (newer ++ older) = (last? part newer).or (last? part older) := by
  unfold last?
  rw [calls_append unreset, List.findSome?_append]

end Journal

namespace Desk

theorem suffix_journal (d : Desk) (j : Journal) (moves : List Move) : j <:+ d.journal j moves :=
  run_keeps (P := fun _ later => j <:+ later)
    (fun older _ => older.trans (Journal.suffix_note _ _ _)) (List.suffix_refl j) moves

/-- Moves without a reset add notes without a reset. -/
theorem journal_unreset {d : Desk} {j : Journal} {moves : List Move}
    (same : (d.journal j moves).resets = j.resets) :
    ∃ newer : Journal, newer.resets = 0 ∧ d.journal j moves = newer ++ j := by
  obtain ⟨newer, split⟩ := suffix_journal d j moves
  refine ⟨newer, ?_, split.symm⟩
  rw [← split, Journal.resets_append] at same
  omega

end Desk

end EvmWallet.Checkout
