import EvmWallet.Proofs.Checkout.Follows

/-!
# What is published

Main statement: after every run, the latest published status is what the journal tells
(`status_run_recounts`): its version counts the publications, its session is that of the last
reset, each field has the value of the last event of its kind since the reset, and each slot
has the callback of the last event of its kind, unless that callback was taken and an answer has
cleared it since.
-/

namespace EvmWallet.Checkout

/-! ## Slots -/

namespace Journal

theorem delivered_heard (slot : Slot) (s : Nat) (e : Event) (j : Journal) :
    delivered slot (.heard s e :: j) = (e.callbackIn? slot).or (delivered slot j) :=
  last?_heard j (Event.callbackIn? slot) s e

/-- A callback that waits is the one that was delivered last. -/
theorem delivered_of_waiting {slot : Slot} {callback : Nat} {j : Journal}
    (h : waiting slot j = some callback) : delivered slot j = some callback := by
  induction j with
  | nil => simp [waiting] at h
  | cons n j ih =>
    cases n with
    | opened s => simp [waiting] at h
    | released s => simp [waiting] at h
    | heard s e =>
      rw [waiting] at h
      rw [delivered_heard]
      cases own : e.callbackIn? slot with
      | none =>
        rw [own, Option.none_or] at h
        rw [Option.none_or]
        exact ih h
      | some c =>
        rw [own] at h
        exact h
    | answered other =>
      rw [waiting, Option.filter_eq_some_iff] at h
      exact ih h.1
    | began s => exact ih h
    | replaced s => exact ih h
    | taken c => exact ih h
    | left => exact ih h

/-- A note that does not touch a slot leaves it cleared, or not. -/
theorem cleared_cons {slot : Slot} {callback : Nat} {n : Note} {j : Journal}
    (keeps : ¬n.Fills slot) (other : ∀ c, n ≠ .answered c) :
    Cleared slot callback (n :: j) ↔ Cleared slot callback j := by
  constructor
  · rintro ⟨newer, c, older, split, quiet, spent⟩
    cases newer with
    | nil =>
      have hn : n = .answered c := (List.cons.inj split).1
      exact absurd hn (other c)
    | cons x newer =>
      refine ⟨newer, c, older, (List.cons.inj split).2, ?_, spent⟩
      intro y hy
      exact quiet y (List.mem_cons_of_mem x hy)
  · rintro ⟨newer, c, older, rfl, quiet, spent⟩
    refine ⟨n :: newer, c, older, rfl, ?_, spent⟩
    intro y hy
    rcases List.mem_cons.mp hy with rfl | hy
    · exact keeps
    · exact quiet y hy

/-- A slot that was just filled is not cleared. -/
theorem not_cleared_of_fills {slot : Slot} {callback : Nat} {n : Note} {j : Journal}
    (fills : n.Fills slot) : ¬Cleared slot callback (n :: j) := by
  rintro ⟨newer, c, older, split, quiet, -⟩
  cases newer with
  | nil =>
    have hn : n = .answered c := (List.cons.inj split).1
    rw [hn] at fills
    exact fills
  | cons x newer =>
    have hn : n = x := (List.cons.inj split).1
    exact quiet x List.mem_cons_self (hn ▸ fills)

/-- An answer clears a callback that was taken by then, or leaves it as cleared as before. -/
theorem cleared_answered {slot : Slot} {callback other : Nat} {j : Journal} :
    Cleared slot callback (.answered other :: j) ↔
      callback ∈ consumed (.answered other :: j) ∨ Cleared slot callback j := by
  constructor
  · rintro ⟨newer, c, older, split, quiet, spent⟩
    cases newer with
    | nil =>
      obtain ⟨-, hj⟩ := List.cons.inj split
      left
      rw [split]
      exact spent
    | cons x newer =>
      right
      refine ⟨newer, c, older, (List.cons.inj split).2, ?_, spent⟩
      intro y hy
      exact quiet y (List.mem_cons_of_mem x hy)
  · rintro (spent | ⟨newer, c, older, rfl, quiet, spent⟩)
    · exact ⟨[], other, j, rfl, by simp, spent⟩
    · refine ⟨.answered other :: newer, c, older, rfl, ?_, spent⟩
      intro y hy
      rcases List.mem_cons.mp hy with rfl | hy
      · exact id
      · exact quiet y hy

/-- An answer empties a slot whose callback was taken by then. -/
theorem waiting_answered_eq_none_iff (slot : Slot) (other : Nat) (j : Journal) :
    waiting slot (.answered other :: j) = none ↔
      ∀ callback, waiting slot j = some callback → callback ∈ consumed (.answered other :: j) := by
  rw [waiting, Option.filter_eq_none_iff]
  refine forall_congr' fun callback => imp_congr_right fun _ => ?_
  have hc : consumed (.answered other :: j) = other :: consumed j := rfl
  rw [hc, Bool.not_eq_true', Bool.not_eq_false, List.contains_iff_mem]

/-- A slot is empty when nothing was delivered to it, or what was delivered is cleared. -/
theorem waiting_eq_none_iff (slot : Slot) (j : Journal) :
    waiting slot j = none ↔
      ∀ callback, delivered slot j = some callback → Cleared slot callback j := by
  -- Only an event for the slot and an answer change either side.
  have keeps {n : Note} {j : Journal} (quiet : ¬n.Fills slot) (other : ∀ c, n ≠ .answered c)
      (hw : waiting slot (n :: j) = waiting slot j)
      (hd : delivered slot (n :: j) = delivered slot j)
      (ih : waiting slot j = none ↔
        ∀ callback, delivered slot j = some callback → Cleared slot callback j) :
      waiting slot (n :: j) = none ↔
        ∀ callback, delivered slot (n :: j) = some callback → Cleared slot callback (n :: j) := by
    rw [hw, hd, ih]
    refine forall_congr' fun callback => imp_congr_right fun _ => ?_
    exact (cleared_cons quiet other).symm
  induction j with
  | nil => simp [waiting, delivered, last?, calls]
  | cons n j ih =>
    cases n with
    | opened s => simp [waiting, delivered, last?, calls]
    | released s => simp [waiting, delivered, last?, calls]
    | heard s e =>
      cases own : e.callbackIn? slot with
      | none =>
        refine keeps (by simp [Note.Fills, own]) (by simp) ?_ ?_ ih
        · rw [waiting, own, Option.none_or]
        · rw [delivered_heard, own, Option.none_or]
      | some c =>
        have fills : (Note.heard s e).Fills slot := by simp [Note.Fills, own]
        rw [waiting, delivered_heard, own]
        simp [not_cleared_of_fills fills]
    | answered other =>
      rw [waiting_answered_eq_none_iff]
      have hd : delivered slot (.answered other :: j) = delivered slot j := rfl
      rw [hd]
      constructor
      · intro spent callback hc
        rw [cleared_answered]
        cases hw : waiting slot j with
        | none => exact .inr (ih.mp hw callback hc)
        | some c =>
          have hcc : c = callback := Option.some.inj ((delivered_of_waiting hw).symm.trans hc)
          exact .inl (spent callback (hcc ▸ hw))
      · intro cleared callback hw
        have hc := delivered_of_waiting hw
        rcases cleared_answered.mp (cleared callback hc) with spent | before
        · exact spent
        · have hnone : waiting slot j = none := by
            refine ih.mpr fun c hdc => ?_
            rw [← Option.some.inj (hc.symm.trans hdc)]
            exact before
          exact absurd (hw.symm.trans hnone) (by simp)
    | began s => exact keeps (by simp [Note.Fills]) (by simp) rfl rfl ih
    | replaced s => exact keeps (by simp [Note.Fills]) (by simp) rfl rfl ih
    | taken c => exact keeps (by simp [Note.Fills]) (by simp) rfl rfl ih
    | left => exact keeps (by simp [Note.Fills]) (by simp) rfl rfl ih

end Journal

/-! ## Statuses -/

/-- A status shows exactly what a journal tells. -/
structure Status.Recounts (s : Status) (j : Journal) : Prop where
  version : s.version = j.publications
  /-- The session is that of the last reset. -/
  session : s.session = j.current
  token : s.progress.token = j.last? Event.token?
  outcome : s.progress.outcome = j.last? Event.outcome?
  redirectUrl : s.progress.redirectUrl = j.last? Event.redirectUrl?
  request : s.progress.request = j.last? Event.request?
  offered : s.progress.offered = (j.last? Event.offered?).getD []
  recurring : s.progress.recurring = (j.last? Event.recurring?).getD []
  fields : s.progress.fields = (j.last? Event.fields?).getD []
  /-- A slot holds the callback last delivered to it since the reset. -/
  holds : ∀ slot callback, s.progress.slots.get slot = some callback →
    j.delivered slot = some callback
  /-- A slot is empty exactly when nothing was delivered to it since the reset, or when what was
  delivered was taken and an answer has cleared it. -/
  empty : ∀ slot, s.progress.slots.get slot = none ↔
    j.delivered slot = none ∨
      ∃ callback, j.delivered slot = some callback ∧ j.Cleared slot callback

namespace Journal

/-- The status that a journal tells of shows what it tells. -/
theorem status_recounts (j : Journal) : j.status.Recounts j where
  version := rfl
  session := rfl
  token := rfl
  outcome := rfl
  redirectUrl := rfl
  request := rfl
  offered := rfl
  recurring := rfl
  fields := rfl
  holds slot callback h := by
    have hw : j.waiting slot = some callback := by
      rw [← slots_get]
      exact h
    exact delivered_of_waiting hw
  empty slot := by
    show j.progress.slots.get slot = none ↔ _
    rw [slots_get, waiting_eq_none_iff]
    cases hd : j.delivered slot with
    | none => simp
    | some c => simp

end Journal

/-- After every run, whatever calls are still under way, the latest status is the one that the
journal of the run tells of, and its version is the number of statuses published. What a move adds to
the journal is decided by the journal and by the calls under way. Taking a callback past the desk is
a move of its own, so this holds as well in the middle of an answer, when its callback is taken and
not yet cleared. -/
theorem Desk.status_run_recounts (k : Payment.Kind) (moves : List Desk.Move) :
    let d := (Desk.ofKind k).run moves
    let j := (Desk.ofKind k).journal [] moves
    d.status.Recounts j ∧ d.status.version = d.board.posts ∧
      ∀ m, (Desk.ofKind k).journal [] (moves ++ [m]) = j.due d.frames m ++ j := by
  intro d j
  have follows : d.Follows j := Desk.follows_run k moves
  have version : d.status.version = d.board.posts := by
    rw [follows.status, follows.posts]
    rfl
  exact ⟨follows.status ▸ j.status_recounts, version, Desk.journal_concat_eq_due k moves⟩

end EvmWallet.Checkout
