import EvmWallet.Proofs.Checkout.Hall
import EvmWallet.Proofs.Checkout.Sessions

/-!
# Sessions that are over do not interfere

A session is over once another was opened after it, once it was taken away, or once the desk was
given up. Main statement: a run and the same run without the events of sessions that are over look
the same to everybody in the hall (`ended_sessions_do_not_interfere`), and an answer completes
only a callback that the session of the status delivered since the last reset.

Sessions are numbered in order and none is opened twice, so the status never belongs again to a
session that is over (`Tracked.silent`).
-/

namespace EvmWallet.Checkout

namespace Journal

/-- Whether another session was opened after this one. -/
def followed (s : Nat) : Journal → Bool
  | [] => false
  | .opened _ :: older => older.contains (.opened s) || followed s older
  | _ :: older => followed s older

/-- Whether a session is over. -/
def ended (j : Journal) (s : Nat) : Bool :=
  j.followed s || j.contains (.released s) || j.contains .left

/-- A session that another one followed was opened. -/
theorem opened_of_followed {s : Nat} {j : Journal} (h : j.followed s = true) : .opened s ∈ j := by
  induction j with
  | nil => exact absurd h (by simp [followed])
  | cons n j ih =>
    cases n with
    | opened t =>
      rcases Bool.or_eq_true_iff.mp h with before | h
      · exact List.mem_cons_of_mem _ (List.contains_iff_mem.mp before)
      · exact List.mem_cons_of_mem _ (ih h)
    | _ => exact List.mem_cons_of_mem _ (ih h)

/-- A note of another kind than an opening, a release or the end ends no session. -/
theorem ended_cons {n : Note} (j : Journal) (s : Nat) (opens : ∀ t, n ≠ .opened t)
    (releases : ∀ t, n ≠ .released t) (leaves : n ≠ .left) :
    ended (n :: j) s = ended j s ∧ hears (n :: j) s = hears j s := by
  cases n with
  | opened t => exact absurd rfl (opens t)
  | released t => exact absurd rfl (releases t)
  | left => exact absurd rfl leaves
  | _ => exact ⟨rfl, rfl⟩

theorem hears_of_left {j : Journal} (left : .left ∈ j) (s : Nat) : j.hears s = false := by
  simp [hears, left]

/-- No session that is over is listened to. -/
def Silent (j : Journal) : Prop := ∀ s, j.ended s = true → j.hears s = false

theorem Silent.cons {j : Journal} (h : j.Silent) {n : Note} (opens : ∀ t, n ≠ .opened t)
    (releases : ∀ t, n ≠ .released t) (leaves : n ≠ .left) : Silent (n :: j) := by
  intro s hs
  obtain ⟨same_ended, same_hears⟩ := ended_cons j s opens releases leaves
  rw [same_ended] at hs
  rw [same_hears]
  exact h s hs

/-- Opening a session that was not noted before leaves the sessions that are over unheard. -/
theorem silent_opened {j : Journal} {t : Nat} (fresh : .opened t ∉ j) (kept : .released t ∉ j) :
    Silent (.opened t :: j) := by
  intro s hs
  by_cases same : t = s
  · subst same
    have unfollowed : j.followed t = false := by
      cases hf : j.followed t with
      | false => rfl
      | true => exact absurd (opened_of_followed hf) fresh
    -- A session that is new to the journal is over only if the desk was given up.
    have left : .left ∈ j := by
      simpa [ended, followed, fresh, unfollowed, kept] using hs
    exact hears_of_left (List.mem_cons_of_mem _ left) t
  · simp [hears, current, same]

/-- Only the session of the status has spoken since the reset. -/
def Spoken (j : Journal) : Prop := ∀ call ∈ j.calls, j.current = some call.1

theorem Spoken.heard {j : Journal} (h : j.Spoken) {s : Nat} {e : Event} (heard : j.hears s = true) :
    Spoken (.heard s e :: j) := by
  have current : j.current = some s := by
    have both := heard
    simp only [hears, Bool.and_eq_true, beq_iff_eq] at both
    exact both.1
  intro call mem
  rcases List.mem_cons.mp mem with rfl | mem
  · exact current
  · exact h call mem

end Journal

namespace Desk

variable {d d' : Desk} {j : Journal} {m : Move} {t : Turn}

/-- What a desk and its journal have in common in every run. -/
structure Tracked (d : Desk) (j : Journal) : Prop where
  follows : d.Follows j
  orderly : d.Orderly
  accounts : d.Accounts j
  silent : j.Silent
  spoken : j.Spoken

theorem tracked_ofKind (k : Payment.Kind) : (ofKind k).Tracked [] where
  follows := follows_ofKind k
  orderly := orderly_ofKind k
  accounts := accounts_ofKind k
  silent s hs := absurd hs (by simp [Journal.ended, Journal.followed])
  spoken call mem := absurd mem List.not_mem_nil

/-- The number of the next session was not used. -/
theorem Accounts.fresh (h : d.Accounts j) :
    .opened d.opened ∉ j ∧ .released d.opened ∉ j := by
  have hopened := h.opened d.opened
  rw [if_neg (Nat.lt_irrefl _)] at hopened
  have hmade := h.made d.opened
  have hbegan := h.began d.opened
  constructor
  · rw [← List.count_eq_zero]
    exact hopened
  · rw [← List.count_eq_zero]
    omega

theorem Tracked.silent_step (h : d.Tracked j) (hs : d.Step m d' t) : (j.note m t).Silent := by
  cases hs with
  | stays refused =>
    rw [refused.note]
    exact h.silent
  | ignores unheard =>
    rw [h.follows.note_ignored h.orderly unheard]
    exact h.silent
  | hears heard =>
    rw [h.follows.note_heard h.orderly heard]
    exact h.silent.cons (by simp) (by simp) (by simp)
  | opens ready =>
    rw [note_opens ready]
    exact Journal.silent_opened h.accounts.fresh.1 h.accounts.fresh.2
  | releases asked present charge =>
    rw [note_releases asked]
    exact fun s _ => rfl
  | answers present waits pending => exact h.silent.cons (by simp) (by simp) (by simp)
  | takes pending => exact h.silent.cons (by simp) (by simp) (by simp)
  | leaves present idle free => exact fun s _ => Journal.hears_of_left List.mem_cons_self s
  | abandons present idle charge => exact fun s _ => Journal.hears_of_left List.mem_cons_self s
  | begins made current => exact h.silent.cons (by simp) (by simp) (by simp)
  | replaces made outdated => exact h.silent.cons (by simp) (by simp) (by simp)
  | returns innermost returns => exact h.silent
  | closes innermost => exact h.silent

theorem Tracked.spoken_step (h : d.Tracked j) (hs : d.Step m d' t) : (j.note m t).Spoken := by
  have nobody {n : Note} (resets : Journal.calls (n :: j) = []) : Journal.Spoken (n :: j) := by
    intro call mem
    rw [resets] at mem
    exact absurd mem List.not_mem_nil
  cases hs with
  | stays refused =>
    rw [refused.note]
    exact h.spoken
  | ignores unheard =>
    rw [h.follows.note_ignored h.orderly unheard]
    exact h.spoken
  | @hears s e heard =>
    rw [h.follows.note_heard h.orderly heard]
    rw [h.follows.hears_eq h.orderly] at heard
    exact h.spoken.heard heard
  | opens ready =>
    rw [note_opens ready]
    exact nobody rfl
  | releases asked present charge =>
    rw [note_releases asked]
    exact nobody rfl
  | @abandons s present idle charge => exact nobody (n := .released s) rfl
  | answers present waits pending => exact h.spoken
  | takes pending => exact h.spoken
  | leaves present idle free => exact h.spoken
  | begins made current => exact h.spoken
  | replaces made outdated => exact h.spoken
  | returns innermost returns => exact h.spoken
  | closes innermost => exact h.spoken

theorem Tracked.step (h : d.Tracked j) (hs : d.Step m d' t) : d'.Tracked (j.note m t) where
  follows := h.follows.step h.orderly hs
  orderly := h.orderly.step hs
  accounts := h.accounts.step h.follows h.orderly hs
  silent := h.silent_step hs
  spoken := h.spoken_step hs

/-- An event of a session that is over changes nothing. -/
theorem Tracked.step_ended (h : d.Tracked j) {s : Nat} (e : Event) (ended : j.ended s = true) :
    d.step (.hear s e) = (d, .reply .done) ∧ j.note (.hear s e) (.reply .done) = j := by
  have unheard : d.hears s = false := by
    rw [h.follows.hears_eq h.orderly]
    exact h.silent s ended
  refine ⟨?_, h.follows.note_ignored h.orderly unheard⟩
  show (d.hear s e, Turn.reply .done) = _
  rw [hear, if_neg (by simp [unheard])]

/-- An answer completes a callback that the session of the status delivered since the reset. -/
theorem Tracked.complete {callback : Nat} {a : Answer} (h : d.Tracked j)
    (hs : d.Step m d' (.call (.complete callback a))) :
    m = .answer a ∧ ∃ s e, j.current = some s ∧ (s, e) ∈ j.calls ∧
      e.callbackIn? a.slot = some callback := by
  obtain ⟨answer, waits, -⟩ := hs.complete
  rw [← h.follows.waiting] at waits
  obtain ⟨s, e, mem, carries⟩ := Journal.call_of_delivered (Journal.delivered_of_waiting waits)
  exact ⟨answer, s, e, h.spoken (s, e) mem, mem, carries⟩

end Desk

/-! ## Two runs -/

/-- Whether an act is an event of a session that is over. -/
def Act.stale (j : Journal) : Act → Bool
  | .move (.hear s _) => j.ended s
  | _ => false

/-- An act of a run: what was learned from it, what it published, and what the hall was then. -/
structure Scene where
  act : Act
  /-- Whether the act was an event of a session that was over. -/
  stale : Bool
  sight : Sight
  posted : List Status
  after : Hall

namespace Hall

/-- The scenes of a run. -/
def scenes (h : Hall) (j : Journal) : List Act → List Scene
  | [] => []
  | a :: acts =>
    ⟨a, a.stale j, (h.act a).2, h.posted a, (h.act a).1⟩ :: (h.act a).1.scenes (h.noted j a) acts

/-- The acts of a run but for the events of sessions that were over. -/
def timely (h : Hall) (j : Journal) : List Act → List Act
  | [] => []
  | a :: acts =>
    let others := (h.act a).1.timely (h.noted j a) acts
    if a.stale j then others else a :: others

variable {h : Hall} {j : Journal}

theorem tracked_act (ht : h.desk.Tracked j) (a : Act) :
    (h.act a).1.desk.Tracked (h.noted j a) :=
  h.act_keeps (fun tracked hs => tracked.step hs) ht a

/-- An event of a session that is over leaves the hall and the journal and publishes nothing. -/
theorem act_stale (ht : h.desk.Tracked j) {a : Act} (stale : a.stale j = true) :
    (h.act a).1 = h ∧ h.noted j a = j ∧ h.posted a = [] := by
  obtain ⟨s, e, rfl, ended⟩ : ∃ s e, a = .move (.hear s e) ∧ j.ended s = true := by
    unfold Act.stale at stale
    split at stale
    · exact ⟨_, _, rfl, stale⟩
    · exact absurd stale (by simp)
  obtain ⟨still, unnoted⟩ := ht.step_ended e ended
  have same : (h.act (.move (.hear s e))).1 = h := by
    show { h with desk := (h.desk.step (.hear s e)).1 } = h
    rw [still]
  refine ⟨same, ?_, ?_⟩
  · show j.note (.hear s e) (h.desk.step (.hear s e)).2 = j
    rw [still]
    exact unnoted
  · unfold posted
    rw [same]
    exact if_pos rfl

/-- The timely acts alone have the same scenes as in the whole run, and end in the same hall. -/
theorem scenes_timely (ht : h.desk.Tracked j) (acts : List Act) :
    h.scenes j (h.timely j acts) = (h.scenes j acts).filter (!·.stale) ∧
      h.after (h.timely j acts) = h.after acts ∧
      (h.scenes j (h.timely j acts)).flatMap (·.posted) = (h.scenes j acts).flatMap (·.posted) := by
  induction acts generalizing h j with
  | nil => exact ⟨rfl, rfl, rfl⟩
  | cons a acts ih =>
    obtain ⟨same_scenes, same_end, same_posts⟩ := ih (tracked_act ht a)
    by_cases stale : a.stale j = true
    · -- The event changes nothing, so both runs go on from the same hall.
      obtain ⟨same, unnoted, unposted⟩ := act_stale ht stale
      have kept : h.timely j (a :: acts) = h.timely j acts := by
        rw [timely, if_pos stale, same, unnoted]
      rw [same, unnoted] at same_scenes same_end same_posts
      rw [kept, after_cons, scenes, same, unnoted, unposted]
      refine ⟨?_, same_end, ?_⟩
      · rw [List.filter_cons_of_neg (by simp [stale])]
        exact same_scenes
      · rw [List.flatMap_cons]
        exact same_posts
    · have kept : h.timely j (a :: acts) =
          a :: (h.act a).1.timely (h.noted j a) acts := by
        rw [timely, if_neg stale]
      rw [kept, after_cons, after_cons, scenes, scenes]
      refine ⟨?_, same_end, ?_⟩
      · rw [List.filter_cons_of_pos (by simp [stale]), same_scenes]
      · rw [List.flatMap_cons, List.flatMap_cons, same_posts]

theorem tracked_after (ht : h.desk.Tracked j) (acts : List Act) :
    (h.after acts).desk.Tracked (h.journal j acts) := by
  induction acts generalizing h j with
  | nil => exact ht
  | cons a acts ih => exact ih (tracked_act ht a)

/-- An act that completes a callback is an answer, and the session of the status delivered the
callback since the reset. -/
theorem complete_of_act (ht : h.desk.Tracked j) {a : Act} {callback : Nat} {b : Answer}
    (hc : (h.act a).2 = .turn (.call (.complete callback b))) :
    a = .move (.answer b) ∧ ∃ s e, j.current = some s ∧ (s, e) ∈ j.calls ∧
      e.callbackIn? b.slot = some callback := by
  unfold act at hc
  cases hm : h.move? a with
  | none =>
    rw [hm] at hc
    exact absurd hc (h.observe_ne_turn a _)
  | some m =>
    rw [hm] at hc
    have turn : (h.desk.step m).2 = .call (.complete callback b) := Sight.turn.inj hc
    have hs := Desk.step_spec h.desk m
    rw [turn] at hs
    obtain ⟨rfl, delivered⟩ := ht.complete hs
    exact ⟨act_of_answer hm, delivered⟩

/-- Sessions that are over do not interfere. In every run, whoever acts in the hall and whatever
is done while a call is under way, the acts that are not events of sessions that were over have
the same scenes without those events: the same replies and calls of the desk, the same answers to
inquiries, the same news for readers, the same statuses shown and published. And whenever an act
completes a callback, it is an answer, and the callback came since the last reset with an event of
the session to which that reset gave the status. -/
theorem ended_sessions_do_not_interfere (k : Payment.Kind) (acts : List Act) :
    let h := ofKind k
    let j := h.journal [] acts
    h.scenes [] (h.timely [] acts) = (h.scenes [] acts).filter (!·.stale) ∧
      h.after (h.timely [] acts) = h.after acts ∧
      (h.scenes [] (h.timely [] acts)).flatMap (·.posted) =
        (h.scenes [] acts).flatMap (·.posted) ∧
      ∀ a callback b, ((h.after acts).act a).2 = .turn (.call (.complete callback b)) →
        a = .move (.answer b) ∧ ∃ s e, j.current = some s ∧ (s, e) ∈ j.calls ∧
          e.callbackIn? b.slot = some callback := by
  intro h j
  have start : h.desk.Tracked [] := Desk.tracked_ofKind k
  obtain ⟨same_scenes, same_end, same_posts⟩ := scenes_timely start acts
  refine ⟨same_scenes, same_end, same_posts, ?_⟩
  intro a callback b completes
  exact complete_of_act (tracked_after start acts) completes

/-- The outcome of a session that was cancelled is left out. -/
example : ((ofKind .card).timely [] [.move .create, .move .resume, .move .resume, .move .cancel,
    .move (.hear 0 (.outcome .cancelled)), .status]).length = 5 := by
  decide

end Hall

end EvmWallet.Checkout
