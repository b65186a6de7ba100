import EvmWallet.Proofs.Checkout.Follows

/-!
# What becomes of sessions

Every session that was made is in charge, was cancelled, or was displaced: another one took
charge over it. Main statements: a session is displaced only by one that was opened while it was
in charge (`made_not_cancelled_iff`), which happens when a session takes charge inside the cancel
call of its predecessor's cancellation (`Step.opened_over_charge`).

The sessions are counted: each is opened once, then being made, then in charge or replaced; each
that took charge was taken away, was displaced, or still is in charge.
-/

namespace EvmWallet.Checkout

namespace Journal

/-- A session was made: the processor returned it. -/
def Made (j : Journal) (s : Nat) : Prop := .began s ∈ j ∨ .replaced s ∈ j

/-- A session was cancelled by the desk. -/
def Cancelled (j : Journal) (s : Nat) : Prop := .released s ∈ j ∨ .replaced s ∈ j

instance (j : Journal) (s : Nat) : Decidable (j.Made s) :=
  inferInstanceAs (Decidable (_ ∨ _))

instance (j : Journal) (s : Nat) : Decidable (j.Cancelled s) :=
  inferInstanceAs (Decidable (_ ∨ _))

/-- A session was in charge when another was opened, and still was when that took charge. -/
def Displaced (j : Journal) (s : Nat) : Prop :=
  ∃ t newer between older, j = newer ++ .began t :: (between ++ .opened t :: older) ∧
    charge older = some s ∧ charge (between ++ .opened t :: older) = some s

/-- How often another session took charge over this one. -/
def displacements (s : Nat) : Journal → Nat
  | [] => 0
  | .began _ :: older => displacements s older + if charge older = some s then 1 else 0
  | _ :: older => displacements s older

theorem displacements_of_displaced {j : Journal} {s : Nat} (h : j.Displaced s) :
    0 < displacements s j := by
  obtain ⟨t, newer, between, older, rfl, -, still⟩ := h
  induction newer with
  | nil => simp [displacements, still]
  | cons n newer ih => cases n <;> simp only [List.cons_append, displacements] <;> omega

theorem Displaced.cons {j : Journal} {s : Nat} (h : j.Displaced s) (n : Note) :
    Displaced (n :: j) s := by
  obtain ⟨t, newer, between, older, rfl, before, still⟩ := h
  exact ⟨t, n :: newer, between, older, rfl, before, still⟩

/-- Every displacement is of a session that was in charge when the one that displaced it was
opened. -/
def Explained (j : Journal) : Prop := ∀ s, 0 < displacements s j → j.Displaced s

theorem Explained.cons {j : Journal} {n : Note} (h : j.Explained) (other : ∀ t, n ≠ .began t) :
    Explained (n :: j) := by
  intro s hs
  have same : displacements s (n :: j) = displacements s j := by
    cases n <;> first | rfl | exact absurd rfl (other _)
  rw [same] at hs
  exact (h s hs).cons n

/-- The charge when the current session was opened is the charge now, until that session begins. -/
def Steady (j : Journal) : Prop :=
  ∀ t, j.current = some t → .began t ∉ j →
    ∃ between older, j = between ++ .opened t :: older ∧ charge older = charge j

theorem Steady.cons {j : Journal} {n : Note} (h : j.Steady)
    (current_eq : current (n :: j) = current j)
    (charge_eq : (∃ s, n = .began s ∧ current j = some s) ∨ charge (n :: j) = charge j) :
    Steady (n :: j) := by
  intro t ht fresh
  rw [current_eq] at ht
  have charge_eq : charge (n :: j) = charge j := by
    rcases charge_eq with ⟨s, rfl, hs⟩ | charge_eq
    · have hst : s = t := Option.some.inj (hs.symm.trans ht)
      exact absurd (hst ▸ List.mem_cons_self) fresh
    · exact charge_eq
  obtain ⟨between, older, rfl, same⟩ := h t ht (fun old => fresh (List.mem_cons_of_mem n old))
  exact ⟨n :: between, older, rfl, same.trans charge_eq.symm⟩

end Journal

namespace Desk

variable {d d' : Desk} {j : Journal} {m : Move} {t : Turn}

/-- Where each session is. -/
structure Accounts (d : Desk) (j : Journal) : Prop where
  /-- The sessions opened are numbered in order. -/
  opened : ∀ s, j.count (.opened s) = if s < d.opened then 1 else 0
  /-- A session that was opened is being made, began or was replaced. -/
  made : ∀ s, d.frames.count (.making s) + j.count (.began s) + j.count (.replaced s) =
    j.count (.opened s)
  /-- A session that began was taken away, was displaced or is in charge. -/
  began : ∀ s, j.count (.began s) =
    j.count (.released s) + j.displacements s + if j.charge = some s then 1 else 0
  steady : j.Steady

theorem accounts_ofKind (k : Payment.Kind) : (ofKind k).Accounts [] where
  opened := by simp [ofKind]
  made := by simp [ofKind]
  began := by simp [Journal.displacements, Journal.charge]
  steady := by simp [Journal.Steady, Journal.current]

/-- A frame other than a session's making does not count. -/
theorem count_making_cons (f : Frame) (frames : List Frame) (s : Nat) (other : ∀ s, f ≠ .making s) :
    (f :: frames).count (.making s) = frames.count (.making s) :=
  List.count_cons_of_ne (other s)

/-- What is not noted of a session's way leaves the accounts. -/
theorem Accounts.note {n : Note} (h : d.Accounts j)
    (plain : ∀ s, n ≠ .opened s ∧ n ≠ .began s ∧ n ≠ .replaced s ∧ n ≠ .released s)
    (opened : d'.opened = d.opened)
    (frames : ∀ s, d'.frames.count (.making s) = d.frames.count (.making s)) :
    d'.Accounts (n :: j) := by
  have hcharge : Journal.charge (n :: j) = j.charge := by
    cases n <;> first | rfl | exact absurd rfl (plain _).2.1 | exact absurd rfl (plain _).2.2.2
  have hcurrent : Journal.current (n :: j) = j.current := by
    cases n <;> first | rfl | exact absurd rfl (plain _).1 | exact absurd rfl (plain _).2.2.2
  have hdisplaced (s : Nat) : Journal.displacements s (n :: j) = j.displacements s := by
    cases n <;> first | rfl | exact absurd rfl (plain _).2.1
  refine ⟨?_, ?_, ?_, ?_⟩
  · intro s
    rw [List.count_cons_of_ne (plain s).1, opened]
    exact h.opened s
  · intro s
    rw [List.count_cons_of_ne (plain s).1, List.count_cons_of_ne (plain s).2.1,
      List.count_cons_of_ne (plain s).2.2.1, frames]
    exact h.made s
  · intro s
    rw [List.count_cons_of_ne (plain s).2.1, List.count_cons_of_ne (plain s).2.2.2, hdisplaced,
      hcharge]
    exact h.began s
  · exact h.steady.cons hcurrent (.inr hcharge)

/-- The session in charge is taken away. -/
theorem Accounts.release {s : Nat} (h : d.Accounts j) (charge : j.charge = some s)
    (opened : d'.opened = d.opened)
    (frames : ∀ s, d'.frames.count (.making s) = d.frames.count (.making s)) :
    d'.Accounts (.released s :: j) where
  opened x := by
    rw [List.count_cons_of_ne (by simp), opened]
    exact h.opened x
  made x := by
    rw [List.count_cons_of_ne (by simp), List.count_cons_of_ne (by simp),
      List.count_cons_of_ne (by simp), frames]
    exact h.made x
  began x := by
    have hb := h.began x
    rw [charge] at hb
    simp only [List.count_cons, beq_iff_eq, Note.released.injEq, reduceCtorEq, if_false,
      Journal.displacements, Journal.charge, Option.some.injEq] at hb ⊢
    omega
  steady := by
    intro t ht
    exact absurd ht (by simp [Journal.current])

/-- A call that returns without a note leaves the accounts. -/
theorem Accounts.pop {f : Frame} {rest : List Frame} (h : d.Accounts j)
    (innermost : d.frames = f :: rest) (other : ∀ s, f ≠ .making s) (opened : d'.opened = d.opened)
    (frames : d'.frames = rest) : d'.Accounts j where
  opened := by
    rw [opened]
    exact h.opened
  made s := by
    have hm := h.made s
    rw [innermost, count_making_cons f rest s other] at hm
    rw [frames]
    exact hm
  began := h.began
  steady := h.steady

/-- A session is opened: it is being made. -/
theorem Accounts.opens {rest : List Frame} (h : d.Accounts j) (opened : d'.opened = d.opened + 1)
    (frames : d'.frames = .making d.opened :: rest)
    (others : ∀ s, rest.count (.making s) = d.frames.count (.making s)) :
    d'.Accounts (.opened d.opened :: j) where
  opened s := by
    have hs := h.opened s
    rw [opened]
    simp only [List.count_cons, beq_iff_eq, Note.opened.injEq]
    split <;> split at hs <;> split <;> omega
  made s := by
    have hm := h.made s
    rw [← others] at hm
    rw [frames]
    simp only [List.count_cons, beq_iff_eq, Note.opened.injEq, Frame.making.injEq, reduceCtorEq,
      if_false]
    omega
  began s := by
    rw [List.count_cons_of_ne (by simp), List.count_cons_of_ne (by simp)]
    exact h.began s
  steady := by
    intro t ht fresh
    have same : d.opened = t := Option.some.inj ht
    exact ⟨[], j, by rw [same]; rfl, rfl⟩

/-- A session was made and takes charge, which displaces whichever was in charge. -/
theorem Accounts.begins {s : Nat} {rest : List Frame} (h : d.Accounts j)
    (made : d.frames = .making s :: rest) (current : j.current = some s)
    (opened : d'.opened = d.opened) (frames : d'.frames = .starting s :: rest) :
    d'.Accounts (.began s :: j) where
  opened x := by
    rw [List.count_cons_of_ne (by simp), opened]
    exact h.opened x
  made x := by
    have hm := h.made x
    rw [made] at hm
    rw [frames]
    simp only [List.count_cons, beq_iff_eq, Note.began.injEq, Frame.making.injEq, reduceCtorEq,
      if_false] at hm ⊢
    omega
  began x := by
    have hb := h.began x
    simp only [List.count_cons, beq_iff_eq, Note.began.injEq, reduceCtorEq, if_false,
      Journal.displacements, Journal.charge, Option.some.injEq] at hb ⊢
    omega
  steady := h.steady.cons rfl (.inl ⟨s, rfl, current⟩)

/-- A session was made too late to take charge. -/
theorem Accounts.replaces {s : Nat} {rest : List Frame} (h : d.Accounts j)
    (made : d.frames = .making s :: rest) (opened : d'.opened = d.opened)
    (frames : d'.frames = .replaced s :: rest) : d'.Accounts (.replaced s :: j) where
  opened x := by
    rw [List.count_cons_of_ne (by simp), opened]
    exact h.opened x
  made x := by
    have hm := h.made x
    rw [made] at hm
    rw [frames]
    simp only [List.count_cons, beq_iff_eq, Note.replaced.injEq, Frame.making.injEq, reduceCtorEq,
      if_false] at hm ⊢
    omega
  began x := by
    rw [List.count_cons_of_ne (by simp), List.count_cons_of_ne (by simp)]
    exact h.began x
  steady := h.steady.cons rfl (.inr rfl)

theorem Accounts.step (h : d.Accounts j) (hf : d.Follows j) (ho : d.Orderly)
    (hs : d.Step m d' t) : d'.Accounts (j.note m t) := by
  cases hs with
  | stays refused =>
    rw [refused.note]
    exact h
  | ignores unheard =>
    rw [hf.note_ignored ho unheard]
    exact h
  | hears heard =>
    rw [hf.note_heard ho heard]
    exact h.note (by simp) rfl (fun _ => rfl)
  | @opens m rest ready =>
    have others (s : Nat) : rest.count (.making s) = d.frames.count (.making s) := by
      rcases ready with ⟨-, -, -, rfl⟩ | ⟨-, opening⟩
      · rfl
      · rw [opening, count_making_cons .opening rest s (by simp)]
    rw [note_opens ready]
    exact h.opens rfl rfl others
  | @releases m f s asked present charge =>
    have other : ∀ s, f ≠ .making s := by
      rcases asked with ⟨-, rfl⟩ | ⟨-, rfl⟩ <;> simp
    rw [note_releases asked]
    exact h.release (hf.live.symm.trans charge) rfl
      (fun s => count_making_cons f d.frames s other)
  | @answers a callback present waits pending =>
    exact h.note (n := .answered callback) (by simp) rfl
      (fun s => count_making_cons .completing d.frames s (by simp))
  | @takes callback pending => exact h.note (n := .taken callback) (by simp) rfl (fun _ => rfl)
  | leaves present idle free => exact h.note (n := .left) (by simp) rfl (fun _ => rfl)
  | @abandons s present idle charge =>
    have released : d.Accounts (.released s :: j) :=
      h.release (hf.live.symm.trans charge) rfl (fun _ => rfl)
    refine released.note (n := .left) (by simp) rfl (fun s => ?_)
    rw [idle]
    exact count_making_cons .closing [] s (by simp)
  | begins made current => exact h.begins made (hf.session.symm.trans current) rfl rfl
  | replaces made outdated => exact h.replaces made rfl rfl
  | returns innermost returns =>
    exact h.pop innermost (by cases returns <;> simp) rfl rfl
  | closes innermost => exact h.pop innermost (by simp) rfl rfl

theorem Accounts.explain (h : d.Accounts j) (hf : d.Follows j) (ho : d.Orderly)
    (he : j.Explained) (hs : d.Step m d' t) : (j.note m t).Explained := by
  cases hs with
  | stays refused =>
    rw [refused.note]
    exact he
  | ignores unheard =>
    rw [hf.note_ignored ho unheard]
    exact he
  | hears heard =>
    rw [hf.note_heard ho heard]
    exact he.cons (by simp)
  | opens ready =>
    rw [note_opens ready]
    exact he.cons (by simp)
  | releases asked present charge =>
    rw [note_releases asked]
    exact he.cons (by simp)
  | answers present waits pending => exact he.cons (by simp)
  | takes pending => exact he.cons (by simp)
  | leaves present idle free => exact he.cons (by simp)
  | abandons present idle charge => exact (he.cons (by simp)).cons (by simp)
  | @begins s rest made current =>
    intro x hx
    have hx : 0 < j.displacements x + if j.charge = some x then 1 else 0 := hx
    by_cases charge : j.charge = some x
    · -- The session being made was opened under the charge that it ends.
      have fresh : .began s ∉ j := by
        rw [← List.count_pos_iff]
        have hm := h.made s
        have hn := h.opened s
        rw [made, List.count_cons_self] at hm
        split at hn <;> omega
      obtain ⟨between, older, rfl, same⟩ :=
        h.steady s (hf.session.symm.trans current) fresh
      exact ⟨s, [], between, older, rfl, same.trans charge, charge⟩
    · rw [if_neg charge] at hx
      exact (he x hx).cons (.began s)
  | replaces made outdated => exact he.cons (by simp)
  | returns innermost returns => exact he
  | closes innermost => exact he

/-- The accounts of a run. -/
theorem accounts_run (k : Payment.Kind) (moves : List Move) :
    ((ofKind k).run moves).Accounts ((ofKind k).journal [] moves) ∧
      ((ofKind k).journal [] moves).Explained := by
  have start : (ofKind k).Accounts [] ∧ Journal.Explained [] := by
    refine ⟨accounts_ofKind k, ?_⟩
    intro s displaced
    exact absurd displaced (Nat.lt_irrefl 0)
  refine (run_follows (P := fun d j => d.Accounts j ∧ j.Explained) ?_ k start moves).2
  rintro d j m d' t follows orderly ⟨accounts, explained⟩ hs
  exact ⟨accounts.step follows orderly hs, accounts.explain follows orderly explained hs⟩

/-- A session is opened while another is in charge only when a cancel call returns that made room
for it: the other took charge during that call. -/
theorem Step.opened_over_charge {s n : Nat} (hs : d.Step m d' (.call (.make n)))
    (charge : d.live = some s) : m = .resume ∧ ∃ rest, d.frames = .opening :: rest := by
  cases hs with
  | opens ready =>
    rcases ready with ⟨-, -, free, -⟩ | ⟨resume, opening⟩
    · exact absurd (charge.symm.trans free) (by simp)
    · exact ⟨resume, _, opening⟩

/-! ## Leaks -/

/-- A session is made at most once. -/
theorem Accounts.made_once (h : d.Accounts j) (s : Nat) :
    j.count (.began s) + j.count (.replaced s) ≤ 1 := by
  have hmade := h.made s
  have hopened := h.opened s
  split at hopened <;> omega

/-- The session in charge was not displaced. -/
theorem Accounts.not_displaced {s : Nat} (h : d.Accounts j) (charge : j.charge = some s) :
    ¬j.Displaced s := by
  -- It would have begun twice, once for the displacement and once for the charge.
  intro displaced
  have hd := Journal.displacements_of_displaced displaced
  have hbegan := h.began s
  rw [if_pos charge] at hbegan
  have once := h.made_once s
  omega

/-- Of the sessions that were made, those not cancelled are in charge or displaced. -/
theorem Accounts.alive_iff (h : d.Accounts j) (explained : j.Explained) (s : Nat) :
    j.Made s ∧ ¬j.Cancelled s ↔ j.charge = some s ∨ j.Displaced s := by
  have hbegan := h.began s
  have once := h.made_once s
  have made_iff : j.Made s ↔ 0 < j.count (.began s) ∨ 0 < j.count (.replaced s) := by
    rw [List.count_pos_iff, List.count_pos_iff]
    rfl
  have cancelled_iff : j.Cancelled s ↔ 0 < j.count (.released s) ∨ 0 < j.count (.replaced s) := by
    rw [List.count_pos_iff, List.count_pos_iff]
    rfl
  have displaced_iff : j.Displaced s ↔ 0 < j.displacements s :=
    ⟨Journal.displacements_of_displaced, explained s⟩
  rw [made_iff, cancelled_iff, displaced_iff]
  by_cases charge : j.charge = some s
  · rw [if_pos charge] at hbegan
    simp only [charge, true_or, iff_true]
    omega
  · rw [if_neg charge] at hbegan
    simp only [charge, false_or]
    omega

/-- The sessions that were made and not cancelled, at any moment of a run, are the one in charge
and those that were displaced. So each session made is cancelled, but for the one in charge,
exactly if none was displaced, and then at most one session is neither. -/
theorem made_not_cancelled_iff (k : Payment.Kind) (moves : List Move) :
    let d := (ofKind k).run moves
    let j := (ofKind k).journal [] moves
    (∀ s, j.Made s ∧ ¬j.Cancelled s ↔ d.live = some s ∨ j.Displaced s) ∧
      ((∀ s, j.Made s → d.live = some s ∨ j.Cancelled s) ↔ ∀ s, ¬j.Displaced s) ∧
      ((∀ s, ¬j.Displaced s) → ∀ s t, j.Made s → ¬j.Cancelled s → j.Made t → ¬j.Cancelled t →
        s = t) := by
  intro d j
  obtain ⟨h, explained⟩ := accounts_run k moves
  have live : d.live = j.charge := (follows_run k moves).live
  have alive (s : Nat) : j.Made s ∧ ¬j.Cancelled s ↔ d.live = some s ∨ j.Displaced s := by
    rw [live]
    exact h.alive_iff explained s
  refine ⟨alive, ⟨?_, ?_⟩, ?_⟩
  · -- A displaced session is neither cancelled nor in charge any more.
    intro kept s displaced
    obtain ⟨made, uncancelled⟩ := (alive s).mpr (.inr displaced)
    have charge : d.live = some s := (kept s made).resolve_right uncancelled
    exact h.not_displaced (live.symm.trans charge) displaced
  · intro none s made
    by_cases cancelled : j.Cancelled s
    · exact .inr cancelled
    · exact .inl (((alive s).mp ⟨made, cancelled⟩).resolve_right (none s))
  · intro none s t madeS uncancelledS madeT uncancelledT
    have hs := ((alive s).mp ⟨madeS, uncancelledS⟩).resolve_right (none s)
    have ht := ((alive t).mp ⟨madeT, uncancelledT⟩).resolve_right (none t)
    exact Option.some.inj (hs.symm.trans ht)

/-- A run that leaks a session: the cancel call of session 0 opens session 1, and the call that
was to open a new session, once back from the cancel, opens session 2 and puts it in charge. -/
def leak : List Move :=
  [.create, .resume, .resume, .create, .create, .resume, .resume, .resume, .resume, .resume]

/-- Not every session that was made is cancelled or in charge when nothing is under way. -/
theorem made_not_cancelled_leak :
    ¬∀ (k : Payment.Kind) (moves : List Move), ((ofKind k).run moves).frames = [] →
      ∀ s, ((ofKind k).journal [] moves).Made s →
        ((ofKind k).run moves).live = some s ∨ ((ofKind k).journal [] moves).Cancelled s := by
  intro kept
  have hs := kept .card leak (by decide) 1 (by decide)
  revert hs
  decide

end Desk

end EvmWallet.Checkout
