import EvmWallet.Proofs.Checkout.Calls
import EvmWallet.Proofs.Checkout.Hall

/-!
# Versions

The version of the status and the posts on the board are two counters. Both grow by one with each
publication and with nothing else (`Step.counts`), so a version names one status, and a reader that
remembers the posts learns whether the version is greater than when it last looked. Once the desk
was given up nothing is published any more. All of it for every run of a hall: `versions_run`.
-/

namespace EvmWallet.Checkout

namespace Desk

variable {d d' : Desk} {m : Move} {t : Turn}

/-! ## Publications -/

/-- The two counters after a publication, or without one. -/
def Counts (d d' : Desk) : Bool → Prop
  | true => d'.status.version = d.status.version + 1 ∧ d'.board.posts = d.board.posts + 1
  | false => d'.status = d.status ∧ d'.board.posts = d.board.posts

/-- The counters move together, or not at all. -/
theorem Step.counts (hs : d.Step m d' t) : ∃ published, d.Counts d' published := by
  cases hs with
  | hears heard => exact ⟨true, rfl, rfl⟩
  | opens ready => exact ⟨true, rfl, rfl⟩
  | releases asked present charge => exact ⟨true, rfl, rfl⟩
  | answers present waits pending => exact ⟨true, rfl, rfl⟩
  | abandons present idle charge => exact ⟨true, rfl, rfl⟩
  | _ => exact ⟨false, rfl, rfl⟩

/-- They move exactly if a status was due by the journal. -/
theorem Follows.counts {j : Journal} (h : d.Follows j) (ho : d.Orderly) (hs : d.Step m d' t) :
    d.Counts d' ((j.due d.frames m).any Note.published) := by
  have more : d'.board.posts = (j.due d.frames m).countP Note.published + d.board.posts := by
    rw [(h.step ho hs).posts, h.note_eq ho hs, h.posts, Journal.publications, List.countP_append]
    rfl
  obtain ⟨published, counts⟩ := hs.counts
  cases published with
  | true =>
    have some : 0 < (j.due d.frames m).countP Note.published := by
      have posts : d'.board.posts = d.board.posts + 1 := counts.2
      omega
    rw [List.any_eq_true.mpr (List.countP_pos_iff.mp some)]
    exact counts
  | false =>
    have none : (j.due d.frames m).countP Note.published = 0 := by
      have posts : d'.board.posts = d.board.posts := counts.2
      omega
    rw [List.any_eq_false.mpr (List.countP_eq_zero.mp none)]
    exact counts

/-- A status keeps its version only as long as it is the latest. -/
theorem status_eq_or_version_lt (d : Desk) (moves : List Move) :
    (d.run moves).status = d.status ∨ d.status.version < (d.run moves).status.version := by
  refine run_stays (P := fun d' => d'.status = d.status ∨ d.status.version < d'.status.version) ?_
    (.inl rfl) moves
  intro d' m d'' t h hs
  obtain ⟨published, counts⟩ := hs.counts
  cases published with
  | true =>
    have more : d''.status.version = d'.status.version + 1 := counts.1
    right
    rcases h with same | less
    · rw [more, same]
      exact Nat.lt_succ_self _
    · omega
  | false =>
    have same : d''.status = d'.status := counts.1
    rw [same]
    exact h

/-! ## The end of publication -/

/-- The board of a desk that was given up is closed once the last cancel call has returned, which
is the only call under way. -/
structure Parting (d : Desk) : Prop where
  idle : d.board.closed = true → d.frames = []
  closing : d.gone = true → d.board.closed = true ∨ d.frames = [.closing]

theorem parting_ofKind (k : Payment.Kind) : (ofKind k).Parting where
  idle _ := rfl
  closing left := absurd left (by simp [ofKind])

theorem Orderly.unclosed (h : d.Orderly) (present : d.gone = false) : d.board.closed = false := by
  cases closed : d.board.closed with
  | false => rfl
  | true => exact absurd (present.symm.trans (h.closed closed)) (by simp)

theorem Parting.of_present (unclosed : d.board.closed = false) (present : d.gone = false) :
    d.Parting where
  idle closed := absurd (unclosed.symm.trans closed) (by simp)
  closing left := absurd (present.symm.trans left) (by simp)

theorem Parting.step (h : d.Parting) (ho : d.Orderly) (hs : d.Step m d' t) : d'.Parting := by
  -- Any frame but the last one is under way only while the desk is there, and then its board is open.
  have stays {f : Frame} {rest : List Frame} (frames : d.frames = f :: rest) (other : f ≠ .closing) :
      d.board.closed = false ∧ d.gone = false := by
    have present : d.gone = false := ho.present (f := f) (by simp [frames]) other
    exact ⟨ho.unclosed present, present⟩
  cases hs with
  | stays refused => exact h
  | ignores unheard => exact h
  | hears heard => exact ⟨h.idle, h.closing⟩
  | opens ready =>
    rcases ready with ⟨-, present, -, -⟩ | ⟨-, opening⟩
    · exact .of_present (ho.unclosed present) present
    · obtain ⟨unclosed, present⟩ := stays opening (by simp)
      exact .of_present unclosed present
  | releases asked present charge => exact .of_present (ho.unclosed present) present
  | answers present waits pending => exact .of_present (ho.unclosed present) present
  | takes pending => exact ⟨h.idle, h.closing⟩
  | leaves present idle free => exact ⟨fun _ => idle, fun _ => .inl rfl⟩
  | abandons present idle charge =>
    exact ⟨fun closed => absurd ((ho.unclosed present).symm.trans closed) (by simp), fun _ => .inr rfl⟩
  | begins made current =>
    obtain ⟨unclosed, present⟩ := stays made (by simp)
    exact .of_present unclosed present
  | replaces made outdated =>
    obtain ⟨unclosed, present⟩ := stays made (by simp)
    exact .of_present unclosed present
  | returns innermost returns =>
    obtain ⟨unclosed, present⟩ := stays innermost (by cases returns <;> simp)
    exact .of_present unclosed present
  | @closes rest innermost =>
    have left : d.gone = true := ho.closing (by simp [innermost])
    have last : rest = [] := by
      rcases h.closing left with closed | frames
      · exact absurd ((h.idle closed).symm.trans innermost) (by simp)
      · exact (List.cons.inj (innermost.symm.trans frames)).2
    exact ⟨fun _ => last, fun _ => .inl rfl⟩

theorem Parting.closed_iff (h : d.Parting) (ho : d.Orderly) :
    d.board.closed = true ↔ d.gone = true ∧ d.frames = [] := by
  constructor
  · intro closed
    exact ⟨ho.closed closed, h.idle closed⟩
  · rintro ⟨left, idle⟩
    refine (h.closing left).resolve_right fun last => ?_
    exact absurd (idle.symm.trans last) (by simp)

/-- A desk that was given up publishes nothing; all that is left is to close its board. -/
theorem Step.board_of_left (hs : d.Step m d' t) (ho : d.Orderly) (left : d.gone = true) :
    d'.gone = true ∧ (d'.board = d.board ∨ d'.board = d.board.close) := by
  have gave (present : d.gone = false) : False := absurd (present.symm.trans left) (by simp)
  have shut {f : Frame} {rest : List Frame} (frames : d.frames = f :: rest) : f = .closing :=
    ho.last left f (by simp [frames])
  cases hs with
  | @hears s e heard =>
    simp only [Desk.hears, Bool.and_eq_true, Bool.not_eq_true', beq_iff_eq] at heard
    rcases ho.silent left with closed | none
    · exact absurd (heard.1.symm.trans closed) (by simp)
    · exact absurd (heard.2.symm.trans none) (by simp)
  | opens ready =>
    rcases ready with ⟨-, present, -, -⟩ | ⟨-, opening⟩
    · exact (gave present).elim
    · exact absurd (shut opening) (by simp)
  | releases asked present charge => exact (gave present).elim
  | answers present waits pending => exact (gave present).elim
  | leaves present idle free => exact (gave present).elim
  | abandons present idle charge => exact (gave present).elim
  | closes innermost => exact ⟨left, .inr rfl⟩
  | _ => exact ⟨left, .inl rfl⟩

theorem parting_run (k : Payment.Kind) (moves : List Move) :
    ((ofKind k).run moves).Parting ∧ ((ofKind k).run moves).Orderly := by
  refine run_stays (P := fun d => d.Parting ∧ d.Orderly) ?_ ⟨parting_ofKind k, orderly_ofKind k⟩ moves
  rintro d m d' t ⟨parting, orderly⟩ hs
  exact ⟨parting.step orderly hs, orderly.step hs⟩

theorem board_run_of_left (ho : d.Orderly) (left : d.gone = true) (moves : List Move) :
    (d.run moves).board = d.board ∨ (d.run moves).board = d.board.close := by
  have all : (d.run moves).Orderly ∧ (d.run moves).gone = true ∧
      ((d.run moves).board = d.board ∨ (d.run moves).board = d.board.close) := by
    refine run_stays (P := fun d' => d'.Orderly ∧ d'.gone = true ∧
      (d'.board = d.board ∨ d'.board = d.board.close)) ?_ ⟨ho, left, .inl rfl⟩ moves
    rintro d' m d'' t ⟨orderly, gave, before⟩ hs
    obtain ⟨gave', same | closed⟩ := hs.board_of_left orderly gave
    · exact ⟨orderly.step hs, gave', same ▸ before⟩
    · have once : d'.board.close = d.board.close := by
        rcases before with same | already
        · rw [same]
        · rw [already]
          rfl
      exact ⟨orderly.step hs, gave', .inr (closed.trans once)⟩
  exact all.2.2

end Desk

namespace Hall

/-! ## Looking at the board -/

/-- Whether an act publishes a status, by the journal: an event that counts does, an answer whose
callback waits and was not taken, a cancel of the session in charge, and the opening of a new one. -/
def publishes (h : Hall) (j : Journal) (a : Act) : Bool :=
  (h.move? a).any fun m => (j.due h.desk.frames m).any Note.published

/-- The version that was the latest when a name last looked at the board, after one more act. A
name looks when it subscribes, and when it looks as a subscriber. -/
def seenAfter (h : Hall) (name : String) (seen : Option Nat) : Act → Option Nat
  | .subscribe n => if n = name ∧ h.desk.gone = false then some h.desk.status.version else seen
  | .see n => if n = name then seen.map fun _ => h.desk.status.version else seen
  | _ => seen

/-- The version that was the latest when a name last looked at the board, after acts in order;
`none` for a name that did not subscribe. -/
def lastSeen (h : Hall) (name : String) (seen : Option Nat) : List Act → Option Nat
  | [] => seen
  | a :: acts => (h.act a).1.lastSeen name (h.seenAfter name seen a) acts

/-- An act of the run shows a status: the latest one, one on the board, or one that was kept. -/
def Shows (h : Hall) (acts : List Act) (s : Status) : Prop :=
  ∃ before a after reports, acts = before ++ a :: after ∧
    ((h.after before).act a).2 = .status s reports

/-- What a subscriber learns who last looked when a version was the latest. -/
structure Subscriber (h : Hall) (name : String) (seen : Nat) : Prop where
  /-- It has not seen a later version than the latest. -/
  behind : seen ≤ h.desk.status.version
  /-- It has news exactly if the latest version is greater; of a closed board it learns that. -/
  changed : (h.act (.changed name)).2 =
    .changed (if h.desk.board.closed then none else some (decide (seen < h.desk.status.version)))
  /-- It sees the latest status, also when the board is closed. -/
  sees : (h.act (.see name)).2 = .status h.desk.status (h.desk.reports h.desk.status)

/-- What a hall remembers of a reader by a name. -/
structure Remembers (h : Hall) (name : String) (seen : Option Nat) : Prop where
  counted : h.desk.status.version = h.desk.board.posts
  reads : h.readers.lookup name = seen.map Reader.mk
  behind : ∀ v, seen = some v → v ≤ h.desk.status.version

variable {h : Hall} {name : String} {seen : Option Nat}

theorem counts_act (h : Hall) (a : Act) :
    ∃ published, h.desk.Counts (h.act a).1.desk published := by
  rw [act_desk]
  cases h.move? a with
  | none => exact ⟨false, rfl, rfl⟩
  | some m => exact (Desk.step_spec h.desk m).counts

theorem counts_publishes {j : Journal} (follows : h.desk.Follows j) (orderly : h.desk.Orderly)
    (a : Act) : h.desk.Counts (h.act a).1.desk (h.publishes j a) := by
  rw [act_desk, publishes]
  cases h.move? a with
  | none => exact ⟨rfl, rfl⟩
  | some m => exact follows.counts orderly (Desk.step_spec h.desk m)

/-- Only subscribing and seeing change what readers remember. -/
theorem readers_act (reads : h.readers.lookup name = seen.map Reader.mk)
    (counted : h.desk.status.version = h.desk.board.posts) (a : Act) :
    (h.act a).1.readers.lookup name = (h.seenAfter name seen a).map Reader.mk := by
  have looked : some h.desk.board.reader = (some h.desk.status.version).map Reader.mk := by
    rw [counted]
    rfl
  cases a with
  | subscribe n =>
    show (h.observe (.subscribe n)).1.readers.lookup name = _
    unfold observe seenAfter
    cases left : h.desk.gone with
    | true => simpa using reads
    | false =>
      by_cases own : n = name
      · simp [own, counted, Board.reader]
      · simpa [own, List.lookup_cons, beq_eq_false_iff_ne.mpr (Ne.symm own)] using reads
  | see n =>
    show (h.observe (.see n)).1.readers.lookup name = _
    simp only [observe, seenAfter]
    by_cases own : n = name
    · subst own
      cases seen with
      | none => simp [reads]
      | some v => simp [reads, counted, Board.reader]
    · have other : (name == n) = false := beq_eq_false_iff_ne.mpr (Ne.symm own)
      rw [if_neg own, ← reads]
      split
      · rfl
      · exact List.lookup_cons.trans (by rw [other])
  | takeOut n slot =>
    show _ = seen.map Reader.mk
    unfold act
    cases h.move? (.takeOut n slot) <;> exact reads
  | poll | wait | keep =>
    show (h.observe _).1.readers.lookup name = _
    simp only [observe]
    split <;> exact reads
  | _ => exact reads

theorem Remembers.act (hr : h.Remembers name seen) (a : Act) :
    (h.act a).1.Remembers name (h.seenAfter name seen a) := by
  have grows : h.desk.status.version ≤ (h.act a).1.desk.status.version ∧
      (h.act a).1.desk.status.version = (h.act a).1.desk.board.posts := by
    have counted := hr.counted
    obtain ⟨published, counts⟩ := h.counts_act a
    cases published with
    | true =>
      obtain ⟨version, posts⟩ := counts
      omega
    | false =>
      obtain ⟨same, posts⟩ := counts
      rw [same, posts]
      exact ⟨Nat.le_refl _, counted⟩
  -- What was seen last is either as before, or the version that was the latest before the act.
  refine ⟨grows.2, readers_act hr.reads hr.counted a, fun v hv => Nat.le_trans ?_ grows.1⟩
  unfold seenAfter at hv
  split at hv
  · split at hv
    · exact Nat.le_of_eq (Option.some.inj hv).symm
    · exact hr.behind v hv
  · split at hv
    · obtain ⟨w, -, rfl⟩ := Option.map_eq_some_iff.mp hv
      exact Nat.le_refl _
    · exact hr.behind v hv
  · exact hr.behind v hv

theorem Remembers.after (hr : h.Remembers name seen) (acts : List Act) :
    (h.after acts).Remembers name (h.lastSeen name seen acts) := by
  induction acts generalizing h seen with
  | nil => exact hr
  | cons a acts ih => exact ih (hr.act a)

theorem Remembers.subscriber {v : Nat} (hr : h.Remembers name (some v)) : h.Subscriber name v where
  behind := hr.behind v rfl
  changed := by
    show (h.observe (.changed name)).2 = _
    have behind := hr.behind v rfl
    have counted := hr.counted
    -- The reader compares posts, and the posts are the version.
    have news : (v != h.desk.board.posts) = decide (v < h.desk.status.version) := by
      rw [← counted, Bool.eq_iff_iff, bne_iff_ne, decide_eq_true_iff]
      omega
    simp only [observe, hr.reads, Option.map_some, Board.changed?, news]
  sees := by
    show (h.observe (.see name)).2 = _
    simp only [observe, hr.reads, Option.map_some]

/-- A name that did not subscribe learns nothing. -/
theorem Remembers.stranger (hr : h.Remembers name none) :
    (h.act (.changed name)).2 = .nothing ∧ (h.act (.see name)).2 = .nothing := by
  have unknown : h.readers.lookup name = none := hr.reads
  constructor
  · show (h.observe (.changed name)).2 = _
    simp only [observe, unknown]
  · show (h.observe (.see name)).2 = _
    simp only [observe, unknown]

/-! ## Statuses shown -/

theorem kept_act (a : Act) {s : Status} (kept : (name, s) ∈ (h.act a).1.kept) :
    (name, s) ∈ h.kept ∨ s = h.desk.status := by
  cases a with
  | keep n =>
    have kept : (name, s) ∈ (h.observe (.keep n)).1.kept := kept
    simp only [observe] at kept
    split at kept
    · exact .inl kept
    · rcases List.mem_cons.mp kept with same | before
      · exact .inr (Prod.mk.inj same).2
      · exact .inl before
  | takeOut n slot =>
    unfold act at kept
    cases hm : h.move? (.takeOut n slot) <;> rw [hm] at kept <;> exact .inl kept
  | poll | wait | see | subscribe =>
    have kept : (name, s) ∈ (h.observe _).1.kept := kept
    simp only [observe] at kept
    split at kept <;> exact .inl kept
  | _ => exact .inl kept

theorem status_sight {a : Act} {s : Status} {reports : Slot → Option Bool}
    (shown : (h.act a).2 = .status s reports) :
    s = h.desk.status ∨ ∃ name, (name, s) ∈ h.kept := by
  unfold act at shown
  cases hm : h.move? a with
  | some m =>
    rw [hm] at shown
    exact absurd shown (by simp [moved])
  | none =>
    rw [hm] at shown
    have shown : (h.observe a).2 = .status s reports := shown
    cases a with
    | status | see n =>
      simp only [observe] at shown
      split at shown
      · exact absurd shown (by simp)
      · exact .inl (Sight.status.inj shown).1.symm
    | «recall» n =>
      simp only [observe] at shown
      split at shown
      · exact absurd shown (by simp)
      · rename_i kept found
        obtain ⟨before, after, split, -⟩ := List.lookup_eq_some_iff.mp found
        rw [(Sight.status.inj shown).1] at split
        exact .inr ⟨n, by rw [split]; simp⟩
    | poll | changed | ongoing | get | wait | subscribe | keep =>
      simp only [observe, inquire] at shown
      split at shown <;> exact absurd shown (by simp)
    | move | takeOut => exact absurd shown (by simp [observe])

/-- A status that was kept was the latest at some moment of the run. -/
theorem kept_after (k : Payment.Kind) (acts : List Act) {s : Status}
    (kept : (name, s) ∈ ((ofKind k).after acts).kept) :
    ∃ early, early <+: acts ∧ ((ofKind k).after early).desk.status = s := by
  induction acts using List.reverseRecOn with
  | nil => exact absurd kept List.not_mem_nil
  | append_singleton acts a ih =>
    rw [after_append] at kept
    rcases kept_act a kept with before | now
    · obtain ⟨early, prior, same⟩ := ih before
      exact ⟨early, prior.trans (List.prefix_append acts [a]), same⟩
    · exact ⟨acts, List.prefix_append acts [a], now.symm⟩

theorem shows_early (k : Payment.Kind) {acts : List Act} {s : Status}
    (shown : (ofKind k).Shows acts s) :
    ∃ early, early <+: acts ∧ ((ofKind k).after early).desk.status = s := by
  obtain ⟨before, a, after, reports, rfl, sight⟩ := shown
  rcases status_sight sight with now | ⟨name, kept⟩
  · exact ⟨before, List.prefix_append before _, now.symm⟩
  · obtain ⟨early, prior, same⟩ := kept_after k before kept
    exact ⟨early, prior.trans (List.prefix_append before _), same⟩

/-- The latest status of an earlier moment and of a later one are the same if they have one
version. -/
theorem status_eq_of_version_eq {h : Hall} {early late : List Act} (prior : early <+: late)
    (same : (h.after early).desk.status.version = (h.after late).desk.status.version) :
    (h.after early).desk.status = (h.after late).desk.status := by
  obtain ⟨more, rfl⟩ := prior
  rw [after_append, (run_moves (h.after early) [] more).1] at same ⊢
  rcases Desk.status_eq_or_version_lt (h.after early).desk ((h.after early).moves more) with
    kept | less
  · exact kept.symm
  · omega

/-- A version names one status. -/
theorem Shows.eq_of_version_eq {k : Payment.Kind} {acts : List Act} {s t : Status}
    (shows_s : (ofKind k).Shows acts s) (shows_t : (ofKind k).Shows acts t)
    (same : s.version = t.version) : s = t := by
  obtain ⟨early, before_s, rfl⟩ := shows_early k shows_s
  obtain ⟨late, before_t, rfl⟩ := shows_early k shows_t
  -- Each was the latest at some moment of the run, and of two moments one is the earlier.
  rcases List.prefix_or_prefix_of_prefix before_s before_t with prior | prior
  · exact status_eq_of_version_eq prior same
  · exact (status_eq_of_version_eq prior same.symm).symm

/-! ## Every run -/

/-- In every run, whoever acts in the hall and whatever is done inside calls: the version is the
number of posts, and an act that publishes adds one to both, while any other leaves the status. Two
statuses that were shown are the same if they have one version. Versions do not decrease. A
subscriber sees the latest status, and has news exactly if its version is greater than the latest
was when it subscribed or last looked. The board is closed exactly when the desk was given up and
its last call has returned; from then on it stays as it is, and its status already from the moment
when the desk is given up. -/
theorem versions_run (k : Payment.Kind) (acts : List Act) :
    let h := (ofKind k).after acts
    let j := (ofKind k).journal [] acts
    h.desk.status.version = h.desk.board.posts ∧
      (∀ a, h.desk.Counts (h.act a).1.desk (h.publishes j a)) ∧
      (∀ s t, (ofKind k).Shows acts s → (ofKind k).Shows acts t → s.version = t.version → s = t) ∧
      (∀ more, h.desk.status.version ≤ (h.after more).desk.status.version) ∧
      (∀ name, match (ofKind k).lastSeen name none acts with
        | none => (h.act (.changed name)).2 = .nothing ∧ (h.act (.see name)).2 = .nothing
        | some v => h.Subscriber name v) ∧
      (h.desk.board.closed = true ↔ h.desk.gone = true ∧ h.desk.frames = []) ∧
      (h.desk.gone = true → ∀ more, (h.after more).desk.status = h.desk.status) ∧
      (h.desk.board.closed = true → ∀ more, (h.after more).desk.board = h.desk.board) := by
  intro h j
  have follows : h.desk.Follows j := follows_after k acts
  obtain ⟨parting, orderly⟩ := Desk.parting_run k ((ofKind k).moves acts)
  have same_desk : h.desk = (Desk.ofKind k).run ((ofKind k).moves acts) :=
    (run_moves (ofKind k) [] acts).1
  rw [← same_desk] at parting orderly
  have remembers (name : String) :
      h.Remembers name ((ofKind k).lastSeen name none acts) :=
    Remembers.after ⟨rfl, rfl, fun v hv => absurd hv (by simp)⟩ acts
  have board (left : h.desk.gone = true) (more : List Act) :
      (h.after more).desk.board = h.desk.board ∨ (h.after more).desk.board = h.desk.board.close := by
    rw [(run_moves h j more).1]
    exact Desk.board_run_of_left orderly left _
  refine ⟨(remembers "").counted, counts_publishes follows orderly, fun s t => Shows.eq_of_version_eq,
    fun more => ?_, fun name => ?_, parting.closed_iff orderly, fun left more => ?_,
    fun closed more => ?_⟩
  · rw [(run_moves h j more).1]
    exact Desk.version_le_run h.desk _
  · have hr := remembers name
    cases seen : (ofKind k).lastSeen name none acts with
    | none => exact (seen ▸ hr).stranger
    | some v => exact (seen ▸ hr).subscriber
  · rcases board left more with same | closed
    · exact congrArg Board.value same
    · exact (congrArg Board.value closed).trans (Board.value_close _)
  · rcases board (orderly.closed closed) more with same | again
    · exact same
    · exact again.trans (Board.close_of_closed closed)

/-- A subscriber of a desk that was given up, with session 0 in charge: it learns that the board is
closed, and the status of the cancel stays on it. -/
theorem versions_run_dropped :
    let acts : List Act :=
      [.subscribe "a", .move .create, .move .resume, .move .resume, .move .drop, .move .resume]
    let h := (ofKind .card).after acts
    h.desk.status.version = 2 ∧ (h.act (.changed "a")).2 = .changed none ∧
      ∀ more, (h.after more).desk.board = h.desk.board := by
  intro acts h
  obtain ⟨-, -, -, -, subscribers, closed, -, last⟩ := versions_run .card acts
  have shut : h.desk.board.closed = true := closed.mpr ⟨rfl, rfl⟩
  have subscribed : h.Subscriber "a" 0 := subscribers "a"
  refine ⟨rfl, ?_, last shut⟩
  rw [subscribed.changed, shut]
  rfl

end Hall

end EvmWallet.Checkout
