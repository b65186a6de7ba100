import EvmWallet.Network.Selection

/-!
# The audience of a selection

Around a selection stand the readers of its board, each of whom looks when it subscribes and when
it sees the network. Over every run of acts, a reader has news exactly if the network was switched
to another one since it last looked, also if it was switched back (`Switched`); selecting the network
in use is noticed by nobody; the networks on offer stay what they are; and once the selection is
closed its readers learn that, and keep the last network. The main statement is `audience_run`.
-/

namespace EvmWallet.Network

/-! ## Acts and sights -/

/-- Something done with a selection or by one who reads its board. Readers go by names. -/
inductive Act where
  | select (n : Network)
  | current
  | available
  | find (chain : Chain)
  | subscribe (name : String)
  | changed (name : String)
  | see (name : String)
  | close
  deriving DecidableEq

/-- What is learned from an act. -/
inductive Sight where
  | done
  | network (n : Network)
  | networks (networks : List Network)
  | found (n : Option Network)
  /-- Whether the network was switched; `none` once the selection is closed. -/
  | changed (news : Option Bool)
  /-- The selection is closed, or nobody of that name subscribed. -/
  | nothing
  deriving DecidableEq

/-- A selection and those who read its board. -/
structure Audience where
  selection : Selection
  readers : List (String × Reader)

namespace Audience

/-- The audience of a new selection. -/
def ofNetworks (first : Network) (available : List Network) : Audience :=
  ⟨.ofNetworks first available, []⟩

/-- What its owner does with a selection, as long as it is not closed. -/
def own (h : Audience) : Act → Audience × Sight
  | .select n => ({ h with selection := h.selection.select n }, .done)
  | .current => (h, .network h.selection.selected)
  | .available => (h, .networks h.selection.available)
  | .find chain => (h, .found (h.selection.find? chain))
  | .subscribe name =>
    ({ h with readers := (name, h.selection.current.reader) :: h.readers }, .done)
  | .close => ({ h with selection := h.selection.close }, .done)
  | .changed _ | .see _ => (h, .nothing)

/-- One act. Readers may look at any time. -/
def act (h : Audience) : Act → Audience × Sight
  | .changed name =>
    match h.readers.lookup name with
    | none => (h, .nothing)
    | some r => (h, .changed (h.selection.current.changed? r))
  | .see name =>
    match h.readers.lookup name with
    | none => (h, .nothing)
    | some _ =>
      ({ h with readers := (name, h.selection.current.reader) :: h.readers },
        .network h.selection.selected)
  | a => if h.selection.current.closed then (h, .nothing) else h.own a

/-- The audience after acts in order. -/
def after (h : Audience) (acts : List Act) : Audience := acts.foldl (fun h a => (h.act a).1) h

/-! ## Readings of a run -/

/-- The network that an act selects. -/
def selects? : Act → Option Network
  | .select n => some n
  | _ => none

/-- The network that was selected last, if any was, and otherwise the first one. -/
def inUse (first : Network) (acts : List Act) : Network :=
  (acts.filterMap selects?).getLastD first

/-- An act selects another network than the one in use. -/
def Switches (current : Network) (a : Act) : Prop := ∃ n, a = .select n ∧ n ≠ current

/-- Some act selects another network than the one in use at that moment. -/
def Switched (first : Network) (acts : List Act) : Prop :=
  ∃ before a after, acts = before ++ a :: after ∧ Switches (inUse first before) a

/-- An act by which a name looks at the board. -/
def Looks (name : String) (a : Act) : Prop := a = .subscribe name ∨ a = .see name

theorem inUse_cons (first : Network) (a : Act) (acts : List Act) :
    inUse first (a :: acts) = inUse ((selects? a).getD first) acts := by
  unfold inUse
  cases selected : selects? a with
  | none => rw [List.filterMap_cons_none selected, Option.getD_none]
  | some n => rw [List.filterMap_cons_some selected, Option.getD_some, List.getLastD_cons]

theorem switched_cons {first : Network} {a : Act} {acts : List Act} :
    Switched first (a :: acts) ↔
      Switches first a ∨ Switched ((selects? a).getD first) acts := by
  constructor
  · rintro ⟨before, b, after, split, switches⟩
    cases before with
    | nil =>
      obtain ⟨rfl, -⟩ := List.cons.inj split
      exact .inl switches
    | cons c before =>
      obtain ⟨rfl, rest⟩ := List.cons.inj split
      rw [inUse_cons] at switches
      exact .inr ⟨before, b, after, rest, switches⟩
  · rintro (switches | ⟨before, b, after, rfl, switches⟩)
    · exact ⟨[], a, acts, rfl, switches⟩
    · refine ⟨a :: before, b, after, rfl, ?_⟩
      rw [inUse_cons]
      exact switches

/-! ## One act -/

variable {h : Audience} {a : Act} {acts : List Act} {name : String}

theorem available_act (h : Audience) (a : Act) :
    (h.act a).1.selection.available = h.selection.available := by
  unfold act own
  repeat' split
  all_goals rfl

/-- Readers do not move the selection. -/
theorem selection_look (looks : Looks name a) : (h.act a).1.selection = h.selection := by
  rcases looks with rfl | rfl
  · simp only [act, own]
    split <;> rfl
  · simp only [act]
    split <;> rfl

/-- Selecting the network in use changes nothing. -/
theorem act_select_selected (h : Audience) : (h.act (.select h.selection.selected)).1 = h := by
  simp only [act, own, h.selection.select_selected]
  split <;> rfl

/-- Nothing is done with a selection that is closed. -/
theorem selection_act_closed (closed : h.selection.current.closed = true) (a : Act) :
    (h.act a).1.selection = h.selection := by
  unfold act
  repeat' split
  all_goals rfl

/-- What an act does to the board while the selection goes on: another network is posted, or
nothing is. -/
structure Goes (h : Audience) (a : Act) (h' : Audience) : Prop where
  live : h'.selection.current.closed = false
  selected : h'.selection.selected = (selects? a).getD h.selection.selected
  posts : Switches h.selection.selected a ∧
      h'.selection.current.posts = h.selection.current.posts + 1 ∨
    ¬Switches h.selection.selected a ∧ h'.selection.current.posts = h.selection.current.posts

theorem Goes.of_same {h' : Audience} (live : h.selection.current.closed = false)
    (same : h'.selection = h.selection) (asks : selects? a = none) : Goes h a h' where
  live := same ▸ live
  selected := by rw [same, asks, Option.getD_none]
  posts := by
    refine .inr ⟨?_, by rw [same]⟩
    rintro ⟨n, rfl, -⟩
    exact absurd asks (by simp [selects?])

theorem goes_act (live : h.selection.current.closed = false) (going : a ≠ .close) :
    Goes h a (h.act a).1 := by
  cases a with
  | close => exact absurd rfl going
  | subscribe n => exact .of_same live (selection_look (.inl rfl)) rfl
  | see n => exact .of_same live (selection_look (.inr rfl)) rfl
  | changed n =>
    refine .of_same live ?_ rfl
    simp only [act]
    split <;> rfl
  | current | available | find =>
    refine .of_same live ?_ rfl
    simp only [act, own]
    split <;> rfl
  | select n =>
    have acted : (h.act (.select n)).1.selection = h.selection.select n := by
      simp [act, own, live]
    refine ⟨?_, ?_, ?_⟩
    · rw [acted]
      exact (Board.closed_postIfNew _ _).trans live
    · rw [acted]
      exact Board.value_postIfNew _ _
    · rw [acted]
      by_cases same : h.selection.selected = n
      · refine .inr ⟨?_, congrArg Board.posts (if_pos same)⟩
        rintro ⟨m, selects, other⟩
        exact other (Act.select.inj selects ▸ same.symm)
      · exact .inl ⟨⟨n, rfl, Ne.symm same⟩, congrArg Board.posts (if_neg same)⟩

/-- A reader is remembered by what it looked at. -/
theorem readers_quiet (quiet : ¬Looks name a) :
    (h.act a).1.readers.lookup name = h.readers.lookup name := by
  cases a with
  | subscribe n =>
    have other : (name == n) = false :=
      beq_eq_false_iff_ne.mpr fun same => quiet (.inl (by rw [same]))
    simp only [act, own]
    split
    · rfl
    · rw [List.lookup_cons, other]
  | see n =>
    have other : (name == n) = false :=
      beq_eq_false_iff_ne.mpr fun same => quiet (.inr (by rw [same]))
    simp only [act]
    split
    · rfl
    · rw [List.lookup_cons, other]
  | changed n =>
    simp only [act]
    split <;> rfl
  | select | current | available | find | close =>
    simp only [act, own]
    split <;> rfl

/-- One that looks is remembered from then on. -/
theorem readers_look (live : h.selection.current.closed = false) (looks : Looks name a)
    (known : a = .subscribe name ∨ h.readers.lookup name ≠ none) :
    (h.act a).1.readers.lookup name = some h.selection.current.reader := by
  rcases looks with rfl | rfl
  · simp [act, own, live]
  · have subscribed : h.readers.lookup name ≠ none := known.resolve_left (by simp)
    simp only [act]
    split
    · rename_i unknown
      exact absurd unknown subscribed
    · exact List.lookup_cons_self

theorem known_act (known : h.readers.lookup name ≠ none) (a : Act) :
    (h.act a).1.readers.lookup name ≠ none := by
  by_cases quiet : Looks name a
  · rcases quiet with rfl | rfl
    · simp only [act, own]
      split
      · exact known
      · simp
    · simp only [act]
      split
      · exact known
      · simp
  · rw [readers_quiet quiet]
    exact known

theorem stranger_act (unknown : h.readers.lookup name = none) (silent : a ≠ .subscribe name) :
    (h.act a).1.readers.lookup name = none := by
  by_cases looks : Looks name a
  · obtain rfl : a = .see name := looks.resolve_left silent
    simp only [act, unknown]
  · rw [readers_quiet looks]
    exact unknown

/-! ## Runs -/

theorem after_append (h : Audience) (acts more : List Act) :
    h.after (acts ++ more) = (h.after acts).after more := List.foldl_append

theorem available_after (h : Audience) (acts : List Act) :
    (h.after acts).selection.available = h.selection.available := by
  induction acts generalizing h with
  | nil => rfl
  | cons a acts ih => exact (ih (h.act a).1).trans (h.available_act a)

/-- While the selection goes on, the network in use is the one selected last, and there were more
posts since exactly if the network was switched. -/
theorem board_after (live : h.selection.current.closed = false) (going : .close ∉ acts) :
    (h.after acts).selection.current.closed = false ∧
      (h.after acts).selection.selected = inUse h.selection.selected acts ∧
      h.selection.current.posts ≤ (h.after acts).selection.current.posts ∧
      (h.selection.current.posts < (h.after acts).selection.current.posts ↔
        Switched h.selection.selected acts) := by
  induction acts generalizing h with
  | nil =>
    refine ⟨live, rfl, Nat.le_refl _, fun less => absurd less (Nat.lt_irrefl _), ?_⟩
    rintro ⟨before, a, after, split, -⟩
    exact absurd split (by simp)
  | cons a acts ih =>
    obtain ⟨live', selected, posts⟩ := goes_act live (a := a) fun ends => going (by simp [ends])
    obtain ⟨stays, last, grows, news⟩ := ih live' fun ends => going (List.mem_cons_of_mem a ends)
    rw [selected] at last news
    refine ⟨stays, last.trans (inUse_cons _ _ _).symm, ?_, ?_⟩
    · show _ ≤ ((h.act a).1.after acts).selection.current.posts
      rcases posts with ⟨-, more⟩ | ⟨-, same⟩ <;> omega
    · rw [switched_cons, ← news]
      show _ < ((h.act a).1.after acts).selection.current.posts ↔ _
      rcases posts with ⟨switches, more⟩ | ⟨stays, same⟩
      · simp only [switches, true_or, iff_true]
        omega
      · simp only [stays, false_or, same]

theorem selection_after_closed (closed : h.selection.current.closed = true) (acts : List Act) :
    (h.after acts).selection = h.selection := by
  induction acts generalizing h with
  | nil => rfl
  | cons a acts ih =>
    have same := selection_act_closed closed a
    exact (ih (same ▸ closed)).trans same

theorem readers_after (quiet : ∀ a ∈ acts, ¬Looks name a) :
    (h.after acts).readers.lookup name = h.readers.lookup name := by
  induction acts generalizing h with
  | nil => rfl
  | cons a acts ih =>
    exact (ih fun b hb => quiet b (List.mem_cons_of_mem a hb)).trans
      (readers_quiet (quiet a List.mem_cons_self))

theorem known_after (known : h.readers.lookup name ≠ none) (acts : List Act) :
    (h.after acts).readers.lookup name ≠ none := by
  induction acts generalizing h with
  | nil => exact known
  | cons a acts ih => exact ih (known_act known a)

/-- Whoever subscribed while the selection went on is remembered. -/
theorem known_of_subscribe (live : h.selection.current.closed = false) (going : .close ∉ acts)
    (subscribed : .subscribe name ∈ acts) : (h.after acts).readers.lookup name ≠ none := by
  obtain ⟨before, after, rfl⟩ := List.append_of_mem subscribed
  have live' : (h.after before).selection.current.closed = false :=
    (board_after live fun ends => going (List.mem_append_left _ ends)).1
  rw [after_append]
  refine known_after (h := ((h.after before).act (.subscribe name)).1) ?_ after
  rw [readers_look live' (.inl rfl) (.inl rfl)]
  simp

theorem stranger_after (unknown : h.readers.lookup name = none) (silent : .subscribe name ∉ acts) :
    (h.after acts).readers.lookup name = none := by
  induction acts generalizing h with
  | nil => exact unknown
  | cons a acts ih =>
    exact ih (stranger_act unknown fun same => silent (by simp [same]))
      fun later => silent (List.mem_cons_of_mem a later)

/-! ## Every run -/

/-- What the readers learn while the selection goes on. -/
structure Attends (first : Network) (acts : List Act) (h : Audience) : Prop where
  /-- One that never subscribed learns nothing. -/
  stranger : ∀ name, .subscribe name ∉ acts →
    (h.act (.changed name)).2 = .nothing ∧ (h.act (.see name)).2 = .nothing
  /-- One that did, and looked last at a moment of the run, sees the network in use, and has news
  exactly if it was switched since. -/
  subscriber : ∀ name before look since, acts = before ++ look :: since → Looks name look →
    .subscribe name ∈ before ++ [look] → (∀ a ∈ since, ¬Looks name a) →
    (h.act (.see name)).2 = .network (inUse first acts) ∧
      ∃ news, (h.act (.changed name)).2 = .changed (some news) ∧
        (news = true ↔ Switched (inUse first (before ++ [look])) since)

theorem changed_of_lookup {r : Reader} (found : h.readers.lookup name = some r) :
    (h.act (.changed name)).2 = .changed (h.selection.current.changed? r) := by
  simp only [act, found]

theorem see_of_known (known : h.readers.lookup name ≠ none) :
    (h.act (.see name)).2 = .network h.selection.selected := by
  simp only [act]
  split
  · rename_i unknown
    exact absurd unknown known
  · rfl

theorem see_of_unknown (unknown : h.readers.lookup name = none) :
    (h.act (.see name)).2 = .nothing := by
  simp only [act, unknown]

theorem changed_of_unknown (unknown : h.readers.lookup name = none) :
    (h.act (.changed name)).2 = .nothing := by
  simp only [act, unknown]

theorem attends_after (live : h.selection.current.closed = false) (empty : h.readers = [])
    (going : .close ∉ acts) : Attends h.selection.selected acts (h.after acts) where
  stranger name silent := by
    have unknown := stranger_after (by rw [empty]; rfl) silent
    exact ⟨changed_of_unknown unknown, see_of_unknown unknown⟩
  subscriber name before look since split looks subscribed quiet := by
    have known : (h.after acts).readers.lookup name ≠ none := by
      refine known_of_subscribe live going ?_
      rw [split, List.append_cons]
      exact List.mem_append_left _ subscribed
    refine ⟨?_, ?_⟩
    · rw [see_of_known known, (board_after live going).2.1]
    -- The run is cut behind the last look: from there on the reader is not touched.
    rw [List.append_cons] at split
    subst split
    have early : .close ∉ before ++ [look] := fun ends => going (List.mem_append_left _ ends)
    have earlier : .close ∉ before := fun ends => early (List.mem_append_left _ ends)
    have late : .close ∉ since := fun ends => going (List.mem_append_right _ ends)
    obtain ⟨live₀, -⟩ := board_after live earlier
    obtain ⟨live₁, selected₁, -⟩ := board_after live early
    have last := board_after (h := h.after (before ++ [look])) live₁ late
    have looked : (h.after (before ++ [look])).readers.lookup name =
        some (h.after (before ++ [look])).selection.current.reader := by
      have acted : h.after (before ++ [look]) = ((h.after before).act look).1 :=
        after_append h before [look]
      rw [acted, selection_look looks]
      refine readers_look live₀ looks ?_
      rcases List.mem_append.mp subscribed with long | now
      · exact .inr (known_of_subscribe live earlier long)
      · exact .inl (List.mem_singleton.mp now).symm
    rw [after_append, changed_of_lookup ((readers_after quiet).trans looked), Board.changed?, last.1]
    refine ⟨_, rfl, ?_⟩
    rw [← selected₁, ← last.2.2.2, bne_iff_ne]
    exact ⟨fun other => Nat.lt_of_le_of_ne last.2.2.1 other, Nat.ne_of_lt⟩

/-- From the close on, whoever subscribed before it is told of it and sees the last network. -/
theorem ended_after (live : h.selection.current.closed = false) (going : .close ∉ acts)
    (subscribed : .subscribe name ∈ acts) (later : List Act) :
    ((h.after (acts ++ .close :: later)).act (.changed name)).2 = .changed none ∧
      ((h.after (acts ++ .close :: later)).act (.see name)).2 =
        .network (inUse h.selection.selected acts) := by
  obtain ⟨live', selected, -⟩ := board_after live going
  have known : (h.after (acts ++ .close :: later)).readers.lookup name ≠ none := by
    rw [after_append]
    exact known_after (known_of_subscribe live going subscribed) _
  -- The close keeps the network, and what follows it keeps the closed selection.
  have shut : (h.after (acts ++ .close :: later)).selection = (h.after acts).selection.close := by
    have acted : ((h.after acts).act .close).1.selection = (h.after acts).selection.close := by
      simp [act, own, live']
    rw [after_append, ← acted]
    exact selection_after_closed (by rw [acted]; rfl) later
  obtain ⟨r, found⟩ := Option.ne_none_iff_exists'.mp known
  refine ⟨?_, ?_⟩
  · rw [changed_of_lookup found, shut]
    rfl
  · rw [see_of_known known, shut]
    exact congrArg Sight.network selected

/-- In every run of acts by an owner and any number of readers: selecting the network in use leaves
everything as it is, so that nobody can tell. Until the selection is closed, the network in use is
the one selected last or else the first one, what is on offer and what is found there is as at the
beginning, and a reader has news exactly if the network was switched to another one since it last
looked. From the close on, each reader is told of it and sees the network that was in use. -/
theorem audience_run (first : Network) (available : List Network) (acts : List Act) :
    let h := (ofNetworks first available).after acts
    (h.act (.select h.selection.selected)).1 = h ∧
      (.close ∉ acts →
        (h.act .current).2 = .network (inUse first acts) ∧
        (h.act .available).2 = .networks available ∧
        (∀ chain, (h.act (.find chain)).2 = .found (Network.find? available chain)) ∧
        Attends first acts h) ∧
      (∀ before after, acts = before ++ .close :: after → .close ∉ before →
        ∀ name, .subscribe name ∈ before →
          (h.act (.changed name)).2 = .changed none ∧
          (h.act (.see name)).2 = .network (inUse first before)) := by
  intro h
  refine ⟨h.act_select_selected, fun going => ?_, ?_⟩
  · have offer : h.selection.available = available := available_after _ acts
    obtain ⟨live, selected, -⟩ := board_after (h := ofNetworks first available) rfl going
    refine ⟨?_, ?_, fun chain => ?_, attends_after (h := ofNetworks first available) rfl rfl going⟩
    · have asked : (h.act .current).2 = .network h.selection.selected := by
        simp [act, own, h, live]
      rw [asked]
      exact congrArg Sight.network selected
    · have asked : (h.act .available).2 = .networks h.selection.available := by
        simp [act, own, h, live]
      rw [asked, offer]
    · have asked : (h.act (.find chain)).2 = .found (Network.find? h.selection.available chain) := by
        simp [act, own, h, live, Selection.find?]
      rw [asked, offer]
  · rintro before after rfl going name subscribed
    exact ended_after (h := ofNetworks first available) rfl going subscribed after

/-- A reader has news of two switches that lead back to the first network. -/
theorem audience_run_switched_back :
    let acts := [.subscribe "a", .select .polygon, .select .ethereum]
    let h := (ofNetworks .ethereum [.ethereum, .polygon]).after acts
    (h.act .current).2 = .network .ethereum ∧ (h.act (.changed "a")).2 = .changed (some true) ∧
      ((h.after [.close]).act (.changed "a")).2 = .changed none := by
  intro acts h
  have going : .close ∉ acts := by simp [acts]
  obtain ⟨-, running, -⟩ := audience_run .ethereum [.ethereum, .polygon] acts
  obtain ⟨-, -, ended⟩ := audience_run .ethereum [.ethereum, .polygon] (acts ++ [.close])
  obtain ⟨current, -, -, attends⟩ := running going
  have silent : ∀ a ∈ [Act.select .polygon, .select .ethereum], ¬Looks "a" a := by simp [Looks]
  obtain ⟨-, news, learned, told⟩ :=
    attends.subscriber "a" [] _ _ rfl (.inl rfl) List.mem_cons_self silent
  have switched : Switched .ethereum [.select .polygon, .select .ethereum] :=
    ⟨[], _, _, rfl, .polygon, rfl, by decide⟩
  refine ⟨current, ?_, ?_⟩
  · rw [learned, told.mpr switched]
  · rw [← after_append]
    exact (ended acts [] rfl going "a" List.mem_cons_self).1

end Audience

end EvmWallet.Network
