import EvmWallet.Proofs.Checkout.Between
import EvmWallet.Proofs.Checkout.Published

/-!
# Empty statuses

A status should be empty until the processor says something. Main statement: it is empty exactly
when no event has counted since the reset, or when all that was said is forgotten
(`isEmpty_run_iff`). Of all events only the offer of methods leaves no field of its own that is
looked at, once its callback is cleared, and only if it offers no method at all; so that is what
can be forgotten, as long as nothing else was said.
-/

namespace EvmWallet.Checkout

/-- Whether a choice among methods was asked for. -/
def Event.isOffer : Event → Bool
  | methodsOffered _ _ _ => true
  | dataRequested _ _ | outcome _ | redirected _ _ | detailsRequired _ _ _ => false

/-- All events but offers set a field that stays. -/
theorem Event.isOffer_iff (e : Event) :
    e.isOffer = true ↔
      e.token? = none ∧ e.outcome? = none ∧ e.request? = none ∧ e.redirectUrl? = none := by
  cases e <;> simp [isOffer, token?, outcome?, request?, redirectUrl?]

theorem Event.callbackIn?_of_isOffer {e : Event} (offer : e.isOffer = true) {slot : Slot}
    (other : slot ≠ .service) : e.callbackIn? slot = none := by
  cases e with
  | methodsOffered recurring offered callback =>
    simpa [callbackIn?, callback?] using other.symm
  | _ => exact absurd offer (by simp [isOffer])

theorem Progress.isEmpty_iff (p : Progress) :
    p.isEmpty = true ↔ (p.token = none ∧ p.outcome = none ∧ p.request = none ∧
      p.redirectUrl = none) ∧ p.offered = [] ∧ p.recurring = [] ∧ p.slots = .empty := by
  simp only [isEmpty, Bool.and_eq_true, Option.isNone_iff_eq_none, List.isEmpty_iff, beq_iff_eq]
  constructor
  · rintro ⟨⟨⟨⟨⟨⟨token, outcome⟩, offered⟩, recurring⟩, request⟩, url⟩, slots⟩
    exact ⟨⟨token, outcome, request, url⟩, offered, recurring, slots⟩
  · rintro ⟨⟨token, outcome, request, url⟩, offered, recurring, slots⟩
    exact ⟨⟨⟨⟨⟨⟨token, outcome⟩, offered⟩, recurring⟩, request⟩, url⟩, slots⟩

namespace Journal

variable {α : Type} {j : Journal}

/-- Since the reset only choices among methods were asked for, the last of them among none, and
its callback was taken and cleared. -/
def Forgotten (j : Journal) : Prop :=
  ∃ s callback older, j.calls = (s, .methodsOffered [] [] callback) :: older ∧
    (∀ call ∈ older, call.2.isOffer = true) ∧ j.Cleared .service callback

theorem last?_eq_none_iff (part : Event → Option α) :
    j.last? part = none ↔ ∀ call ∈ j.calls, part call.2 = none :=
  List.findSome?_eq_none_iff

theorem last?_of_calls {s : Nat} {e : Event} {older : List (Nat × Event)}
    (newest : j.calls = (s, e) :: older) {part : Event → Option α} {a : α} (said : part e = some a) :
    j.last? part = some a := by
  unfold last?
  rw [newest, List.findSome?_cons, said]

/-- Only offers have counted exactly when no field was set that stays. -/
theorem offers_iff :
    (∀ call ∈ j.calls, call.2.isOffer = true) ↔
      j.progress.token = none ∧ j.progress.outcome = none ∧ j.progress.request = none ∧
        j.progress.redirectUrl = none := by
  show _ ↔ j.last? Event.token? = none ∧ j.last? Event.outcome? = none ∧
    j.last? Event.request? = none ∧ j.last? Event.redirectUrl? = none
  simp only [last?_eq_none_iff, Event.isOffer_iff]
  exact ⟨fun h => ⟨fun c m => (h c m).1, fun c m => (h c m).2.1, fun c m => (h c m).2.2.1,
    fun c m => (h c m).2.2.2⟩, fun h c m => ⟨h.1 c m, h.2.1 c m, h.2.2.1 c m, h.2.2.2 c m⟩⟩

theorem slots_eq_empty_iff :
    j.progress.slots = .empty ↔
      ∀ slot callback, j.delivered slot = some callback → j.Cleared slot callback := by
  constructor
  · intro empty slot
    rw [← waiting_eq_none_iff, ← slots_get, empty]
    exact Slots.get_empty slot
  · intro cleared
    apply slots_ext
    intro slot
    rw [slots_get, Slots.get_empty]
    exact (waiting_eq_none_iff slot j).mpr (cleared slot)

/-- While only offers have counted, no slot but that for a choice was filled. -/
theorem delivered_of_offers (offers : ∀ call ∈ j.calls, call.2.isOffer = true) {slot : Slot}
    (other : slot ≠ .service) : j.delivered slot = none :=
  (last?_eq_none_iff _).mpr fun call mem => Event.callbackIn?_of_isOffer (offers call mem) other

theorem isEmpty_of_silence (silent : j.calls = []) : j.progress.isEmpty = true := by
  have nothing {α : Type} (part : Event → Option α) : j.last? part = none := by
    rw [last?_eq_none_iff, silent]
    intro call mem
    exact absurd mem List.not_mem_nil
  rw [Progress.isEmpty_iff, ← offers_iff, slots_eq_empty_iff, silent]
  refine ⟨by simp, ?_, ?_, ?_⟩
  · show (j.last? Event.offered?).getD [] = []
    rw [nothing]
    rfl
  · show (j.last? Event.recurring?).getD [] = []
    rw [nothing]
    rfl
  · intro slot callback came
    exact absurd ((nothing _).symm.trans came) (by simp)

theorem isEmpty_of_forgotten (h : j.Forgotten) : j.progress.isEmpty = true := by
  obtain ⟨s, callback, older, newest, offers, cleared⟩ := h
  have all : ∀ call ∈ j.calls, call.2.isOffer = true := by
    rw [newest]
    exact List.forall_mem_cons.mpr ⟨rfl, offers⟩
  rw [Progress.isEmpty_iff, ← offers_iff, slots_eq_empty_iff]
  refine ⟨all, ?_, ?_, ?_⟩
  · show (j.last? Event.offered?).getD [] = []
    rw [last?_of_calls newest (a := []) rfl]
    rfl
  · show (j.last? Event.recurring?).getD [] = []
    rw [last?_of_calls newest (a := []) rfl]
    rfl
  · intro slot c came
    by_cases service : slot = .service
    · subst service
      have last : j.delivered .service = some callback := last?_of_calls newest rfl
      rw [← Option.some.inj (last.symm.trans came)]
      exact cleared
    · exact absurd ((delivered_of_offers all service).symm.trans came) (by simp)

theorem forgotten_of_isEmpty (empty : j.progress.isEmpty = true) (spoken : j.calls ≠ []) :
    j.Forgotten := by
  rw [Progress.isEmpty_iff, ← offers_iff, slots_eq_empty_iff] at empty
  obtain ⟨all, unoffered, unused, cleared⟩ := empty
  obtain ⟨⟨s, e⟩, older, newest⟩ := List.exists_cons_of_ne_nil spoken
  rw [newest] at all
  obtain ⟨offer, offers⟩ := List.forall_mem_cons.mp all
  -- The newest event is an offer, and its two lists are those that the status shows.
  cases e with
  | methodsOffered recurring offered callback =>
    have hoffered : offered = [] := by
      rw [← unoffered]
      show offered = (j.last? Event.offered?).getD []
      rw [last?_of_calls newest (a := offered) rfl]
      rfl
    have hrecurring : recurring = [] := by
      rw [← unused]
      show recurring = (j.last? Event.recurring?).getD []
      rw [last?_of_calls newest (a := recurring) rfl]
      rfl
    subst hoffered hrecurring
    exact ⟨s, callback, older, newest, offers, cleared .service callback (last?_of_calls newest rfl)⟩
  | _ => exact absurd offer (by simp [Event.isOffer])

theorem isEmpty_iff (j : Journal) : j.progress.isEmpty = true ↔ j.calls = [] ∨ j.Forgotten := by
  constructor
  · intro empty
    by_cases silent : j.calls = []
    · exact .inl silent
    · exact .inr (forgotten_of_isEmpty empty silent)
  · rintro (silent | forgotten)
    · exact isEmpty_of_silence silent
    · exact isEmpty_of_forgotten forgotten

end Journal

namespace Desk

/-- In every run, the latest status is empty exactly when no event has counted since the reset or
what was said is forgotten. So once an event has counted, the status is not empty until the next
reset, whatever is said and answered in between, unless what was said is forgotten: only offers
have counted, the last one of no methods, and its callback was taken and cleared. -/
theorem isEmpty_run_iff (k : Payment.Kind) (moves : List Move) :
    let d := (ofKind k).run
    let j := (ofKind k).journal []
    ((d moves).status.isEmpty = true ↔ (j moves).calls = [] ∨ (j moves).Forgotten) ∧
      ∀ more, (j moves).calls ≠ [] → (j (moves ++ more)).resets = (j moves).resets →
        ((d (moves ++ more)).status.isEmpty = true ↔ (j (moves ++ more)).Forgotten) := by
  intro d j
  have recounts (moves : List Move) :
      (d moves).status.isEmpty = true ↔ (j moves).calls = [] ∨ (j moves).Forgotten := by
    rw [Status.isEmpty, (follows_run k moves).progress]
    exact Journal.isEmpty_iff _
  refine ⟨recounts moves, fun more spoken unreset => ?_⟩
  have still : (j (moves ++ more)).calls ≠ [] := by
    show ((ofKind k).journal [] (moves ++ more)).calls ≠ []
    have same : (((ofKind k).run moves).journal (j moves) more).resets = (j moves).resets := by
      rw [← unreset]
      exact congrArg Journal.resets (journal_append (ofKind k) [] moves more).symm
    obtain ⟨newer, quiet, grown⟩ := journal_unreset same
    rw [journal_append, grown, Journal.calls_append quiet]
    exact List.append_ne_nil_of_right_ne_nil _ spoken
  rw [recounts]
  exact or_iff_right still

/-- A status can be empty although the processor has asked for something since the reset: the
choice among no methods that session 0 asked for was answered. -/
theorem isEmpty_after_offer_of_nothing :
    ¬∀ (k : Payment.Kind) (moves : List Move),
      ((ofKind k).run moves).status.isEmpty = true ↔ ((ofKind k).journal [] moves).calls = [] := by
  intro silent
  have h := silent .card [.create, .resume, .resume, .hear 0 (.methodsOffered [] [] 0),
    .answer (.service (.named "card" "Card")), .resume]
  revert h
  decide

end Desk

end EvmWallet.Checkout
