/-!
# Notice boards

A board shows one value, the latest. Posting replaces it, and every reader can tell whether
something was posted since it last looked. When the owner closes the board, the last value
stays readable and readers learn that it is closed.
-/

namespace EvmWallet

/-- A board with the number of posts so far. -/
structure Board (α : Type) where
  value : α
  posts : Nat
  closed : Bool

/-- What a reader remembers: how many posts there were when it last looked. -/
structure Reader where
  seen : Nat
  deriving DecidableEq, Repr

namespace Board

variable {α : Type}

/-- A board with a first value, which does not count as posted. -/
def showing (value : α) : Board α := ⟨value, 0, false⟩

/-- Replaces the value. -/
def post (b : Board α) (value : α) : Board α := { b with value, posts := b.posts + 1 }

/-- Replaces the value if it is another one. -/
def postIfNew [DecidableEq α] (b : Board α) (value : α) : Board α :=
  if b.value = value then b else b.post value

/-- Closes the board. -/
def close (b : Board α) : Board α := { b with closed := true }

/-- A reader that has seen what is on the board. -/
def reader (b : Board α) : Reader := ⟨b.posts⟩

/-- Whether something was posted since the reader looked; `none` once the board is closed. -/
def changed? (b : Board α) (r : Reader) : Option Bool :=
  if b.closed then none else some (r.seen != b.posts)

@[simp] theorem value_post (b : Board α) (a : α) : (b.post a).value = a := rfl

@[simp] theorem posts_post (b : Board α) (a : α) : (b.post a).posts = b.posts + 1 := rfl

@[simp] theorem closed_post (b : Board α) (a : α) : (b.post a).closed = b.closed := rfl

@[simp] theorem value_postIfNew [DecidableEq α] (b : Board α) (a : α) :
    (b.postIfNew a).value = a := by
  unfold postIfNew
  split
  · assumption
  · rfl

@[simp] theorem closed_postIfNew [DecidableEq α] (b : Board α) (a : α) :
    (b.postIfNew a).closed = b.closed := by
  unfold postIfNew
  split <;> rfl

@[simp] theorem value_close (b : Board α) : b.close.value = b.value := rfl

/-- A board is closed once. -/
theorem close_of_closed {b : Board α} (closed : b.closed = true) : b.close = b := by
  cases b
  cases closed
  rfl

/-- A reader that has just looked sees no change. -/
theorem changed?_reader (b : Board α) (h : b.closed = false) :
    b.changed? b.reader = some false := by
  simp [changed?, reader, h]

end Board

end EvmWallet
