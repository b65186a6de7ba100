/-!
# Maps on code points

A map that gives some characters an image of one character or more, in the form in which
Unicode's mappings are shortest: runs that are regular, rows of consecutive characters with
an image of one character, and rows with longer images.
-/

namespace EvmWallet.Text

/-- Every `stride`-th character from `first` to `last` is mapped to the one equally far from
`target`. -/
structure CodeRun where
  first : Nat
  last : Nat
  stride : Nat
  target : Nat

/-- The image of a code point of the run. -/
def CodeRun.image? (r : CodeRun) (n : Nat) : Option Nat :=
  if r.first ≤ n ∧ n ≤ r.last ∧ (n - r.first) % r.stride = 0 then
    some (r.target + (n - r.first))
  else
    none

/-- The entry of a code point in rows, each with the code point of its first entry. -/
def entryAt? {α : Type} (rows : List (Nat × List α)) (n : Nat) : Option α :=
  rows.findSome? fun (first, entries) => if first ≤ n then entries[n - first]? else none

/-- A map on code points. -/
structure CodeMap where
  runs : List CodeRun
  rows : List (Nat × List Nat)
  longRows : List (Nat × List (List Nat))

namespace CodeMap

/-- The image of a character, if it has one. -/
def image? (m : CodeMap) (c : Char) : Option (List Char) :=
  let n := c.toNat
  match (m.runs.findSome? (·.image? n)).or (entryAt? m.rows n) with
  | some target => some [Char.ofNat target]
  | none => (entryAt? m.longRows n).map (·.map Char.ofNat)

end CodeMap

end EvmWallet.Text
