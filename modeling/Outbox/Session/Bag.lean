/-!
# Bags

Values that a caller ties to a session and that never leave the process: at most one of each kind.

* `get_set_self`, `get_set_of_ne`  a bag answers with what was put in last, kind by kind
-/

namespace Outbox

/-- The kinds of values in a bag. -/
inductive Bag.Kind where
  | text
  | number
  | flag
deriving DecidableEq, Repr

/-- The values of a kind. -/
abbrev Bag.Kind.Value : Bag.Kind → Type
  | .text => String
  | .number => Int
  | .flag => Bool

/-- A bag with at most one value of each kind. -/
structure Bag where
  get : (kind : Bag.Kind) → Option kind.Value := fun _ => none

namespace Bag

/-- Fills or empties the place of a kind. -/
def set (b : Bag) (kind : Bag.Kind) (value : Option kind.Value) : Bag where
  get other := if h : kind = other then h ▸ value else b.get other

/-- A bag answers with what was put in last. -/
@[simp] theorem get_set_self (b : Bag) (kind : Bag.Kind) (value : Option kind.Value) :
    (b.set kind value).get kind = value := by
  simp [set]

/-- Other kinds stay as they were. -/
theorem get_set_of_ne (b : Bag) {kind other : Bag.Kind} (value : Option kind.Value)
    (h : kind ≠ other) : (b.set kind value).get other = b.get other := by
  simp [set, h]

/-- Whether the bag has a value of the kind. -/
def contains (b : Bag) (kind : Bag.Kind) : Bool := (b.get kind).isSome

/-- The number of values. -/
def size (b : Bag) : Nat :=
  [Bag.Kind.text, .number, .flag].countP b.contains

/-- How the bag shows itself: its values stay hidden. -/
def describe (b : Bag) : String :=
  "Extensions \x7b len: " ++ Nat.repr b.size ++ " \x7d"

end Bag

end Outbox
