/-!
# Spans of time

A `Span` is a signed length of time in whole nanoseconds. Its magnitude is at most `2^63 - 1`
milliseconds, and arithmetic that would leave this range is refused, not wrapped.

* `ofNanos?_eq_some_iff`  a number is a span exactly when it lies in the range
* `nanos_add?`            a sum that is not refused is exact
-/

namespace Outbox.Time

/-- The greatest magnitude of a span, `2^63 - 1` milliseconds, in nanoseconds. -/
def Span.limit : Int := 9223372036854775807 * 1000000

/-- A signed length of time in nanoseconds. -/
structure Span where
  /-- Whole nanoseconds. -/
  nanos : Int
  neg_limit_le : -Span.limit ≤ nanos := by decide
  le_limit : nanos ≤ Span.limit := by decide
deriving DecidableEq

namespace Span

/-- Spans are equal when they have the same nanoseconds: the bounds are proofs. -/
@[ext] theorem ext {a b : Span} (h : a.nanos = b.nanos) : a = b := by
  cases a; cases b; simpa using h

/-- No time at all. -/
def zero : Span := { nanos := 0 }

/-- The longest span. -/
def greatest : Span := { nanos := limit, neg_limit_le := by decide, le_limit := by decide }

/-- The longest span backwards. -/
def least : Span := { nanos := -limit, neg_limit_le := by decide, le_limit := by decide }

instance : Inhabited Span := ⟨zero⟩

instance : LE Span := ⟨fun a b => a.nanos ≤ b.nanos⟩
instance : LT Span := ⟨fun a b => a.nanos < b.nanos⟩
instance : DecidableLE Span := fun a b => inferInstanceAs (Decidable (a.nanos ≤ b.nanos))
instance : DecidableLT Span := fun a b => inferInstanceAs (Decidable (a.nanos < b.nanos))

/-- Spans are compared by their nanoseconds. -/
theorem le_def {a b : Span} : a ≤ b ↔ a.nanos ≤ b.nanos := Iff.rfl
/-- So is the strict order. -/
theorem lt_def {a b : Span} : a < b ↔ a.nanos < b.nanos := Iff.rfl

@[simp] theorem nanos_zero : zero.nanos = 0 := rfl

/-- The span of `n` nanoseconds, if there is one. -/
def ofNanos? (n : Int) : Option Span :=
  if h : -limit ≤ n ∧ n ≤ limit then some ⟨n, h.1, h.2⟩ else none

/-- A number is a span exactly when the range holds it, and then it is the span with that number. -/
theorem ofNanos?_eq_some_iff {n : Int} {s : Span} : ofNanos? n = some s ↔ s.nanos = n := by
  unfold ofNanos?
  split
  · next h =>
    simp only [Option.some.injEq]
    exact ⟨fun e => e ▸ rfl, fun e => Span.ext e.symm⟩
  · next h =>
    -- a span in hand would bring both bounds with it
    simp only [reduceCtorEq, false_iff]
    intro e
    exact h ⟨e ▸ s.neg_limit_le, e ▸ s.le_limit⟩

/-- Every span is the span of its nanoseconds. -/
@[simp] theorem ofNanos?_nanos (s : Span) : ofNanos? s.nanos = some s :=
  ofNanos?_eq_some_iff.2 rfl

/-- A number is refused exactly when it lies beyond one of the ends. -/
theorem ofNanos?_eq_none_iff {n : Int} : ofNanos? n = none ↔ n < -limit ∨ limit < n := by
  unfold ofNanos?
  split <;> simp <;> omega

/-- The sum, unless it leaves the range. -/
def add? (a b : Span) : Option Span := ofNanos? (a.nanos + b.nanos)

/-- A sum that is not refused is exact: nothing wraps and nothing saturates. -/
theorem nanos_add? {a b s : Span} : add? a b = some s ↔ s.nanos = a.nanos + b.nanos :=
  ofNanos?_eq_some_iff

/-- The shorter of two spans. -/
def shorter (a b : Span) : Span := if a ≤ b then a else b

/-- The shorter span has the smaller number of nanoseconds, also among negative ones. -/
@[simp] theorem nanos_shorter (a b : Span) : (shorter a b).nanos = min a.nanos b.nanos := by
  unfold shorter
  split <;> simp_all only [le_def] <;> omega

end Span

end Outbox.Time
