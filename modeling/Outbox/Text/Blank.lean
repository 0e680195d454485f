/-!
# Blank characters

The characters that Unicode lists under `White_Space`, and trimming them off both ends of a text.

* `trim_append_blank`  what surrounds a trimmed text is blank
* `trim_of_bare`       a text without a blank at either end is trimmed already
-/

namespace Outbox.Text

/-- Whether Unicode gives the character the property `White_Space`. -/
def isBlank (c : Char) : Bool :=
  let n := c.toNat
  (9 ≤ n && n ≤ 13) || n == 0x20 || n == 0x85 || n == 0xA0 || n == 0x1680 ||
    (0x2000 ≤ n && n ≤ 0x200A) || n == 0x2028 || n == 0x2029 || n == 0x202F || n == 0x205F ||
    n == 0x3000

/-- The text without the blanks at its end. -/
def trimEnd (s : List Char) : List Char := (s.reverse.dropWhile isBlank).reverse

/-- The text without the blanks at both ends. -/
def trim (s : List Char) : List Char := trimEnd (s.dropWhile isBlank)

/-- What stands around the trimmed text is blank. -/
theorem trim_append_blank (s : List Char) :
    ∃ front back, s = front ++ trim s ++ back ∧
      (∀ c ∈ front, isBlank c = true) ∧ (∀ c ∈ back, isBlank c = true) := by
  refine ⟨s.takeWhile isBlank, ((s.dropWhile isBlank).reverse.takeWhile isBlank).reverse,
    ?_, ?_, ?_⟩
  · simp only [trim, trimEnd, List.append_assoc]
    rw [← List.reverse_append, List.takeWhile_append_dropWhile, List.reverse_reverse,
      List.takeWhile_append_dropWhile]
  · intro c hc
    exact (List.all_eq_true.1 (List.all_takeWhile (l := s) (p := isBlank))) c hc
  · intro c hc
    exact (List.all_eq_true.1 (List.all_takeWhile (p := isBlank))) c (List.mem_reverse.1 hc)

/-- A text whose first and last character are not blank is trimmed already. -/
theorem trim_of_bare {s : List Char} (hfirst : ∀ c ∈ s.head?, isBlank c = false)
    (hlast : ∀ c ∈ s.getLast?, isBlank c = false) : trim s = s := by
  have drop_bare : ∀ t : List Char, (∀ c ∈ t.head?, isBlank c = false) →
      t.dropWhile isBlank = t := by
    intro t ht
    cases t with
    | nil => rfl
    | cons c r => simp [ht c (by simp)]
  rw [trim, trimEnd, drop_bare s hfirst, drop_bare s.reverse (by simpa using hlast),
    List.reverse_reverse]

end Outbox.Text
