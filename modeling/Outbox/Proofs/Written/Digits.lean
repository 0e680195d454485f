import Outbox.Text.Blank

/-!
# Decimal digits

Numbers as they are written in headers: their digits, with or without zeros in front, denote them
again.
-/

namespace Outbox.Written

/-- A numeral is made of digits. -/
theorem isDigit_of_mem_toDigits {n : Nat} {c : Char} (h : c ∈ Nat.toDigits 10 n) :
    c.isDigit = true :=
  Nat.isDigit_of_mem_toDigits (by decide) (by decide) h

/-- A digit is not blank. -/
theorem isBlank_of_isDigit {c : Char} (h : c.isDigit = true) : Text.isBlank c = false := by
  obtain ⟨hlo, hhi⟩ := Char.isDigit_iff_toNat.1 h
  simp only [Char.reduceToNat] at hlo hhi
  simp only [Text.isBlank, Bool.or_eq_false_iff, Bool.and_eq_false_iff, decide_eq_false_iff_not,
    beq_eq_false_iff_ne]
  omega

/-- With zeros in front it still is. -/
theorem isDigit_of_mem_leftpad {n width : Nat} {c : Char}
    (h : c ∈ (Nat.toDigits 10 n).leftpad width '0') : c.isDigit = true := by
  rcases List.mem_append.1 h with hzero | hdigit
  · obtain ⟨-, rfl⟩ := List.mem_replicate.1 hzero
    rfl
  · exact isDigit_of_mem_toDigits hdigit

/-- Zeros in front do not count. -/
theorem ofDigitChars_leftpad (n width : Nat) :
    Nat.ofDigitChars 10 ((Nat.toDigits 10 n).leftpad width '0') 0 = n := by
  rw [List.leftpad, Nat.ofDigitChars_append, Nat.ofDigitChars_replicate_zero, Nat.mul_zero,
    Nat.ofDigitChars_ten_toDigits]

/-- Digits that fit in `width` places fill them. -/
theorem length_leftpad_toDigits {n width : Nat} (h : (Nat.toDigits 10 n).length ≤ width) :
    ((Nat.toDigits 10 n).leftpad width '0').length = width := by
  rw [List.length_leftpad, Nat.max_eq_left h]

/-- Digits are taken off the front up to the first character that is none. -/
theorem takeWhile_digits {digits rest : List Char} {c : Char}
    (h : ∀ d ∈ digits, d.isDigit = true) (hc : c.isDigit = false) :
    (digits ++ c :: rest).takeWhile Char.isDigit = digits := by
  rw [List.takeWhile_append_of_pos h, List.takeWhile_cons_of_neg (by simp [hc]), List.append_nil]

/-- What is behind the digits stays when they are dropped. -/
theorem dropWhile_digits {digits rest : List Char} {c : Char}
    (h : ∀ d ∈ digits, d.isDigit = true) (hc : c.isDigit = false) :
    (digits ++ c :: rest).dropWhile Char.isDigit = c :: rest := by
  rw [List.dropWhile_append_of_pos h, List.dropWhile_cons_of_neg (by simp [hc])]

/-- Digits alone are taken as a whole. -/
theorem takeWhile_all_digits {digits : List Char} (h : ∀ d ∈ digits, d.isDigit = true) :
    digits.takeWhile Char.isDigit = digits := by
  have happend : (digits ++ []).takeWhile Char.isDigit = digits ++ [].takeWhile Char.isDigit :=
    List.takeWhile_append_of_pos h
  simpa using happend

/-- And nothing of them is left. -/
theorem dropWhile_all_digits {digits : List Char} (h : ∀ d ∈ digits, d.isDigit = true) :
    digits.dropWhile Char.isDigit = [] := by
  have happend : (digits ++ []).dropWhile Char.isDigit = [].dropWhile Char.isDigit :=
    List.dropWhile_append_of_pos h
  simpa using happend

/-- Zeros at the end, taken off: how many there were, and what is left. -/
theorem eq_append_zeros (l : List Char) :
    ∃ k, l = (l.reverse.dropWhile (· == '0')).reverse ++ List.replicate k '0' := by
  refine ⟨(l.reverse.takeWhile (· == '0')).length, ?_⟩
  have hzeros : l.reverse.takeWhile (· == '0') =
      List.replicate (l.reverse.takeWhile (· == '0')).length '0' := by
    refine List.eq_replicate_iff.2 ⟨rfl, fun c hc => ?_⟩
    have hall := List.all_eq_true.1 (List.all_takeWhile (l := l.reverse) (p := (· == '0'))) c hc
    exact eq_of_beq hall
  have hsplit := List.takeWhile_append_dropWhile (p := (· == '0')) (l := l.reverse)
  rw [hzeros] at hsplit
  have hreverse := congrArg List.reverse hsplit
  rw [List.reverse_append, List.reverse_replicate, List.reverse_reverse] at hreverse
  exact hreverse.symm

end Outbox.Written
