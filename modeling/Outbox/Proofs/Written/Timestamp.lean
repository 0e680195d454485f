import Outbox.Proofs.Written.Calendar
import Outbox.Proofs.Written.Digits
import Outbox.Time.Timestamp

/-!
# Instants are read back

An instant in the years 0 to 9999, written and read again, is the same up to the microsecond, also
in a leap second.
-/

namespace Outbox.Time

/-- The year in which an instant lies, in UTC. -/
def Instant.year (t : Instant) : Int := (dateOfDay (t.seconds / 86400)).year

/-- The instant without what lies behind its microseconds. -/
def Instant.toMicros (t : Instant) : Instant where
  seconds := t.seconds
  nanos := t.nanos / 1000 * 1000
  leastSeconds_le := t.leastSeconds_le
  le_greatestSeconds := t.le_greatestSeconds
  nanos_lt := by
    have := t.nanos_lt
    omega
  leap_at_end h := t.leap_at_end (by omega)

namespace Timestamp

open Written

/-- A number that is padded to a width is taken off the front. -/
theorem takeDigits?_padded (width n : Nat) (h : (Nat.toDigits 10 n).length ≤ width)
    (rest : List Char) : takeDigits? width (padded width n ++ rest) = some (n, rest) := by
  have hlength : (padded width n).length = width := length_leftpad_toDigits h
  have htake : (padded width n ++ rest).take width = padded width n := by
    rw [List.take_append_of_le_length (by omega), List.take_of_length_le (by omega)]
  have hdrop : (padded width n ++ rest).drop width = rest := by
    rw [List.drop_append_of_le_length (by omega), List.drop_of_length_le (by omega),
      List.nil_append]
  have hall : (padded width n).all Char.isDigit = true :=
    List.all_eq_true.2 fun _ => isDigit_of_mem_leftpad
  simp only [takeDigits?, htake, hdrop, hlength, hall, and_self, if_true]
  exact congrArg some (Prod.ext (ofDigitChars_leftpad n width) rfl)

/-- Six digits behind the point are microseconds. -/
theorem takeFraction?_padded {n : Nat} (h : n < 1000000) :
    takeFraction? ('.' :: padded 6 n ++ ['Z']) = some (n * 1000, ['Z']) := by
  have hdigits : ∀ c ∈ padded 6 n, c.isDigit = true := fun _ => isDigit_of_mem_leftpad
  have hlength : (padded 6 n).length = 6 :=
    length_leftpad_toDigits ((Nat.length_toDigits_le_iff (by decide) (by decide)).2 h)
  have hne : (padded 6 n).isEmpty = false := by
    rw [List.isEmpty_eq_false_iff, ← List.length_pos_iff]
    omega
  have htake : (padded 6 n).take 9 = padded 6 n := List.take_of_length_le (by omega)
  have hvalue : Nat.ofDigitChars 10 (padded 6 n) 0 = n := ofDigitChars_leftpad n 6
  rw [List.cons_append, takeFraction?]
  dsimp only
  rw [takeWhile_digits hdigits rfl, dropWhile_digits hdigits rfl, hne, htake, hlength, hvalue]
  rfl

/-- The year of four digits. -/
theorem renderYear_of_mem {year : Int} (h : 0 ≤ year ∧ year ≤ 9999) :
    renderYear year = padded 4 year.toNat := if_pos h

/-- An instant is read as it was written, up to the microsecond. -/
theorem parseBare?_render {t : Instant} (hyear : 0 ≤ t.year ∧ t.year ≤ 9999) :
    parseBare? (render t) = some t.toMicros := by
  obtain ⟨hmonth, hday⟩ := dateOfDay_lt (t.seconds / 86400)
  have hdate := dayOfDate?_dateOfDay (t.seconds / 86400)
  simp only [Instant.year] at hyear
  have hnanos := t.nanos_lt
  have hleapEnd := t.leap_at_end
  simp only [nanosPerSecond] at hnanos hleapEnd
  have hofDay : (t.secondOfDay.toNat : Int) = t.seconds % 86400 :=
    Int.toNat_of_nonneg (Int.emod_nonneg _ (by decide))
  have hofDayLt : t.secondOfDay.toNat < 86400 := by omega
  -- the second that is written is 60 in a leap second and only there
  have hsecond : t.secondOfDay.toNat % 60 + t.nanos / nanosPerSecond < 61 := by
    simp only [nanosPerSecond]
    omega
  unfold render
  dsimp only
  rw [renderYear_of_mem hyear]
  generalize hd : dateOfDay (t.seconds / 86400) = date at *
  obtain ⟨year, month, day⟩ := date
  dsimp only at hmonth hday hyear ⊢
  have hfraction := takeFraction?_padded (n := t.nanos % nanosPerSecond / 1000)
    (by simp only [nanosPerSecond]; omega)
  rw [List.cons_append] at hfraction
  have hyears := takeDigits?_padded 4 year.toNat
    ((Nat.length_toDigits_le_iff (by decide) (by decide)).2 (by omega))
  have hpair : ∀ n, n < 100 → ∀ rest, takeDigits? 2 (padded 2 n ++ rest) = some (n, rest) :=
    fun n hn => takeDigits?_padded 2 n
      ((Nat.length_toDigits_le_iff (by decide) (by decide)).2 hn)
  have hhour := hpair (t.secondOfDay.toNat / 3600) (by omega)
  have hminute := hpair (t.secondOfDay.toNat / 60 % 60) (by omega)
  have hseconds := hpair (t.secondOfDay.toNat % 60 + t.nanos / nanosPerSecond) (by omega)
  have hyear' : ((year.toNat : Nat) : Int) = year := Int.toNat_of_nonneg hyear.1
  simp only [List.append_assoc, List.cons_append]
  -- The parts are read in their order, a mark behind each of the first five.
  refine Option.bind_eq_some_iff.2 ⟨_, hyears _, ?_⟩
  refine Option.bind_eq_some_iff.2 ⟨_, rfl, ?_⟩
  refine Option.bind_eq_some_iff.2 ⟨_, hpair month hmonth _, ?_⟩
  refine Option.bind_eq_some_iff.2 ⟨_, rfl, ?_⟩
  refine Option.bind_eq_some_iff.2 ⟨_, hpair day hday _, ?_⟩
  refine Option.bind_eq_some_iff.2 ⟨_, rfl, ?_⟩
  refine Option.bind_eq_some_iff.2 ⟨_, hhour _, ?_⟩
  refine Option.bind_eq_some_iff.2 ⟨_, rfl, ?_⟩
  refine Option.bind_eq_some_iff.2 ⟨_, hminute _, ?_⟩
  refine Option.bind_eq_some_iff.2 ⟨_, rfl, ?_⟩
  refine Option.bind_eq_some_iff.2 ⟨_, hseconds _, ?_⟩
  refine Option.bind_eq_some_iff.2 ⟨_, hfraction, ?_⟩
  refine Option.bind_eq_some_iff.2 ⟨_, rfl, ?_⟩
  refine Option.bind_eq_some_iff.2 ⟨_, by rw [hyear', hdate], ?_⟩
  rw [if_pos ⟨rfl, by omega, by omega, by omega⟩]
  -- a second 60 that is read is second 59, and its nanoseconds run on
  by_cases hleap : nanosPerSecond ≤ t.nanos
  · have hsecond60 : t.secondOfDay.toNat % 60 + t.nanos / nanosPerSecond = 60 := by
      simp only [nanosPerSecond] at hleap ⊢
      omega
    have hsum : t.seconds / 86400 * 86400 + ((t.secondOfDay.toNat / 3600 * 3600 +
        t.secondOfDay.toNat / 60 % 60 * 60 + 59 : Nat) : Int) - 0 = t.seconds := by
      simp only [nanosPerSecond] at hsecond60 hleap
      omega
    have hmicros : t.nanos % nanosPerSecond / 1000 * 1000 + nanosPerSecond =
        t.nanos / 1000 * 1000 := by
      simp only [nanosPerSecond] at hleap ⊢
      omega
    simp only [hsecond60, if_true, hsum, hmicros]
    exact Instant.ofParts?_self t.toMicros
  · have hsecond60 : t.secondOfDay.toNat % 60 + t.nanos / nanosPerSecond ≠ 60 := by
      simp only [nanosPerSecond] at hleap ⊢
      omega
    have hsum : t.seconds / 86400 * 86400 + ((t.secondOfDay.toNat / 3600 * 3600 +
        t.secondOfDay.toNat / 60 % 60 * 60 +
        (t.secondOfDay.toNat % 60 + t.nanos / nanosPerSecond) : Nat) : Int) - 0 = t.seconds := by
      simp only [nanosPerSecond] at hleap ⊢
      omega
    have hmicros : t.nanos % nanosPerSecond / 1000 * 1000 = t.nanos / 1000 * 1000 := by
      simp only [nanosPerSecond] at hleap ⊢
      omega
    simp only [hsecond60, if_false, Nat.add_zero, hsum, hmicros]
    exact Instant.ofParts?_self t.toMicros

/-- There are no blanks around a written instant. -/
theorem trim_render {t : Instant} (hyear : 0 ≤ t.year ∧ t.year ≤ 9999) :
    Text.trim (render t) = render t := by
  have hlast : (render t).getLast? = some 'Z' := List.getLast?_concat
  refine Text.trim_of_bare (fun c hc => ?_) fun c hc => ?_
  · have hlength : (padded 4 t.year.toNat).length = 4 :=
      length_leftpad_toDigits ((Nat.length_toDigits_le_iff (by decide) (by decide)).2 (by omega))
    have hyear' : renderYear (dateOfDay (t.seconds / 86400)).year = padded 4 t.year.toNat :=
      renderYear_of_mem hyear
    have hne : padded 4 t.year.toNat ≠ [] := fun hnil => by simp [hnil] at hlength
    unfold render at hc
    simp only [hyear', List.append_assoc, List.cons_append, List.head?_append,
      List.head?_eq_some_head hne, Option.some_or] at hc
    obtain rfl := Option.some.inj hc
    exact isBlank_of_isDigit (isDigit_of_mem_leftpad (List.head_mem hne))
  · obtain rfl : 'Z' = c := Option.some.inj (hlast.symm.trans hc)
    rfl

/-- An instant that is written in four digits of the year is read back. -/
theorem parse?_render {t : Instant} (hyear : 0 ≤ t.year ∧ t.year ≤ 9999) :
    parse? (render t) = some t.toMicros := by
  rw [parse?, trim_render hyear, parseBare?_render hyear]

end Timestamp

end Outbox.Time
