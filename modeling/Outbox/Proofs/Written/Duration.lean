import Outbox.Proofs.Written.Digits
import Outbox.Time.Duration

/-!
# Durations are read back

A span that is a signed 64-bit number of nanoseconds, written and read again, is the same span. A
longer span can be written too, but its text is refused.

* `parse?_render`          a written span that is in reach is read as it was
* `parse?_render_eq_none`  any other is not read
* `format_injective`       different spans are written differently
* `le_of_mem_textNumbers`  reading what is accepted takes no number beyond 64 bits
-/

namespace Outbox.Time.Duration

open Written

/-- What is within reach is a number of nanoseconds that fits in 64 bits with a sign. -/
theorem inReach_iff {n : Int} :
    inReach n = true ↔ -9223372036854775808 ≤ n ∧ n ≤ 9223372036854775807 := by
  simp [inReach]

/-- What is read is in reach. -/
theorem inReach_of_parse? {s : List Char} {d : Span} (h : parse? s = some d) :
    inReach d.nanos = true := by
  obtain ⟨n, -, hspan⟩ := Option.bind_eq_some_iff.1 h
  split at hspan
  · next hreach =>
    rw [Span.ofNanos?_eq_some_iff.1 hspan]
    exact hreach
  · exact nomatch hspan

/-- Nine places are enough for a fraction of a second. -/
theorem length_fractionDigits_le {n : Nat} (h : n < 1000000000) :
    (fractionDigits n).length ≤ 9 := by
  obtain ⟨k, hk⟩ := eq_append_zeros ((Nat.toDigits 10 n).leftpad 9 '0')
  have hlength := congrArg List.length hk
  have hplaces := (Nat.length_toDigits_le_iff (b := 10) (k := 9) (by decide) (by decide)).2 h
  rw [length_leftpad_toDigits hplaces, List.length_append] at hlength
  simp only [fractionDigits]
  omega

/-- The places behind the point are digits. -/
theorem isDigit_of_mem_fractionDigits {n : Nat} {c : Char} (h : c ∈ fractionDigits n) :
    c.isDigit = true := by
  obtain ⟨k, hk⟩ := eq_append_zeros ((Nat.toDigits 10 n).leftpad 9 '0')
  have hpadded : c ∈ (Nat.toDigits 10 n).leftpad 9 '0' := by
    rw [hk]
    exact List.mem_append_left _ h
  exact isDigit_of_mem_leftpad hpadded

/-- The digits behind the point denote the fraction again. -/
theorem fractionValue_fractionDigits {n : Nat} (h : n < 1000000000) :
    fractionValue (fractionDigits n) = n := by
  obtain ⟨k, hk⟩ := eq_append_zeros ((Nat.toDigits 10 n).leftpad 9 '0')
  -- nine places in all: what is written, and as many zeros as were left out
  have hlength := congrArg List.length hk
  have hvalue := congrArg (Nat.ofDigitChars 10 · 0) hk
  have hplaces := (Nat.length_toDigits_le_iff (b := 10) (k := 9) (by decide) (by decide)).2 h
  rw [length_leftpad_toDigits hplaces, List.length_append, List.length_replicate] at hlength
  simp only [ofDigitChars_leftpad, Nat.ofDigitChars_append, Nat.ofDigitChars_replicate_zero]
    at hvalue
  have hk' : 9 - (fractionDigits n).length = k := by
    simp only [fractionDigits]
    omega
  change Nat.ofDigitChars 10 (fractionDigits n) 0 * 10 ^ (9 - (fractionDigits n).length) = n
  rw [hk', Nat.mul_comm]
  exact hvalue.symm

/-- A number of seconds with its fraction is read as it was written. -/
theorem number?_renderSeconds (n : Nat) : number? (renderSeconds n) = some n := by
  have hdigits : ∀ c ∈ Nat.toDigits 10 (n / 1000000000), c.isDigit = true :=
    fun _ => isDigit_of_mem_toDigits
  have hne : (Nat.toDigits 10 (n / 1000000000)).isEmpty = false := by
    simp
  -- whole seconds are written without a point
  by_cases hzero : n % 1000000000 = 0
  · have hrender : renderSeconds n = Nat.toDigits 10 (n / 1000000000) := by
      simp [renderSeconds, hzero]
    unfold number?
    rw [hrender, takeWhile_all_digits hdigits, dropWhile_all_digits hdigits]
    simp only [hne, digitsValue, Nat.ofDigitChars_ten_toDigits, Bool.false_eq_true, if_false,
      Option.some.injEq]
    omega
  · have hrender : renderSeconds n =
        Nat.toDigits 10 (n / 1000000000) ++ '.' :: fractionDigits (n % 1000000000) := by
      simp [renderSeconds, hzero]
    have hlt : n % 1000000000 < 1000000000 := Nat.mod_lt _ (by decide)
    have hall : (fractionDigits (n % 1000000000)).all Char.isDigit = true :=
      List.all_eq_true.2 fun _ => isDigit_of_mem_fractionDigits
    have hlength := length_fractionDigits_le hlt
    unfold number?
    rw [hrender, takeWhile_digits hdigits rfl, dropWhile_digits hdigits rfl]
    simp only [hne, hall, digitsValue, Nat.ofDigitChars_ten_toDigits,
      fractionValue_fractionDigits hlt, Bool.false_and, Bool.false_eq_true, if_false, Bool.not_true,
      Bool.or_false, decide_eq_true_eq]
    rw [if_neg (by omega), Option.some.injEq]
    omega

/-- Seconds are written as a numeral. -/
theorem isNumeral_of_mem_renderSeconds {n : Nat} {c : Char} (h : c ∈ renderSeconds n) :
    isNumeral c = true := by
  have hdigit : c.isDigit = true → isNumeral c = true := fun hc => by simp [isNumeral, hc]
  rcases List.mem_append.1 h with hwhole | hfraction
  · exact hdigit (isDigit_of_mem_toDigits hwhole)
  · split at hfraction
    · exact absurd hfraction List.not_mem_nil
    · rcases List.mem_cons.1 hfraction with rfl | hdigits
      · rfl
      · exact hdigit (isDigit_of_mem_fractionDigits hdigits)

/-- Numerals are collected until a unit closes the number. -/
theorem componentSum?_numerals {unit : Char → Option Nat} {numerals pending rest : List Char}
    (h : ∀ c ∈ numerals, isNumeral c = true) :
    componentSum? unit pending (numerals ++ rest) =
      componentSum? unit (numerals.reverse ++ pending) rest := by
  -- the numerals that are pending stand in reverse
  induction numerals generalizing pending with
  | nil => rfl
  | cons c numerals ih =>
    rw [List.cons_append, componentSum?, if_pos (h c List.mem_cons_self),
      ih fun d hd => h d (List.mem_cons_of_mem c hd), List.reverse_cons, List.append_assoc,
      List.singleton_append]

/-- A number of seconds is one component. -/
theorem components?_renderSeconds (n : Nat) :
    components? ('T' :: renderSeconds n ++ ['S']) = some n := by
  have hsum : componentSum? timeUnit [] (renderSeconds n ++ ['S']) = some n := by
    rw [componentSum?_numerals fun _ => isNumeral_of_mem_renderSeconds, componentSum?]
    simp [isNumeral, timeUnit, number?_renderSeconds, componentSum?]
  have hne : (renderSeconds n ++ ['S']).isEmpty = false := by simp
  simp [components?, isTimeMark, componentSum?, hsum]

/-- The magnitude and the sign are read as they were written. -/
theorem signedNanos?_render (d : Span) : signedNanos? (render d) = some d.nanos := by
  have hcomponents := components?_renderSeconds d.nanos.natAbs
  simp only [List.cons_append] at hcomponents
  -- the sign is the only thing written in front of the `P`
  unfold render
  split
  · next hneg =>
    have hsplit : ∀ rest, splitSign ('-' :: rest) = (true, rest) := fun _ => rfl
    simp only [List.cons_append, List.nil_append, signedNanos?, hsplit, hcomponents,
      Option.bind_eq_bind, Option.bind_some, Option.pure_def, Option.map_some, if_true,
      Option.some.injEq]
    omega
  · next hneg =>
    have hsplit : ∀ rest, splitSign ('P' :: rest) = (false, 'P' :: rest) := fun _ => rfl
    simp only [List.cons_append, List.nil_append, signedNanos?, hsplit, hcomponents,
      Option.bind_eq_bind, Option.bind_some, Option.pure_def, Option.map_some,
      Bool.false_eq_true, if_false, Option.some.injEq]
    omega

/-- There are no blanks around a written span. -/
theorem trim_render (d : Span) : Text.trim (render d) = render d := by
  have hlast : (render d).getLast? = some 'S' := List.getLast?_concat
  refine Text.trim_of_bare (fun c hc => ?_) fun c hc => ?_
  · unfold render at hc
    split at hc
    · obtain rfl : '-' = c := Option.some.inj hc
      rfl
    · obtain rfl : 'P' = c := Option.some.inj hc
      rfl
  · obtain rfl : 'S' = c := Option.some.inj (hlast.symm.trans hc)
    rfl

/-- A span that a header can hold is read as it was written. -/
theorem parse?_render {d : Span} (h : inReach d.nanos = true) : parse? (render d) = some d := by
  simp [parse?, trim_render, signedNanos?_render, h]

/-- Any other span is not read at all. -/
theorem parse?_render_eq_none {d : Span} (h : inReach d.nanos = false) :
    parse? (render d) = none := by
  simp [parse?, trim_render, signedNanos?_render, h]

/-- Different spans are written differently, also those that are not read. -/
theorem format_injective : Function.Injective format := by
  intro d e h
  -- the reader knows the number before it asks whether it is in reach
  have hrender : render d = render e := by
    have htext := congrArg String.toList h
    simpa only [format, String.toList_ofList] using htext
  have hnanos : some d.nanos = some e.nanos := by
    rw [← signedNanos?_render, hrender, signedNanos?_render]
  exact Span.ext (Option.some.inj hnanos)

/-! ### Room for the numbers

The reader counts without bounds. Who counts with 128 bits and a sign comes to the same for every
text that is accepted: no number on the way is greater than the sum at the end. Where 128 bits do
not suffice the text is refused here, and there the count itself goes wrong. -/

/-- The numbers that are met while components are read that come to `sum` before: every number,
its product with the unit, and the sum so far. -/
def numbersMet (unit : Char → Option Nat) (sum : Nat) : List Char → List Char → List Nat
  | _, [] => []
  | pending, c :: rest =>
    if isNumeral c then numbersMet unit sum (c :: pending) rest
    else
      match unit c, number? pending.reverse with
      | some seconds, some value =>
        let next := sum + value * seconds
        value :: value * seconds :: next :: numbersMet unit next [] rest
      | _, _ => []

/-- No number met on the way is greater than the total. -/
theorem le_of_mem_numbersMet {unit : Char → Option Nat} (hunit : ∀ c n, unit c = some n → 0 < n)
    {sum total m : Nat} {pending s : List Char} (h : componentSum? unit pending s = some total)
    (hm : m ∈ numbersMet unit sum pending s) : m ≤ sum + total := by
  -- on the characters that are left; the numerals that are pending make no number yet
  induction s generalizing sum total pending with
  | nil => simp [numbersMet] at hm
  | cons c rest ih =>
    rw [componentSum?] at h
    rw [numbersMet] at hm
    split at h
    · next hc =>
      rw [if_pos hc] at hm
      exact ih h hm
    · next hc =>
      rw [if_neg hc] at hm
      obtain ⟨seconds, hseconds, h⟩ := Option.bind_eq_some_iff.1 h
      obtain ⟨value, hvalue, h⟩ := Option.bind_eq_some_iff.1 h
      obtain ⟨later, hlater, h⟩ := Option.bind_eq_some_iff.1 h
      obtain rfl := Option.some.inj h
      simp only [hseconds, hvalue, List.mem_cons] at hm
      -- a unit is at least one second, so the product is no less than the number
      have hvalue_le : value ≤ value * seconds := Nat.le_mul_of_pos_right _ (hunit c _ hseconds)
      rcases hm with rfl | rfl | rfl | hm
      · omega
      · omega
      · omega
      · have := ih hlater hm
        omega

/-- The numbers that are met behind the `P`: those of the date part, then those of the time part,
and the sum of both. -/
def bodyNumbers (body : List Char) : List Nat :=
  let date := body.takeWhile (!isTimeMark ·)
  match body.dropWhile (!isTimeMark ·) with
  | [] => numbersMet dateUnit 0 [] date
  | _ :: time =>
    numbersMet dateUnit 0 [] date ++ numbersMet timeUnit 0 [] time ++
      ((componentSum? dateUnit [] date).bind fun days =>
        (componentSum? timeUnit [] time).map (days + ·)).toList

/-- The numbers that are met while a text is read. -/
def textNumbers (s : List Char) : List Nat :=
  match (splitSign (Text.trim s)).2 with
  | 'P' :: body | 'p' :: body => bodyNumbers body
  | _ => []

/-- Neither is one that is met in either part. -/
theorem le_of_mem_bodyNumbers {body : List Char} {total m : Nat}
    (h : components? body = some total) (hm : m ∈ bodyNumbers body) : m ≤ total := by
  have hdate : ∀ c n, dateUnit c = some n → 0 < n := by
    intro c n h
    unfold dateUnit at h
    split at h <;> cases h <;> decide
  have htime : ∀ c n, timeUnit c = some n → 0 < n := by
    intro c n h
    unfold timeUnit at h
    split at h <;> cases h <;> decide
  unfold components? at h
  unfold bodyNumbers at hm
  dsimp only at h hm
  split at h
  · next hdrop =>
    rw [hdrop] at hm
    split at h
    · cases h
    · simpa using le_of_mem_numbersMet hdate h hm
  -- both parts are counted on their own, and the last number is their sum
  · next mark time hdrop =>
    rw [hdrop] at hm
    split at h
    · cases h
    · obtain ⟨days, hdays, h⟩ := Option.bind_eq_some_iff.1 h
      obtain ⟨seconds, hseconds, h⟩ := Option.bind_eq_some_iff.1 h
      obtain rfl := Option.some.inj h
      simp only [hdays, hseconds, Option.bind_some, Option.map_some, Option.toList_some,
        List.mem_append, List.mem_singleton] at hm
      rcases hm with (hm | hm) | rfl
      · have := le_of_mem_numbersMet hdate hdays hm
        omega
      · have := le_of_mem_numbersMet htime hseconds hm
        omega
      · exact Nat.le_refl _

/-- The magnitude that a text denotes is the sum of its components. -/
theorem components?_of_signedNanos? {s : List Char} {n : Int} (h : signedNanos? s = some n) :
    ∃ body, ((splitSign s).2 = 'P' :: body ∨ (splitSign s).2 = 'p' :: body) ∧
      components? body = some n.natAbs := by
  have habs : ∀ (negative : Bool) (total : Nat),
      (if negative then -(total : Int) else total).natAbs = total := by
    intro negative total
    cases negative <;> simp
  unfold signedNanos? at h
  dsimp only at h
  split at h
  · next body heq =>
    obtain ⟨_, hcast, rfl⟩ := Option.map_eq_some_iff.1 h
    obtain ⟨total, htotal, hvalue⟩ := Option.bind_eq_some_iff.1 hcast
    obtain rfl := Option.some.inj hvalue
    exact ⟨body, .inl heq, by rw [habs]; exact htotal⟩
  · next body heq =>
    obtain ⟨_, hcast, rfl⟩ := Option.map_eq_some_iff.1 h
    obtain ⟨total, htotal, hvalue⟩ := Option.bind_eq_some_iff.1 hcast
    obtain rfl := Option.some.inj hvalue
    exact ⟨body, .inr heq, by rw [habs]; exact htotal⟩
  · cases h

/-- No number that is met while an accepted text is read is greater than `2 ^ 63`. So arithmetic
with 128 bits and a sign overflows at most on texts that are refused. -/
theorem le_of_mem_textNumbers {s : List Char} {d : Span} {m : Nat} (h : parse? s = some d)
    (hm : m ∈ textNumbers s) : m ≤ 9223372036854775808 := by
  have hreach := inReach_iff.1 (inReach_of_parse? h)
  obtain ⟨n, hn, hspan⟩ := Option.bind_eq_some_iff.1 h
  obtain rfl : d.nanos = n := by
    split at hspan
    · exact Span.ofNanos?_eq_some_iff.1 hspan
    · cases hspan
  obtain ⟨body, hbody, htotal⟩ := components?_of_signedNanos? hn
  have hmet : textNumbers s = bodyNumbers body := by
    rcases hbody with heq | heq <;> simp [textNumbers, heq]
  have hle := le_of_mem_bodyNumbers htotal (hmet ▸ hm)
  omega

end Outbox.Time.Duration
