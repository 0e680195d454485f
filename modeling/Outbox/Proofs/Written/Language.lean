import Mathlib.Tactic.FieldSimp
import Mathlib.Tactic.Ring
import Mathlib.Data.Rat.Cast.Order
import Mathlib.Data.List.TakeWhile
import Outbox.Proofs.Written.Duration
import Outbox.Retry.Header

/-!
# The language of durations

Which texts are durations, and what they denote, told without the reader: a grammar whose rules
carry the number of seconds as an exact fraction. The reader accepts this language, as far as the
sum is a signed 64-bit number of nanoseconds, and nothing else.

The reader looks at one character after the other and keeps whole nanoseconds. So each rule is
compared with the part of the reader that it belongs to, once in either direction, from numbers
over components to the whole text.

* `number?_sound`, `number?_complete`              numbers
* `componentSum?_sound`, `componentSum?_complete`  components of one part
* `signedNanos?_sound`, `signedNanos?_complete`    a text without blanks around it
* `readDuration_language`                          what is read, and what is refused
-/

namespace Outbox.Time.Duration

open Written

/-! ### The grammar -/

/-- A number and its value: digits, or digits on at least one side of a mark, of which at most nine
stand behind it. -/
inductive Numeral : List Char → ℚ → Prop
  | whole (digits : List Char) : digits ≠ [] → (∀ c ∈ digits, c.isDigit = true) →
      Numeral digits (digitsValue digits)
  | marked (whole fraction : List Char) (mark : Char) : whole ++ fraction ≠ [] →
      (∀ c ∈ whole ++ fraction, c.isDigit = true) → mark ∈ ['.', ','] → fraction.length ≤ 9 →
      Numeral (whole ++ mark :: fraction)
        (digitsValue whole + digitsValue fraction / 10 ^ fraction.length)

/-- The letters of the date part, and how many seconds each stands for. -/
def DateUnit (c : Char) (seconds : Nat) : Prop :=
  c ∈ ['W', 'w'] ∧ seconds = 7 * 24 * 60 * 60 ∨ c ∈ ['D', 'd'] ∧ seconds = 24 * 60 * 60

/-- The letters of the time part, and how many seconds each stands for. -/
def TimeUnit (c : Char) (seconds : Nat) : Prop :=
  c ∈ ['H', 'h'] ∧ seconds = 60 * 60 ∨ c ∈ ['M', 'm'] ∧ seconds = 60 ∨
    c ∈ ['S', 's'] ∧ seconds = 1

/-- Components one after the other, each a number with its unit, and the seconds in all of them. -/
inductive Components (unit : Char → Nat → Prop) : List Char → ℚ → Prop
  | none : Components unit [] 0
  | more {number rest : List Char} {value total : ℚ} {c : Char} {seconds : Nat} :
      Numeral number value → unit c seconds → Components unit rest total →
      Components unit (number ++ c :: rest) (value * seconds + total)

/-- What stands behind the `P`. A part that is not empty has a component. -/
inductive Body : List Char → ℚ → Prop
  | date {date : List Char} {days : ℚ} : date ≠ [] → Components DateUnit date days →
      Body date days
  | time {date time : List Char} {days seconds : ℚ} {mark : Char} :
      Components DateUnit date days → mark ∈ ['T', 't'] → time ≠ [] →
      Components TimeUnit time seconds → Body (date ++ mark :: time) (days + seconds)

/-- A text without blanks around it, and the seconds that it denotes. -/
inductive Bare : List Char → ℚ → Prop
  | unsigned {p : Char} {body : List Char} {seconds : ℚ} : p ∈ ['P', 'p'] → Body body seconds →
      Bare (p :: body) seconds
  | plus {p : Char} {body : List Char} {seconds : ℚ} : p ∈ ['P', 'p'] → Body body seconds →
      Bare ('+' :: p :: body) seconds
  | minus {p : Char} {body : List Char} {seconds : ℚ} : p ∈ ['P', 'p'] → Body body seconds →
      Bare ('-' :: p :: body) (-seconds)

/-- The text denotes the span: there may be blanks around it, and the span has a signed 64-bit
number of nanoseconds. -/
def Denotes (text : String) (d : Span) : Prop :=
  ∃ front bare back, text.toList = front ++ bare ++ back ∧
    (∀ c ∈ front, Text.isBlank c = true) ∧ (∀ c ∈ back, Text.isBlank c = true) ∧
    Bare bare (d.nanos / 10 ^ 9) ∧ -2 ^ 63 ≤ d.nanos ∧ d.nanos ≤ 2 ^ 63 - 1

/-! ### Numbers -/

/-- A numeral of the language is made of characters that belong to one. -/
theorem Numeral.isNumeral {s : List Char} {q : ℚ} (h : Numeral s q) :
    ∀ c ∈ s, Duration.isNumeral c = true := by
  intro c hc
  cases h with
  | whole _ _ hdigits => simp [Duration.isNumeral, hdigits c hc]
  | marked whole fraction mark _ hdigits hmark _ =>
    simp only [List.mem_append, List.mem_cons] at hc
    rcases hc with hw | rfl | hf
    · simp [Duration.isNumeral, hdigits c (by simp [hw])]
    · rcases (by simpa using hmark : c = '.' ∨ c = ',') with rfl | rfl <;> rfl
    · simp [Duration.isNumeral, hdigits c (by simp [hf])]

/-- Nine places hold a fraction of at most nine digits without a remainder. -/
theorem cast_fractionValue {fraction : List Char} (h : fraction.length ≤ 9) :
    (fractionValue fraction : ℚ) = digitsValue fraction / 10 ^ fraction.length * 10 ^ 9 := by
  -- nine places are those of the fraction and those that it is filled up with
  have hplaces : (10 : ℚ) ^ 9 = 10 ^ fraction.length * 10 ^ (9 - fraction.length) := by
    rw [← pow_add]
    congr 1
    omega
  rw [hplaces]
  simp only [fractionValue, Nat.pow_eq]
  push_cast
  field_simp

/-- Every numeral of the language is read, as the number that it denotes. -/
theorem number?_complete {s : List Char} {q : ℚ} (h : Numeral s q) :
    ∃ n, number? s = some n ∧ (n : ℚ) = q * 10 ^ 9 := by
  -- a fraction counts in nanoseconds, and nine places are as many as these have
  cases h with
  | whole digits hne hdigits =>
    refine ⟨digitsValue s * 1000000000, ?_, by push_cast; ring⟩
    simp [number?, takeWhile_all_digits hdigits, dropWhile_all_digits hdigits, hne]
  | marked whole fraction mark hne hdigits hmark hlength =>
    refine ⟨digitsValue whole * 1000000000 + fractionValue fraction, ?_, ?_⟩
    -- up to the mark there are digits, and behind it as well
    · have hwhole : ∀ c ∈ whole, c.isDigit = true := fun c hc => hdigits c (by simp [hc])
      have hfraction : fraction.all Char.isDigit = true :=
        List.all_eq_true.2 fun c hc => hdigits c (by simp [hc])
      have hmark : mark.isDigit = false := by
        rcases (by simpa using hmark : mark = '.' ∨ mark = ',') with rfl | rfl <;> rfl
      have hsome : (whole.isEmpty && fraction.isEmpty) = false := by
        by_cases hw : whole = []
        · simp_all
        · simp [hw]
      simp [number?, takeWhile_digits hwhole hmark, dropWhile_digits hwhole hmark, hsome,
        hfraction, hlength]
    · rw [Nat.cast_add, cast_fractionValue hlength]
      push_cast
      ring

/-- What is read as a number is a numeral of the language. -/
theorem number?_sound {s : List Char} {n : Nat} (hs : ∀ c ∈ s, isNumeral c = true)
    (h : number? s = some n) : ∃ q, Numeral s q ∧ (n : ℚ) = q * 10 ^ 9 := by
  have hsplit := List.takeWhile_append_dropWhile (p := Char.isDigit) (l := s)
  have hwhole : ∀ c ∈ s.takeWhile Char.isDigit, c.isDigit = true :=
    List.all_eq_true.1 List.all_takeWhile
  unfold number? at h
  generalize s.takeWhile Char.isDigit = whole at h hsplit hwhole
  dsimp only at h
  -- by what ends the leading digits: nothing, or a character that has to be the mark
  split at h
  · next hdrop =>
    -- nothing stands behind the digits, so there must be some
    rw [hdrop, List.append_nil] at hsplit
    subst hsplit
    split at h
    · exact nomatch h
    · next hne =>
      obtain rfl := Option.some.inj h
      refine ⟨_, .whole whole (by simpa using hne) hwhole, by push_cast; ring⟩
  · next mark fraction hdrop =>
    rw [hdrop] at hsplit
    subst hsplit
    split at h
    · exact nomatch h
    · next hne =>
      split at h
      · exact nomatch h
      · next hfraction =>
        simp only [Bool.or_eq_true, decide_eq_true_eq, Bool.not_eq_true', not_or, not_lt,
          Bool.not_eq_false, List.all_eq_true] at hfraction
        obtain ⟨hlength, hdigits⟩ := hfraction
        obtain rfl := Option.some.inj h
        -- the digits end at the mark, so the mark is none
        have hmark : mark ∈ ['.', ','] := by
          have hnot : mark.isDigit = false := by
            have hhead := List.head?_dropWhile_not Char.isDigit (whole ++ mark :: fraction)
            rw [hdrop] at hhead
            simpa using hhead
          have hnumeral := hs mark (by simp)
          simpa [isNumeral, hnot] using hnumeral
        refine ⟨_, .marked whole fraction mark ?_ ?_ hmark hlength, ?_⟩
        · intro hnil
          obtain ⟨rfl, rfl⟩ := List.append_eq_nil_iff.1 hnil
          exact hne rfl
        · intro c hc
          exact (List.mem_append.1 hc).elim (hwhole c) (hdigits c)
        · rw [Nat.cast_add, cast_fractionValue hlength]
          push_cast
          ring

/-! ### Components -/

/-- The units of the date part are those of the language. -/
theorem dateUnit_eq_some_iff {c : Char} {n : Nat} : dateUnit c = some n ↔ DateUnit c n := by
  unfold dateUnit DateUnit
  split <;> simp_all [eq_comm]

/-- So are those of the time part. -/
theorem timeUnit_eq_some_iff {c : Char} {n : Nat} : timeUnit c = some n ↔ TimeUnit c n := by
  unfold timeUnit TimeUnit
  split <;> simp_all [eq_comm]

section

variable {unit : Char → Option Nat} {U : Char → Nat → Prop}

/-- What is read as a sum of components is one, and the sum is right. -/
theorem componentSum?_sound (hunit : ∀ c n, unit c = some n → U c n) {pending s : List Char}
    {n : Nat} (hpending : ∀ c ∈ pending, isNumeral c = true)
    (h : componentSum? unit pending s = some n) :
    ∃ q, Components U (pending.reverse ++ s) q ∧ (n : ℚ) = q * 10 ^ 9 := by
  -- the numerals that are pending are the front of the component that is being read
  induction s generalizing pending n with
  | nil =>
    rw [componentSum?] at h
    split at h
    · next hnil =>
      obtain rfl := List.isEmpty_iff.1 hnil
      obtain rfl := Option.some.inj h
      exact ⟨0, .none, by simp⟩
    · cases h
  | cons c rest ih =>
    rw [componentSum?] at h
    split at h
    · next hc =>
      -- a numeral joins those that are pending
      have hmore : ∀ d ∈ c :: pending, isNumeral d = true := by
        intro d hd
        rcases List.mem_cons.1 hd with rfl | hd
        · exact hc
        · exact hpending d hd
      simpa using ih hmore h
    -- a unit closes the number that is pending, and the rest is read with none pending
    · obtain ⟨seconds, hseconds, h⟩ := Option.bind_eq_some_iff.1 h
      obtain ⟨value, hvalue, h⟩ := Option.bind_eq_some_iff.1 h
      obtain ⟨total, htotal, h⟩ := Option.bind_eq_some_iff.1 h
      obtain rfl := Option.some.inj h
      have hnumerals : ∀ d ∈ pending.reverse, isNumeral d = true := by
        intro d hd
        exact hpending d (List.mem_reverse.1 hd)
      obtain ⟨q, hnumeral, hq⟩ := number?_sound hnumerals hvalue
      obtain ⟨r, hcomponents, hr⟩ := ih (by simp) htotal
      refine ⟨_, .more hnumeral (hunit _ _ hseconds) hcomponents, ?_⟩
      push_cast
      rw [hq, hr]
      ring

/-- Every sum of components is read. -/
theorem componentSum?_complete (hunit : ∀ c n, U c n → unit c = some n)
    (hletter : ∀ c n, U c n → isNumeral c = false) {s : List Char} {q : ℚ}
    (h : Components U s q) : ∃ n, componentSum? unit [] s = some n ∧ (n : ℚ) = q * 10 ^ 9 := by
  -- component by component, as the grammar has them
  induction h with
  | none => exact ⟨0, rfl, by simp⟩
  | @more number rest q r c seconds hnumeral hc _ ih =>
    obtain ⟨value, hvalue, hq⟩ := number?_complete hnumeral
    obtain ⟨total, htotal, hr⟩ := ih
    refine ⟨value * seconds + total, ?_, ?_⟩
    · -- the whole number is read before its unit closes it
      rw [componentSum?_numerals hnumeral.isNumeral, componentSum?,
        if_neg (by simp [hletter _ _ hc])]
      simp [hunit _ _ hc, hvalue, htotal]
    · push_cast
      rw [hq, hr]
      ring

/-- The characters of components belong to numbers, or they are units. -/
theorem Components.cases_mem {s : List Char} {q : ℚ} (h : Components U s q) :
    ∀ c ∈ s, isNumeral c = true ∨ ∃ n, U c n := by
  induction h with
  | none => simp
  | more hnumeral hunit _ ih =>
    intro c hc
    simp only [List.mem_append, List.mem_cons] at hc
    rcases hc with hnumber | rfl | hrest
    · exact .inl (hnumeral.isNumeral c hnumber)
    · exact .inr ⟨_, hunit⟩
    · exact ih c hrest

end

/-- A unit of the date part closes a number, and it does not open the time part. -/
theorem DateUnit.letter {c : Char} {n : Nat} (h : DateUnit c n) : isNumeral c = false ∧
    isTimeMark c = false ∧ Text.isBlank c = false := by
  simp only [DateUnit, List.mem_cons, List.not_mem_nil, or_false] at h
  rcases h with ⟨rfl | rfl, -⟩ | ⟨rfl | rfl, -⟩ <;> decide

/-- A unit of the time part closes a number. -/
theorem TimeUnit.letter {c : Char} {n : Nat} (h : TimeUnit c n) : isNumeral c = false ∧
    Text.isBlank c = false := by
  simp only [TimeUnit, List.mem_cons, List.not_mem_nil, or_false] at h
  rcases h with ⟨rfl | rfl, -⟩ | ⟨rfl | rfl, -⟩ | ⟨rfl | rfl, -⟩ <;> decide

/-- A numeral is neither blank nor does it open the time part. -/
theorem not_blank_of_isNumeral {c : Char} (h : isNumeral c = true) :
    isTimeMark c = false ∧ Text.isBlank c = false := by
  simp only [isNumeral, Bool.or_eq_true, beq_iff_eq] at h
  -- a digit, or one of the two marks
  rcases h with (hdigit | rfl) | rfl
  · refine ⟨?_, isBlank_of_isDigit hdigit⟩
    unfold isTimeMark
    by_cases hT : c = 'T'
    · subst hT
      exact absurd hdigit (by decide)
    · by_cases ht : c = 't'
      · subst ht
        exact absurd hdigit (by decide)
      · simp [hT, ht]
  · decide
  · decide

/-! ### Both parts -/

/-- What is read in the date part is of the language. -/
theorem dateSum?_sound {s : List Char} {n : Nat} (h : componentSum? dateUnit [] s = some n) :
    ∃ q, Components DateUnit s q ∧ (n : ℚ) = q * 10 ^ 9 := by
  simpa using componentSum?_sound (fun _ _ => dateUnit_eq_some_iff.1) (by simp) h

/-- So is what is read in the time part. -/
theorem timeSum?_sound {s : List Char} {n : Nat} (h : componentSum? timeUnit [] s = some n) :
    ∃ q, Components TimeUnit s q ∧ (n : ℚ) = q * 10 ^ 9 := by
  simpa using componentSum?_sound (fun _ _ => timeUnit_eq_some_iff.1) (by simp) h

/-- What the language has as a date part is read. -/
theorem dateSum?_complete {s : List Char} {q : ℚ} (h : Components DateUnit s q) :
    ∃ n, componentSum? dateUnit [] s = some n ∧ (n : ℚ) = q * 10 ^ 9 :=
  @componentSum?_complete dateUnit DateUnit (fun _ _ => dateUnit_eq_some_iff.2)
    (fun _ _ hunit => hunit.letter.1) s q h

/-- So is what it has as a time part. -/
theorem timeSum?_complete {s : List Char} {q : ℚ} (h : Components TimeUnit s q) :
    ∃ n, componentSum? timeUnit [] s = some n ∧ (n : ℚ) = q * 10 ^ 9 :=
  @componentSum?_complete timeUnit TimeUnit (fun _ _ => timeUnit_eq_some_iff.2)
    (fun _ _ hunit => hunit.letter.1) s q h

/-- A body that is read is one of the language: a date part, or one followed by a time part that is
not empty. -/
theorem components?_sound {body : List Char} {n : Nat} (h : components? body = some n) :
    ∃ q, Body body q ∧ (n : ℚ) = q * 10 ^ 9 := by
  have hsplit := List.takeWhile_append_dropWhile (p := (!isTimeMark ·)) (l := body)
  have hhead := List.head?_dropWhile_not (!isTimeMark ·) body
  unfold components? at h
  generalize body.takeWhile (!isTimeMark ·) = date at h hsplit
  dsimp only at h
  -- without a time mark everything is the date part, and that must not be empty
  split at h
  · next hdrop =>
    rw [hdrop, List.append_nil] at hsplit
    subst hsplit
    split at h
    · cases h
    · next hne =>
      obtain ⟨q, hdate, hq⟩ := dateSum?_sound h
      exact ⟨q, .date (by simpa using hne) hdate, hq⟩
  · next mark time hdrop =>
    rw [hdrop] at hsplit hhead
    subst hsplit
    -- what the date part ends at is a time mark
    have hmark : mark ∈ ['T', 't'] := by
      have hopens : isTimeMark mark = true := by simpa using hhead
      simpa [isTimeMark] using hopens
    -- a time part without components is refused by the reader
    have hne : time ≠ [] := by
      rintro rfl
      cases h
    rw [if_neg (by simpa using hne)] at h
    obtain ⟨days, hdays, h⟩ := Option.bind_eq_some_iff.1 h
    obtain ⟨seconds, hseconds, h⟩ := Option.bind_eq_some_iff.1 h
    obtain rfl := Option.some.inj h
    obtain ⟨q, hdate, hq⟩ := dateSum?_sound hdays
    obtain ⟨r, htime, hr⟩ := timeSum?_sound hseconds
    refine ⟨_, .time hdate hmark hne htime, ?_⟩
    push_cast
    rw [hq, hr]
    ring

/-- Every body of the language is read. -/
theorem components?_complete {body : List Char} {q : ℚ} (h : Body body q) :
    ∃ n, components? body = some n ∧ (n : ℚ) = q * 10 ^ 9 := by
  -- the time part begins at the first time mark, and there is none in the date part
  have hnone : ∀ {date : List Char} {days : ℚ}, Components DateUnit date days →
      ∀ c ∈ date, (!isTimeMark c) = true := by
    intro date days hdate c hc
    rcases hdate.cases_mem c hc with hnumeral | ⟨n, hunit⟩
    · simp [(not_blank_of_isNumeral hnumeral).1]
    · simp [hunit.letter.2.1]
  cases h with
  | date hne hdate =>
    obtain ⟨n, hn, hq⟩ := dateSum?_complete hdate
    refine ⟨n, ?_, hq⟩
    have htake : body.takeWhile (!isTimeMark ·) = body :=
      List.takeWhile_eq_self_iff.2 (hnone hdate)
    have hdrop : body.dropWhile (!isTimeMark ·) = [] := List.dropWhile_eq_nil_iff.2 (hnone hdate)
    simp [components?, htake, hdrop, hne, hn]
  | @time date time days seconds mark hdate hmark hne htime =>
    obtain ⟨n, hn, hq⟩ := dateSum?_complete hdate
    obtain ⟨k, hk, hr⟩ := timeSum?_complete htime
    refine ⟨n + k, ?_, ?_⟩
    -- the date part ends at the first time mark
    · have hopens : isTimeMark mark = true := by simpa [isTimeMark] using hmark
      have htake : (date ++ mark :: time).takeWhile (!isTimeMark ·) = date := by
        rw [List.takeWhile_append_of_pos (hnone hdate),
          List.takeWhile_cons_of_neg (by simp [hopens]), List.append_nil]
      have hdrop : (date ++ mark :: time).dropWhile (!isTimeMark ·) = mark :: time := by
        rw [List.dropWhile_append_of_pos (hnone hdate),
          List.dropWhile_cons_of_neg (by simp [hopens])]
      simp [components?, htake, hdrop, hne, hn, hk]
    · push_cast
      rw [hq, hr]
      ring

/-! ### The whole text -/

/-- The total of a body that is read is what the body denotes. -/
theorem body_of_components? {body : List Char} {total : Nat} (h : components? body = some total) :
    Body body (total / 10 ^ 9) := by
  obtain ⟨q, hq, heq⟩ := components?_sound h
  rw [heq]
  simpa using hq

/-- What comes after the sign, which decides how the total counts. -/
theorem unsigned_sound {negative : Bool} {unsigned : List Char} {n : Int}
    (h : (match unsigned with
      | 'P' :: body | 'p' :: body =>
        (components? body).map fun total => if negative then -(total : Int) else total
      | _ => none) = some n) :
    ∃ p body, ∃ total : Nat, unsigned = p :: body ∧ p ∈ ['P', 'p'] ∧
      Body body (total / 10 ^ 9) ∧ n = if negative then -(total : Int) else total := by
  split at h
  · next body =>
    obtain ⟨_, hcast, rfl⟩ := Option.map_eq_some_iff.1 h
    obtain ⟨total, htotal, heq⟩ := Option.bind_eq_some_iff.1 hcast
    obtain rfl := Option.some.inj heq
    exact ⟨'P', body, total, rfl, by simp, body_of_components? htotal, rfl⟩
  · next body =>
    obtain ⟨_, hcast, rfl⟩ := Option.map_eq_some_iff.1 h
    obtain ⟨total, htotal, heq⟩ := Option.bind_eq_some_iff.1 hcast
    obtain rfl := Option.some.inj heq
    exact ⟨'p', body, total, rfl, by simp, body_of_components? htotal, rfl⟩
  · cases h

/-- What is read with its sign is of the language. -/
theorem signedNanos?_sound {s : List Char} {n : Int} (h : signedNanos? s = some n) :
    Bare s (n / 10 ^ 9) := by
  unfold signedNanos? splitSign at h
  split at h
  next negative unsigned heq =>
  -- a sign of either kind, or none
  split at heq
  · next rest =>
    obtain ⟨rfl, rfl⟩ := Prod.mk.inj heq
    obtain ⟨p, body, total, rfl, hp, htotal, rfl⟩ := unsigned_sound h
    have hminus := Bare.minus hp htotal
    simpa [neg_div] using hminus
  · next rest =>
    obtain ⟨rfl, rfl⟩ := Prod.mk.inj heq
    obtain ⟨p, body, total, rfl, hp, htotal, rfl⟩ := unsigned_sound h
    simpa using Bare.plus hp htotal
  · obtain ⟨rfl, rfl⟩ := Prod.mk.inj heq
    obtain ⟨p, body, total, rfl, hp, htotal, rfl⟩ := unsigned_sound h
    simpa using Bare.unsigned hp htotal

/-- Every text of the language without blanks around it is read. -/
theorem signedNanos?_complete {s : List Char} {q : ℚ} (h : Bare s q) :
    ∃ n, signedNanos? s = some n ∧ (n : ℚ) = q * 10 ^ 9 := by
  cases h with
  | unsigned hp hbody =>
    obtain ⟨n, hn, hq⟩ := components?_complete hbody
    rcases (by simpa using hp : _ = 'P' ∨ _ = 'p') with rfl | rfl
    all_goals exact ⟨n, by simp [signedNanos?, splitSign, hn], by simpa using hq⟩
  | plus hp hbody =>
    obtain ⟨n, hn, hq⟩ := components?_complete hbody
    rcases (by simpa using hp : _ = 'P' ∨ _ = 'p') with rfl | rfl
    all_goals exact ⟨n, by simp [signedNanos?, splitSign, hn], by simpa using hq⟩
  | minus hp hbody =>
    obtain ⟨n, hn, hq⟩ := components?_complete hbody
    rcases (by simpa using hp : _ = 'P' ∨ _ = 'p') with rfl | rfl
    all_goals exact ⟨-n, by simp [signedNanos?, splitSign, hn], by simp [hq]⟩

/-- There is no blank in a text of the language. -/
theorem Bare.not_blank {s : List Char} {q : ℚ} (h : Bare s q) :
    ∀ c ∈ s, Text.isBlank c = false := by
  -- neither the units nor the numerals nor the marks are blank
  have hdate : ∀ {date : List Char} {days : ℚ}, Components DateUnit date days →
      ∀ c ∈ date, Text.isBlank c = false := by
    intro date days hdate c hc
    rcases hdate.cases_mem c hc with hnumeral | ⟨n, hunit⟩
    · exact (not_blank_of_isNumeral hnumeral).2
    · exact hunit.letter.2.2
  have htime : ∀ {time : List Char} {seconds : ℚ}, Components TimeUnit time seconds →
      ∀ c ∈ time, Text.isBlank c = false := by
    intro time seconds htime c hc
    rcases htime.cases_mem c hc with hnumeral | ⟨n, hunit⟩
    · exact (not_blank_of_isNumeral hnumeral).2
    · exact hunit.letter.2
  have hbody : ∀ {p : Char} {body : List Char} {seconds : ℚ}, p ∈ ['P', 'p'] → Body body seconds →
      ∀ c ∈ p :: body, Text.isBlank c = false := by
    intro p body seconds hp hbody c hc
    -- the `P`, or a character of either part
    rcases List.mem_cons.1 hc with rfl | hc
    · rcases (by simpa using hp : c = 'P' ∨ c = 'p') with rfl | rfl <;> rfl
    · cases hbody with
      | date _ hdays => exact hdate hdays c hc
      | time hdays hmark _ hseconds =>
        simp only [List.mem_append, List.mem_cons] at hc
        rcases hc with hc | rfl | hc
        · exact hdate hdays c hc
        · rcases (by simpa using hmark : c = 'T' ∨ c = 't') with rfl | rfl <;> rfl
        · exact htime hseconds c hc
  intro c hc
  cases h with
  | unsigned hp hseconds => exact hbody hp hseconds c hc
  | plus hp hseconds =>
    rcases List.mem_cons.1 hc with rfl | hc
    · rfl
    · exact hbody hp hseconds c hc
  | minus hp hseconds =>
    rcases List.mem_cons.1 hc with rfl | hc
    · rfl
    · exact hbody hp hseconds c hc

/-- What is around a text without blanks is trimmed off. -/
theorem trim_append {front s back : List Char} (hfront : ∀ c ∈ front, Text.isBlank c = true)
    (hback : ∀ c ∈ back, Text.isBlank c = true) (hs : ∀ c ∈ s, Text.isBlank c = false)
    (hne : s ≠ []) : Text.trim (front ++ s ++ back) = s := by
  -- both ends go in the same way, the one at the back in reverse
  have hdrop : ∀ {blanks t rest : List Char}, (∀ c ∈ blanks, Text.isBlank c = true) →
      (∀ c ∈ t, Text.isBlank c = false) → t ≠ [] →
      (blanks ++ (t ++ rest)).dropWhile Text.isBlank = t ++ rest := by
    intro blanks t rest hblanks ht hne
    obtain ⟨c, t, rfl⟩ := List.exists_cons_of_ne_nil hne
    rw [List.dropWhile_append_of_pos hblanks, List.cons_append,
      List.dropWhile_cons_of_neg (by simp [ht c])]
  have hreverse : (s ++ back).reverse = back.reverse ++ (s.reverse ++ []) := by simp
  rw [Text.trim, List.append_assoc, hdrop hfront hs hne, Text.trimEnd, hreverse,
    hdrop (by simpa using hback) (by simpa using hs) (by simpa using hne)]
  simp

/-- The reader accepts the language within its range, and nothing else. -/
theorem parse?_eq_some_iff {text : String} {d : Span} :
    parse? text.toList = some d ↔ Denotes text d := by
  constructor
  · intro h
    obtain ⟨n, hn, hspan⟩ := Option.bind_eq_some_iff.1 h
    split at hspan
    -- what has been trimmed off is blank
    · next hreach =>
      obtain rfl := Span.ofNanos?_eq_some_iff.1 hspan
      obtain ⟨front, back, htext, hfront, hback⟩ := Text.trim_append_blank text.toList
      obtain ⟨hlow, hhigh⟩ := inReach_iff.1 hreach
      exact ⟨front, _, back, htext, hfront, hback, signedNanos?_sound hn, by omega, by omega⟩
    · exact nomatch hspan
  · rintro ⟨front, bare, back, htext, hfront, hback, hbare, hlow, hhigh⟩
    -- there is a `P` in any case, so what is left after trimming is not empty
    have hne : bare ≠ [] := by
      rintro rfl
      exact nomatch hbare
    obtain ⟨n, hn, hq⟩ := signedNanos?_complete hbare
    -- both numbers are whole, so the reader's is that of the grammar
    obtain rfl : n = d.nanos := by
      rw [div_mul_cancel₀ _ (by norm_num)] at hq
      exact_mod_cast hq
    have hreach : inReach d.nanos = true := inReach_iff.2 ⟨by omega, by omega⟩
    have htrim : Text.trim text.toList = bare := by
      rw [htext]
      exact trim_append hfront hback hbare.not_blank hne
    simp [parse?, htrim, hn, hreach]

end Outbox.Time.Duration

namespace Outbox

open Time

/-- The reader of durations accepts exactly the texts of the language whose sum is a signed 64-bit
number of nanoseconds, with that sum. Every other text is refused, and named in the refusal. -/
theorem readDuration_language (text : String) :
    (∀ d, readDuration text = .ok d ↔ Duration.Denotes text d) ∧
      (readDuration text = .error (.badDuration text) ↔ ∀ d, ¬ Duration.Denotes text d) := by
  have hok : ∀ d, readDuration text = .ok d ↔ Duration.Denotes text d := by
    intro d
    rw [← Duration.parse?_eq_some_iff]
    unfold readDuration
    cases Duration.parse? text.toList with
    | none => simp
    | some e => simp
  -- the reader has two answers only, so one half gives the other
  refine ⟨hok, ?_⟩
  constructor
  · intro herror d hdenotes
    exact nomatch herror.symm.trans ((hok d).2 hdenotes)
  · intro hnone
    unfold readDuration
    split
    · next d hparse => exact absurd (Duration.parse?_eq_some_iff.1 hparse) (hnone d)
    · rfl

/-- Components come in any order and may be repeated, and each may have a fraction. -/
example : readDuration " -P1D1WT5.M,25S1M " = .ok { nanos := -691560250000000 } := by rfl

end Outbox
