import Outbox.Text.Blank
import Outbox.Time.Calendar
import Outbox.Time.Instant

/-!
# Instants as text

Instants are written as RFC 3339 asks, in UTC and with six digits of the second; what lies behind
the microseconds is cut off. Years beyond four digits, or before year 0, carry a sign.

Reading takes the date, one of `T`, `t` and a blank, the time with any number of digits behind
the point (nine of them count), and `Z`, `z` or an offset with hours below 24. Second 60 is a
leap second of any minute.
-/

namespace Outbox.Time.Timestamp

/-- Decimal digits with zeros in front, `width` of them or more. -/
def padded (width n : Nat) : List Char := (Nat.toDigits 10 n).leftpad width '0'

/-- Four digits, or a sign and at least four. -/
def renderYear (year : Int) : List Char :=
  if 0 ≤ year ∧ year ≤ 9999 then padded 4 year.toNat
  else (if year < 0 then '-' else '+') :: padded 4 year.natAbs

/-- The written form of an instant. -/
def render (t : Instant) : List Char :=
  let date := dateOfDay (t.seconds / 86400)
  let ofDay := t.secondOfDay.toNat
  let second := ofDay % 60 + t.nanos / nanosPerSecond
  renderYear date.year ++ '-' :: padded 2 date.month ++ '-' :: padded 2 date.day ++
    'T' :: padded 2 (ofDay / 3600) ++ ':' :: padded 2 (ofDay / 60 % 60) ++
    ':' :: padded 2 second ++ '.' :: padded 6 (t.nanos % nanosPerSecond / 1000) ++ ['Z']

/-- The written form of an instant as a text. -/
def format (t : Instant) : String := String.ofList (render t)

/-- Takes exactly `width` digits off the front. -/
def takeDigits? (width : Nat) (s : List Char) : Option (Nat × List Char) :=
  let digits := s.take width
  if digits.length = width ∧ digits.all Char.isDigit then
    some (Nat.ofDigitChars 10 digits 0, s.drop width)
  else none

/-- Takes a character that satisfies `p` off the front. -/
def takeMark? (p : Char → Bool) : List Char → Option (List Char)
  | [] => none
  | c :: rest => if p c then some rest else none

/-- The nanoseconds behind the seconds: nothing, or a point and at least one digit. Digits after
the ninth do not count. -/
def takeFraction? : List Char → Option (Nat × List Char)
  | '.' :: rest =>
    let digits := rest.takeWhile Char.isDigit
    if digits.isEmpty then none
    else
      let counted := digits.take 9
      some (Nat.ofDigitChars 10 counted 0 * Nat.pow 10 (9 - counted.length),
        rest.dropWhile Char.isDigit)
  | s => some (0, s)

/-- The sign of an offset: minus may also be the mathematical sign U+2212. -/
def takeSign? : List Char → Option (Int × List Char)
  | '+' :: rest => some (1, rest)
  | '-' :: rest => some (-1, rest)
  | '−' :: rest => some (-1, rest)
  | _ => none

/-- Seconds by which the written time runs before UTC. -/
def takeOffset? : List Char → Option (Int × List Char)
  | 'Z' :: rest | 'z' :: rest => some (0, rest)
  | s => do
    let (sign, s) ← takeSign? s
    let (hours, s) ← takeDigits? 2 s
    let s ← takeMark? (· == ':') s
    let (minutes, s) ← takeDigits? 2 s
    if hours < 24 ∧ minutes < 60 then
      some (sign * (hours * 3600 + minutes * 60 : Nat), s)
    else none

/-- The instant that a text without blanks around it denotes. -/
def parseBare? (s : List Char) : Option Instant := do
  let (year, s) ← takeDigits? 4 s
  let s ← takeMark? (· == '-') s
  let (month, s) ← takeDigits? 2 s
  let s ← takeMark? (· == '-') s
  let (day, s) ← takeDigits? 2 s
  let s ← takeMark? (fun c => c == 'T' || c == 't' || c == ' ') s
  let (hour, s) ← takeDigits? 2 s
  let s ← takeMark? (· == ':') s
  let (minute, s) ← takeDigits? 2 s
  let s ← takeMark? (· == ':') s
  let (second, s) ← takeDigits? 2 s
  let (nanos, s) ← takeFraction? s
  let (offset, s) ← takeOffset? s
  let date ← dayOfDate? ⟨year, month, day⟩
  if s.isEmpty ∧ hour < 24 ∧ minute < 60 ∧ second ≤ 60 then
    -- second 60 is second 59 with its nanoseconds run on
    let leap := second = 60
    let local_ := date * 86400 + (hour * 3600 + minute * 60 + (if leap then 59 else second) : Nat)
    Instant.ofParts? (local_ - offset) (nanos + if leap then nanosPerSecond else 0)
  else none

/-- The instant that the text denotes. -/
def parse? (s : List Char) : Option Instant := parseBare? (Text.trim s)

end Outbox.Time.Timestamp
