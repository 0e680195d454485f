import Outbox.Text.Blank
import Outbox.Time.Span

/-!
# Durations as text

Spans are written in the duration form of ISO 8601, always as seconds: `PT15S`, `PT0.5S`,
`-PT10S`. Reading accepts more: weeks, days, hours, minutes and seconds, in any order within the
date part and within the time part, each number with up to nine digits after a point or a comma,
one sign in front, and blanks around the whole.

Numbers are exact: a component is a whole number of nanoseconds, and a sum is refused only when
it is not a signed 64-bit number of nanoseconds. They have no bound here. Where they are kept in 128
bits, a number beyond these is an error of the program or wraps around; texts with such numbers are
refused here, and no text that is accepted comes near (`le_of_mem_textNumbers`).
-/

namespace Outbox.Time.Duration

/-- Whether the character can stand in a number. -/
def isNumeral (c : Char) : Bool := c.isDigit || c == '.' || c == ','

/-- The value of decimal digits. -/
def digitsValue (s : List Char) : Nat := Nat.ofDigitChars 10 s 0

/-- The value of up to nine digits after the mark, in thousand-millionths. -/
def fractionValue (s : List Char) : Nat := digitsValue s * Nat.pow 10 (9 - s.length)

/-- The value of a number, in thousand-millionths: digits, then at most one mark and at most nine
digits behind it, with a digit somewhere. There is no greatest number. -/
def number? (s : List Char) : Option Nat :=
  let whole := s.takeWhile Char.isDigit
  match s.dropWhile Char.isDigit with
  | [] => if whole.isEmpty then none else some (digitsValue whole * 1000000000)
  | _ :: fraction =>
    if whole.isEmpty && fraction.isEmpty then none
    else if 9 < fraction.length || !fraction.all Char.isDigit then none
    else some (digitsValue whole * 1000000000 + fractionValue fraction)

/-- Reads components one after the other: `pending` holds the numerals read so far, the last in
front, and every other character must be a unit that closes a number. The result is in
nanoseconds. -/
def componentSum? (unit : Char → Option Nat) : List Char → List Char → Option Nat
  | pending, [] => if pending.isEmpty then some 0 else none
  | pending, c :: rest =>
    if isNumeral c then componentSum? unit (c :: pending) rest
    else do
      let seconds ← unit c
      let value ← number? pending.reverse
      let total ← componentSum? unit [] rest
      some (value * seconds + total)

/-- Seconds in a unit of the date part. -/
def dateUnit : Char → Option Nat
  | 'W' | 'w' => some 604800
  | 'D' | 'd' => some 86400
  | _ => none

/-- Seconds in a unit of the time part. -/
def timeUnit : Char → Option Nat
  | 'H' | 'h' => some 3600
  | 'M' | 'm' => some 60
  | 'S' | 's' => some 1
  | _ => none

/-- Whether the character opens the time part. -/
def isTimeMark (c : Char) : Bool := c == 'T' || c == 't'

/-- The sum of the components behind the `P`. -/
def components? (body : List Char) : Option Nat :=
  let date := body.takeWhile (!isTimeMark ·)
  match body.dropWhile (!isTimeMark ·) with
  | [] => if body.isEmpty then none else componentSum? dateUnit [] date
  | _ :: time => do
    if time.isEmpty then none
    let days ← componentSum? dateUnit [] date
    let seconds ← componentSum? timeUnit [] time
    some (days + seconds)

/-- The sign in front, and what follows it. -/
def splitSign : List Char → Bool × List Char
  | '-' :: rest => (true, rest)
  | '+' :: rest => (false, rest)
  | s => (false, s)

/-- The signed sum that a text without blanks around it denotes, in nanoseconds. -/
def signedNanos? (s : List Char) : Option Int :=
  let (negative, unsigned) := splitSign s
  match unsigned with
  | 'P' :: body | 'p' :: body =>
    (components? body).map fun total => if negative then -(total : Int) else total
  | _ => none

/-- The range of a duration that is read: a signed 64-bit number of nanoseconds. -/
def inReach (n : Int) : Bool :=
  decide (-9223372036854775808 ≤ n ∧ n ≤ 9223372036854775807)

/-- The span that the text denotes. -/
def parse? (s : List Char) : Option Span := do
  let n ← signedNanos? (Text.trim s)
  if inReach n then Span.ofNanos? n else none

/-- The digits behind the point: nine of them, less the zeros at the end. -/
def fractionDigits (nanos : Nat) : List Char :=
  ((((Nat.toDigits 10 nanos).leftpad 9 '0').reverse).dropWhile (· == '0')).reverse

/-- The magnitude in seconds, with a fraction only where there is one. -/
def renderSeconds (magnitude : Nat) : List Char :=
  let fraction := magnitude % 1000000000
  Nat.toDigits 10 (magnitude / 1000000000) ++
    (if fraction = 0 then [] else '.' :: fractionDigits fraction)

/-- The written form of a span. -/
def render (d : Span) : List Char :=
  (if d.nanos < 0 then ['-'] else []) ++ ['P', 'T'] ++ renderSeconds d.nanos.natAbs ++ ['S']

/-- The written form of a span as a text. -/
def format (d : Span) : String := String.ofList (render d)

end Outbox.Time.Duration
