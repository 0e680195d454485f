/-!
# JSON tokens

A text is cut into the tokens of JSON from left to right. A token that a reader wants and one
that a reader skips are judged differently: a surrogate without its partner, or a number beyond
the largest double, is no value, but it can be skipped; a number cut off by the end of the text is
only known to be incomplete when it is read. So a token carries what it means to read it and what
it means to skip it, and nothing is a fault before a reader gets there.
-/

namespace Outbox.Json

/-- Why a text does not hold the value that is asked for. -/
inductive Fault where
  /-- The text is not JSON. -/
  | malformed
  /-- It is JSON so far, but of another shape. -/
  | mismatched
  /-- The text ends too early. -/
  | truncated
deriving DecidableEq, Repr

/-- A token, with what it means to read it and to skip it. -/
inductive Token where
  | openObject
  | closeObject
  | openArray
  | closeArray
  | comma
  | colon
  | null
  | boolean (value : Bool)
  | text (read : Except Fault String) (skipped : Except Fault Unit)
  | number (read skipped : Except Fault Unit)
  | broken (fault : Fault)

/-- The value of a hexadecimal digit. -/
def hexDigit? (c : Char) : Option Nat :=
  if c.isDigit then some (c.toNat - '0'.toNat)
  else if 'a' ≤ c ∧ c ≤ 'f' then some (c.toNat - 'a'.toNat + 10)
  -- letters of either case
  else if 'A' ≤ c ∧ c ≤ 'F' then some (c.toNat - 'A'.toNat + 10)
  else none

/-- The value of four hexadecimal digits. -/
def hexUnit? (a b c d : Char) : Option Nat := do
  some (((← hexDigit? a) * 16 + (← hexDigit? b)) * 256 + (← hexDigit? c) * 16 + (← hexDigit? d))

/-- What is wrong where four hexadecimal digits should stand: too little is left of the text, in
bytes, or it is something else. -/
def hexFault (s : List Char) : Fault :=
  if s.foldl (fun n c => n + c.utf8Size) 0 < 4 then .truncated else .malformed

/-- The character that a backslash and a letter stand for. -/
def escaped? : Char → Option Char
  | '"' => some '"'
  | '\\' => some '\\'
  | '/' => some '/'
  | 'b' => some '\x08'
  | 'f' => some '\x0c'
  | 'n' => some '\n'
  | 'r' => some '\r'
  | 't' => some '\t'
  | _ => none

/-- What follows the closing quote of a string that is skipped. -/
def skipText : List Char → Except Fault (List Char)
  | [] => .error .truncated
  | '"' :: rest => .ok rest
  -- an escape of a code point needs its digits also where it is skipped, but no partner
  | '\\' :: 'u' :: a :: b :: c :: d :: rest =>
    if (hexUnit? a b c d).isSome then skipText rest else .error .malformed
  | '\\' :: 'u' :: rest => .error (hexFault rest)
  | '\\' :: c :: rest => if (escaped? c).isSome then skipText rest else .error .malformed
  | c :: rest =>
    if c = '\\' then .error .truncated
    else if c.toNat < 0x20 then .error .malformed
    else skipText rest

/-- Whether a unit is the first or the second of a pair of surrogates. -/
def isLeading (n : Nat) : Bool := 0xD800 ≤ n && n ≤ 0xDBFF

@[inherit_doc isLeading] def isTrailing (n : Nat) : Bool := 0xDC00 ≤ n && n ≤ 0xDFFF

/-- The code point of a pair of surrogates. -/
def pairValue (leading trailing : Nat) : Nat :=
  (leading - 0xD800) * 0x400 + (trailing - 0xDC00) + 0x10000

/-- What is wrong behind a leading surrogate whose partner is not there. -/
def partnerFault : List Char → Fault
  | [] => .truncated
  | '\\' :: [] => .truncated
  | '\\' :: 'u' :: rest => hexFault rest
  | _ => .malformed

/-- The characters of a string up to its closing quote. -/
def readText : List Char → Except Fault (List Char)
  | [] => .error .truncated
  | '"' :: _ => .ok []
  | '\\' :: 'u' :: a :: b :: c :: d :: rest =>
    match hexUnit? a b c d with
    | none => .error .malformed
    | some n =>
      -- a second half cannot come first
      if isTrailing n then .error .malformed
      else if isLeading n then
        -- the first half needs the second one right behind it
        match rest with
        | '\\' :: 'u' :: e :: f :: g :: h :: rest =>
          match hexUnit? e f g h with
          | none => .error .malformed
          | some m =>
            if isTrailing m then (readText rest).map (Char.ofNat (pairValue n m) :: ·)
            else .error .malformed
        | rest => .error (partnerFault rest)
      else (readText rest).map (Char.ofNat n :: ·)
  | '\\' :: 'u' :: rest => .error (hexFault rest)
  | '\\' :: c :: rest =>
    match escaped? c with
    | some e => (readText rest).map (e :: ·)
    | none => .error .malformed
  | c :: rest =>
    -- a backslash at the very end
    if c = '\\' then .error .truncated
    -- control characters must be escaped
    else if c.toNat < 0x20 then .error .malformed
    else (readText rest).map (c :: ·)

/-- The token of a string whose opening quote has been taken. -/
def scanText (s : List Char) : Token × List Char :=
  let read := (readText s).map String.ofList
  match skipText s with
  | .ok rest => (.text read (.ok ()), rest)
  -- nobody gets past a fault, so no tokens are needed behind it
  | .error fault => (.text read (.error fault), [])

/-- Takes the rest of a word whose first letter has been taken. -/
def scanWord (token : Token) : List Char → List Char → Token × List Char
  | [], s => (token, s)
  | _ :: _, [] => (.broken .truncated, [])
  | e :: es, c :: s => if c = e then scanWord token es s else (.broken .malformed, [])

/-- A number that lacks a digit in front of the given rest: incomplete at the end of the text
when it is read, malformed when it is skipped or when something else follows. -/
def missingDigit (s : List Char) : Token × List Char :=
  (.number (.error (if s.isEmpty then .truncated else .malformed)) (.error .malformed), [])

/-- The double nearest to a natural number, of two the one with the even last digit, for numbers
up to the largest double. -/
def nearestDouble (n : Nat) : Nat :=
  -- doubles have 53 binary digits; a unit is worth the last of them
  let unit := Nat.pow 2 (n.log2 - 52)
  let below := n / unit
  let excess := 2 * (n % unit)
  if excess < unit ∨ excess = unit ∧ below % 2 = 0 then below * unit else (below + 1) * unit

/-- The smallest number that rounds to no finite double. -/
def doubleBound : Nat := Nat.pow 2 1024 - Nat.pow 2 970

/-- A decimal number: its digits as a number of 64 bits, times a power of ten. -/
structure Decimal where
  digits : Nat
  exponent : Int
deriving DecidableEq, Repr

namespace Decimal

/-- Takes digits as long as the number has 64 bits, and gives those that are left. -/
def takeFitting (digits : Nat) : List Char → Nat × List Char
  | [] => (digits, [])
  | c :: rest =>
    let longer := digits * 10 + (c.toNat - '0'.toNat)
    if longer < UInt64.size then takeFitting longer rest else (digits, c :: rest)

/-- The number of the digits before the point. Those that do not fit count as zeros. -/
def ofWhole (whole : List Char) : Decimal :=
  let (digits, left) := takeFitting 0 whole
  ⟨digits, left.length⟩

/-- The number with digits behind the point. Those that do not fit do not count. -/
def addFraction (d : Decimal) (fraction : List Char) : Decimal :=
  let (digits, left) := takeFitting d.digits fraction
  ⟨digits, d.exponent - (fraction.length - left.length : Nat)⟩

/-- The number with its point moved. -/
def scale (d : Decimal) (power : Int) : Decimal := { d with exponent := d.exponent + power }

/-- Whether the number lies beyond the doubles: digits and power of ten are each taken to the
nearest double, and then multiplied. -/
def isHuge (d : Decimal) : Bool :=
  -- a fraction is never beyond the doubles, whatever its digits
  if d.digits = 0 ∨ d.exponent < 0 then false
  -- ten to this power is beyond the doubles itself
  else if 308 < d.exponent then true
  else decide (doubleBound ≤ nearestDouble d.digits * nearestDouble (Nat.pow 10 d.exponent.toNat))

/-- The token of a complete number. -/
def token (d : Decimal) : Token := .number (if d.isHuge then .error .malformed else .ok ()) (.ok ())

end Decimal

/-- Takes the digits of an exponent, behind its mark and its sign. -/
def scanExponentDigits (d : Decimal) (negative : Bool) (s : List Char) : Token × List Char :=
  let power := s.takeWhile Char.isDigit
  let rest := s.dropWhile Char.isDigit
  if power.isEmpty then missingDigit rest
  else
    let value : Int := Nat.ofDigitChars 10 power 0
    ((d.scale (if negative then -value else value)).token, rest)

/-- Takes the sign of an exponent and what follows it. -/
def scanExponent (d : Decimal) : List Char → Token × List Char
  | '+' :: rest => scanExponentDigits d false rest
  | '-' :: rest => scanExponentDigits d true rest
  | s => scanExponentDigits d false s

/-- Takes an exponent, if there is one. -/
def scanExponent? (d : Decimal) : List Char → Token × List Char
  | 'e' :: rest => scanExponent d rest
  | 'E' :: rest => scanExponent d rest
  | s => (d.token, s)

/-- Takes what follows the whole part of a number. -/
def scanFraction (whole : List Char) : List Char → Token × List Char
  | '.' :: s =>
    let fraction := s.takeWhile Char.isDigit
    let rest := s.dropWhile Char.isDigit
    if fraction.isEmpty then missingDigit rest
    else scanExponent? ((Decimal.ofWhole whole).addFraction fraction) rest
  | s => scanExponent? (Decimal.ofWhole whole) s

/-- The token of a number whose sign has been taken. -/
def scanNumber (s : List Char) : Token × List Char :=
  let whole := s.takeWhile Char.isDigit
  let rest := s.dropWhile Char.isDigit
  match whole with
  | [] => missingDigit rest
  -- a zero in front of other digits
  | '0' :: _ :: _ => (.number (.error .malformed) (.error .malformed), [])
  | whole => scanFraction whole rest

/-- The token that starts with the character `c`, and what follows it. -/
def scan (c : Char) (rest : List Char) : Token × List Char :=
  match c with
  | '\x7b' => (.openObject, rest)
  | '\x7d' => (.closeObject, rest)
  | '[' => (.openArray, rest)
  | ']' => (.closeArray, rest)
  | ',' => (.comma, rest)
  | ':' => (.colon, rest)
  | '"' => scanText rest
  | 'n' => scanWord .null ['u', 'l', 'l'] rest
  | 't' => scanWord (.boolean true) ['r', 'u', 'e'] rest
  | 'f' => scanWord (.boolean false) ['a', 'l', 's', 'e'] rest
  | '-' => scanNumber rest
  -- anything else starts no token
  | c => if c.isDigit then scanNumber (c :: rest) else (.broken .malformed, [])

/-- Whether the character may stand between tokens. -/
def isSpace (c : Char) : Bool := c == ' ' || c == '\n' || c == '\t' || c == '\r'

/-- The tokens of a text, in up to `fuel` characters. -/
def tokensWithin : Nat → List Char → List Token
  | 0, _ => []
  | _ + 1, [] => []
  | fuel + 1, c :: rest =>
    -- blanks separate tokens and are none
    if isSpace c then tokensWithin fuel rest
    else
      let (token, rest) := scan c rest
      token :: tokensWithin fuel rest

/-- The tokens of a text. -/
def tokens (s : String) : List Token := tokensWithin s.length s.toList

end Outbox.Json
