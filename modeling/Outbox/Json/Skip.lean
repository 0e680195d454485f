import Outbox.Json.Token

/-!
# Skipping JSON values

A value that nobody asked for is passed over, however deep it nests, but it must be JSON. Each
token is looked at once: it moves a position, which is what must come next and what encloses it.
-/

namespace Outbox.Json

/-- What encloses the value that is being skipped. -/
inductive Frame where
  | object
  | array
deriving DecidableEq, Repr

/-- What must come next inside a value. -/
inductive Expect where
  | value
  /-- A value, or the end of an array that has just begun. -/
  | firstItem
  /-- A key, or the end of an object that has just begun. -/
  | firstKey
  | key
  | colon
  /-- A comma or the end of what encloses the value. -/
  | next
deriving DecidableEq, Repr

/-- What a token means where a value must start: it opens a frame, or it is a whole value. -/
def Token.start : Token → Except Fault (Option Frame)
  | openObject => .ok (some .object)
  | openArray => .ok (some .array)
  | null | boolean _ => .ok none
  | text _ skipped | number _ skipped => skipped.map fun _ => none
  | broken fault => .error fault
  | closeObject | closeArray | comma | colon => .error .malformed

/-- Whether the token ends the frame. -/
def Token.closes : Token → Frame → Bool
  | closeObject, .object | closeArray, .array => true
  | _, _ => false

/-- What must come first inside a frame. -/
def Frame.first : Frame → Expect
  | .object => .firstKey
  | .array => .firstItem

/-- What must come after a comma inside a frame. -/
def Frame.afterComma : Frame → Expect
  | .object => .key
  | .array => .value

/-- What must come next, and the frames around it, innermost first. -/
abbrev Position := Expect × List Frame

/-- Where a value that the frames enclose has ended: nowhere, if no frame is left. -/
def afterValue : List Frame → Option Position
  | [] => none
  | frames => some (.next, frames)

/-- Takes a token as a value or the start of one. -/
def takeValue (frames : List Frame) (t : Token) : Except Fault (Option Position) :=
  match t.start with
  | .error fault => .error fault
  | .ok (some frame) => .ok (some (frame.first, frame :: frames))
  | .ok none => .ok (afterValue frames)

/-- Takes a token as a key. -/
def takeKey (frames : List Frame) : Token → Except Fault (Option Position)
  | .text _ (.ok ()) => .ok (some (.colon, frames))
  | .text _ (.error fault) => .error fault
  | _ => .error .malformed

/-- The position behind a token, or `none` behind the last token of the whole value. -/
def advance : Expect → List Frame → Token → Except Fault (Option Position)
  | .value, frames, t => takeValue frames t
  | .firstItem, frame :: outer, t =>
    if t.closes frame then .ok (afterValue outer) else takeValue (frame :: outer) t
  | .firstKey, frame :: outer, t =>
    if t.closes frame then .ok (afterValue outer) else takeKey (frame :: outer) t
  | .key, frames, t => takeKey frames t
  | .colon, frames, .colon => .ok (some (.value, frames))
  | .next, frame :: outer, .comma => .ok (some (frame.afterComma, frame :: outer))
  | .next, frame :: outer, t => if t.closes frame then .ok (afterValue outer) else .error .malformed
  | .colon, _, _ | .firstItem, [], _ | .firstKey, [], _ | .next, [], _ => .error .malformed

/-- Passes over the rest of a value. -/
def skip : Expect → List Frame → List Token → Except Fault (List Token)
  | _, _, [] => .error .truncated
  | expect, frames, t :: rest =>
    match advance expect frames t with
    | .error fault => .error fault
    | .ok none => .ok rest
    | .ok (some (expect, frames)) => skip expect frames rest

/-- Passes over one value. -/
def skipValue (tokens : List Token) : Except Fault (List Token) := skip .value [] tokens

end Outbox.Json
