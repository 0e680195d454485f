import Outbox.Store.Record

/-!
# The binary form of values

How values are kept as bytes: in message bodies, and where a store keeps records. The form of a
value says itself where it ends, so forms can stand one behind the other.

The bytes are not those of a format in use. They stand for the output of the serializer that a
program is given, of which two things are relied on: what was encoded is read back, and no bytes
hold no value. Typed bodies are made and read with them (`Draft.ofValue`, `Message.value?`). What is
proved of stores that keep records encoded (`Outbox.Proofs.Paths`) is proved for any encoding that
is read back, and the form given here is the instance.

* `decode_encode`  what was encoded is read back
* `decode_nil`     no value has an empty form
-/

namespace Outbox

/-- A type whose values have a binary form. -/
class Binary (α : Type) where
  /-- The form of a value. -/
  put : α → List UInt8
  /-- Takes the form of a value off the front. -/
  take : List UInt8 → Option (α × List UInt8)
  -- no form is empty, so whoever reads a value reads at least one byte
  take_nil : take [] = none
  take_put : ∀ a rest, take (put a ++ rest) = some (a, rest)

namespace Binary

/-- The bytes of a value. -/
def encode {α : Type} [Binary α] (a : α) : List UInt8 := put a

/-- The value that bytes hold, if they hold one and nothing else. -/
def decode {α : Type} [Binary α] (bytes : List UInt8) : Option α :=
  match take bytes with
  | some (a, []) => some a
  | _ => none

/-- What was encoded is read back, whatever the type. -/
theorem decode_encode {α : Type} [Binary α] (a : α) : decode (encode a) = some a := by
  have h := take_put a []
  rw [List.append_nil] at h
  simp [decode, encode, h]

/-- No bytes are the form of no value: an empty body holds nothing. -/
theorem decode_nil {α : Type} [Binary α] : (decode [] : Option α) = none := by
  simp [decode, take_nil]

/-- A natural number in groups of seven bits, the lowest first; the highest bit of a byte says
that another follows. -/
def putNat (n : Nat) : List UInt8 :=
  if n < 128 then [UInt8.ofNat n] else UInt8.ofNat (n % 128 + 128) :: putNat (n / 128)
termination_by n
decreasing_by omega

/-- Takes a natural number off the front. -/
def takeNat : List UInt8 → Option (Nat × List UInt8)
  | [] => none
  | b :: rest =>
    if b.toNat < 128 then some (b.toNat, rest)
    else (takeNat rest).map fun (n, rest) => (b.toNat - 128 + 128 * n, rest)

/-- A natural number is read back, and what stands behind its form is left. -/
theorem takeNat_putNat (n : Nat) (rest : List UInt8) :
    takeNat (putNat n ++ rest) = some (n, rest) := by
  induction n using Nat.strongRecOn with
  | ind n ih =>
    unfold putNat
    split
    -- one byte holds the number, and its highest bit is not set
    · next h =>
      simp only [List.cons_append, List.nil_append, takeNat, UInt8.toNat_ofNat']
      rw [Nat.mod_eq_of_lt (by omega), if_pos h]
    -- the first byte announces another, and the induction reads the quotient
    · next h =>
      have hb : (n % 128 + 128) % 2 ^ 8 = n % 128 + 128 := Nat.mod_eq_of_lt (by omega)
      simp only [List.cons_append, takeNat, UInt8.toNat_ofNat', hb]
      rw [if_neg (by omega), ih (n / 128) (by omega)]
      simp only [Option.map_some, Option.some.injEq, Prod.mk.injEq, and_true]
      omega

instance : Binary Nat := ⟨putNat, takeNat, rfl, takeNat_putNat⟩

instance : Binary UInt8 where
  put b := [b]
  take
    | [] => none
    | b :: rest => some (b, rest)
  take_nil := rfl
  take_put _ _ := rfl

/-- The form of one type on another that holds its values. -/
@[reducible] def via {α β : Type} [Binary α] (wrap : α → β) (unwrap : β → α)
    (wrap_unwrap : ∀ b, wrap (unwrap b) = b) : Binary β where
  put b := put (unwrap b)
  take bytes := (take bytes).map fun (a, rest) => (wrap a, rest)
  take_nil := by simp [take_nil]
  take_put b rest := by simp [take_put, wrap_unwrap]

instance {α β : Type} [Binary α] [Binary β] : Binary (α × β) where
  put p := put p.1 ++ put p.2
  take bytes := do
    let (a, bytes) ← take bytes
    let (b, bytes) ← take bytes
    some ((a, b), bytes)
  take_nil := by simp [take_nil]
  take_put p rest := by simp [List.append_assoc, take_put]

/-- Takes values off the front, a given number of them. -/
def takeMany {α : Type} [Binary α] : Nat → List UInt8 → Option (List α × List UInt8)
  | 0, bytes => some ([], bytes)
  | n + 1, bytes => do
    let (a, bytes) ← take bytes
    let (rest, bytes) ← takeMany n bytes
    some (a :: rest, bytes)

/-- As many values as were put are taken back. -/
theorem takeMany_flatMap {α : Type} [Binary α] (l : List α) (rest : List UInt8) :
    takeMany l.length (l.flatMap put ++ rest) = some (l, rest) := by
  induction l with
  | nil => rfl
  | cons a l ih => simp [takeMany, List.append_assoc, take_put, ih]

instance {α : Type} [Binary α] : Binary (List α) where
  put l := put l.length ++ l.flatMap put
  take bytes := do
    let (n, bytes) ← (take bytes : Option (Nat × List UInt8))
    takeMany n bytes
  take_nil := rfl
  take_put l rest := by simp [List.append_assoc, take_put, takeMany_flatMap]

instance : Binary Bool :=
  via (· != (0 : Nat)) (fun b => if b then 1 else 0) (by decide)

instance : Binary Char := via Char.ofNat Char.toNat Char.ofNat_toNat

instance : Binary String := via String.ofList String.toList fun _ => String.ofList_toList

instance : Binary Int :=
  via (fun (p : Bool × Nat) => if p.1 then -(p.2 : Int) else p.2)
    (fun n => (decide (n < 0), n.natAbs)) fun n => by
      dsimp only
      by_cases h : n < 0
      · rw [decide_eq_true h, if_pos rfl]
        omega
      · rw [decide_eq_false h, if_neg Bool.false_ne_true]
        omega

instance {α : Type} [Binary α] : Binary (Option α) :=
  via (fun (l : List α) => l.head?) Option.toList (by intro o; cases o <;> rfl)

/-- The headers that a list of pairs holds, when it holds all pairs of some headers. -/
theorem ofList_toList (m : Headers) : Std.ExtTreeMap.ofList m.toList = m := by
  apply Std.ExtTreeMap.ext_getElem?
  intro k
  -- a key that the headers have is among their pairs, and a key that they do not have is not
  cases h : m[k]? with
  | some v =>
    exact Std.ExtTreeMap.getElem?_ofList_of_mem Std.ReflCmp.compare_self
      Std.ExtTreeMap.distinct_keys_toList
      (Std.ExtTreeMap.mem_toList_iff_getElem?_eq_some.2 h)
  | none =>
    apply Std.ExtTreeMap.getElem?_ofList_of_contains_eq_false
    rw [← Bool.not_eq_true, List.contains_iff_mem, List.mem_map]
    rintro ⟨⟨k', v⟩, hmem, rfl⟩
    rw [Std.ExtTreeMap.mem_toList_iff_getElem?_eq_some, h] at hmem
    cases hmem

instance : Binary Headers :=
  via (fun (l : List (String × String)) => Std.ExtTreeMap.ofList l) Std.ExtTreeMap.toList
    ofList_toList

instance : Binary Destination :=
  via (fun (p : Bool × String) => if p.1 then .topic p.2 else .queue p.2)
    (fun | .queue name => (false, name) | .topic name => (true, name))
    (by intro d; cases d <;> rfl)

instance : Binary Message :=
  via (fun (p : String × Headers × Body) => ⟨p.1, p.2.1, p.2.2⟩)
    (fun m => (m.id, m.headers, m.body)) fun _ => rfl

instance : Binary Operation :=
  via (fun (p : Message × Destination × Option Nat) => ⟨p.1, p.2.1, p.2.2⟩)
    (fun op => (op.message, op.destination, op.delay)) fun _ => rfl

instance : Binary RecordedOperation :=
  via (fun (p : Operation × Bool) => ⟨p.1, p.2⟩) (fun op => (op.operation, op.dispatched))
    fun _ => rfl

instance : Binary Record :=
  via (fun (p : String × List RecordedOperation) => ⟨p.1, p.2⟩) (fun r => (r.id, r.operations))
    fun _ => rfl

end Binary

/-- A message whose body is the form of a value. -/
def Draft.ofValue {α : Type} [Binary α] (messageType : String) (a : α) : Draft :=
  { messageType, body := Binary.encode a }

/-- The value that a body holds, if it holds one and nothing else. -/
def Message.value? (α : Type) [Binary α] (m : Message) : Option α := Binary.decode m.body

end Outbox
