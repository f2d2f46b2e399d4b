/-!
# UTF-8

Reads bytes that need not be UTF-8. Starting from the left, a character extends over its first
byte and the bytes that this one asks for. Bytes that start no character, or that stop before
it is complete, are a fault. `firstFault?` finds the first one and where it stands, and `lossy`
puts the replacement character U+FFFD in the place of each.
-/

namespace TypedSql.Utf8

set_option autoImplicit false

/-- A range of bytes, both ends included. -/
abbrev ByteRange := Nat × Nat

/-- The bytes that continue a character, unless its first byte narrows them. -/
def continuation : ByteRange := (0x80, 0xBF)

/-- The bytes that have to follow the first byte of a character. The narrower ranges keep out
overlong forms, surrogates and numbers beyond U+10FFFF. -/
def continuations? (first : Nat) : Option (List ByteRange) :=
  if first < 0x80 then some []
  else if first < 0xC2 then none
  else if first < 0xE0 then some [continuation]
  else if first = 0xE0 then some [(0xA0, 0xBF), continuation]
  else if first = 0xED then some [(0x80, 0x9F), continuation]
  else if first < 0xF0 then some [continuation, continuation]
  else if first = 0xF0 then some [(0x90, 0xBF), continuation, continuation]
  else if first < 0xF4 then some [continuation, continuation, continuation]
  else if first = 0xF4 then some [(0x80, 0x8F), continuation, continuation]
  else none

/-- How many bytes lie in their ranges before the first that does not. -/
def fitting : List ByteRange → List UInt8 → Nat
  | (low, high) :: ranges, byte :: bytes =>
      if low ≤ byte.toNat ∧ byte.toNat ≤ high then fitting ranges bytes + 1 else 0
  | _, _ => 0

/-- What the first bytes are: a character of some length, a fault of some length, or the
beginning of a character at the end of the bytes. -/
inductive Extent where
  | complete (length : Nat)
  | invalid (length : Nat)
  | incomplete
deriving DecidableEq, Repr

/-- What a byte and the bytes after it begin with. -/
def extent (first : UInt8) (rest : List UInt8) : Extent :=
  match continuations? first.toNat with
  | none => .invalid 1
  | some ranges =>
      let count := fitting ranges rest
      if count = ranges.length then .complete (count + 1)
      else if count = rest.length then .incomplete
      else .invalid (count + 1)

/-- Where bytes stop being UTF-8, and over how many bytes. A character that the end cuts off
has no length. -/
structure Fault where
  index : Nat
  length : Option Nat
deriving DecidableEq, Repr

/-- The wording of a fault. -/
def Fault.message (fault : Fault) : String :=
  match fault.length with
  | some length => "invalid utf-8 sequence of " ++ toString length ++ " bytes from index " ++
      toString fault.index
  | none => "incomplete utf-8 byte sequence from index " ++ toString fault.index

/-- The first fault of bytes that begin at an index. -/
def firstFault? (index : Nat) : List UInt8 → Option Fault
  | [] => none
  | first :: rest =>
      match extent first rest with
      | .complete length => firstFault? (index + length) (rest.drop (length - 1))
      | .invalid length => some ⟨index, some length⟩
      | .incomplete => some ⟨index, none⟩
termination_by bytes => bytes.length
decreasing_by simp only [List.length_drop, List.length_cons]; omega

/-- The bytes with the replacement character for every fault. -/
def lossy : List UInt8 → List UInt8
  | [] => []
  | first :: rest =>
      match extent first rest with
      | .complete length => (first :: rest).take length ++ lossy (rest.drop (length - 1))
      | .invalid length => String.utf8EncodeChar '\uFFFD' ++ lossy (rest.drop (length - 1))
      | .incomplete => String.utf8EncodeChar '\uFFFD'
termination_by bytes => bytes.length
decreasing_by all_goals (simp only [List.length_drop, List.length_cons]; omega)

/-- The text of bytes that are UTF-8. -/
def text (bytes : List UInt8) : String := (String.fromUTF8? ⟨bytes.toArray⟩).getD ""

/-- The text of bytes, if they are UTF-8. -/
def decode (bytes : List UInt8) : Except Fault String :=
  match firstFault? 0 bytes with
  | some fault => .error fault
  | none => .ok (text bytes)

/-- The text of bytes with the replacement character for every fault. -/
def decodeLossy (bytes : List UInt8) : String := text (lossy bytes)

end TypedSql.Utf8
