import TypedSql.Json.Number

/-!
# Reading JSON

A strict reader of the JSON grammar: blanks are spaces, tabs and line ends, there are no
comments and no trailing commas, control characters are refused inside strings, and nothing
but blanks may follow the value.

Every reader returns what it read with the rest of the input. The readers of values, items
and members call each other with one step fewer each time; a text has no more steps than
characters, since every step takes at least one.
-/

namespace TypedSql.Json

set_option autoImplicit false

/-- Whether a character is blank between the parts of a document. -/
def isBlank (c : Char) : Bool := c = ' ' ∨ c = '\t' ∨ c = '\n' ∨ c = '\r'

/-- The input without the blanks at its start. -/
def skipBlanks (input : List Char) : List Char := input.dropWhile isBlank

/-- The input after a given word. -/
def expect : List Char → List Char → Option (List Char)
  | [], input => some input
  | _ :: _, [] => none
  | c :: word, first :: rest => if c = first then expect word rest else none

/-! ## Numbers -/

/-- The values of the digits at the start of an input. -/
def leadingDigits (input : List Char) : List Nat × List Char :=
  ((input.takeWhile Char.isDigit).map fun c => c.toNat - '0'.toNat, input.dropWhile Char.isDigit)

/-- Reads at least one digit. -/
def readDigits (input : List Char) : Option (List Nat × List Char) :=
  match leadingDigits input with
  | ([], _) => none
  | (digits, rest) => some (digits, rest)

/-- Reads digits of which only a single one may begin with zero. -/
def readWhole (input : List Char) : Option (List Nat × List Char) :=
  match readDigits input with
  | some (0 :: _ :: _, _) => none
  | read => read

/-- Reads the digits after a decimal point, if there is one. -/
def readFraction : List Char → Option (List Nat × List Char)
  | '.' :: rest => readDigits rest
  | input => some ([], input)

/-- The sign of an exponent, and the input after it. -/
def exponentSign : List Char → Bool × List Char
  | '+' :: rest => (false, rest)
  | '-' :: rest => (true, rest)
  | input => (false, input)

/-- Reads the exponent of a number, if it has one. -/
def readExponent : List Char → Option (Option Int × List Char)
  | [] => some (none, [])
  | c :: rest =>
      if c = 'e' ∨ c = 'E' then
        let (negative, rest) := exponentSign rest
        (readDigits rest).map fun (digits, rest) =>
          let magnitude : Nat := digits.foldl (fun n digit => n * 10 + digit) 0
          (some (if negative then -magnitude else magnitude), rest)
      else some (none, c :: rest)

/-- The sign of a number, and the input after it. -/
def numberSign : List Char → Bool × List Char
  | '-' :: rest => (true, rest)
  | input => (false, input)

/-- Reads a number literal. -/
def readNumber (input : List Char) : Option (NumberLiteral × List Char) := do
  let (negative, rest) := numberSign input
  let (whole, rest) ← readWhole rest
  let (fraction, rest) ← readFraction rest
  let (exponent, rest) ← readExponent rest
  pure (⟨negative, whole, fraction, exponent⟩, rest)

/-! ## Strings -/

/-- The value of a hexadecimal digit. -/
def hexDigit? (c : Char) : Option Nat :=
  if c.isDigit then some (c.toNat - '0'.toNat)
  else if 'a' ≤ c ∧ c ≤ 'f' then some (c.toNat - 'a'.toNat + 10)
  else if 'A' ≤ c ∧ c ≤ 'F' then some (c.toNat - 'A'.toNat + 10)
  else none

/-- Reads four hexadecimal digits. -/
def readHex : List Char → Option (Nat × List Char)
  | a :: b :: c :: d :: rest => do
      let digits ← [a, b, c, d].mapM hexDigit?
      pure (digits.foldl (fun n digit => n * 16 + digit) 0, rest)
  | _ => none

/-- A part of a string: a character, or one of the 16-bit units that escapes write. -/
inductive StringUnit where
  | char (c : Char)
  | escaped (code : Nat)
deriving DecidableEq, Repr

/-- The character of an escape of one letter. -/
def simpleEscape? (c : Char) : Option Char :=
  if c = '"' ∨ c = '\\' ∨ c = '/' then some c
  else if c = 'b' then some '\x08'
  else if c = 'f' then some '\x0c'
  else if c = 'n' then some '\n'
  else if c = 'r' then some '\r'
  else if c = 't' then some '\t'
  else none

/-- Reads one part of a string. -/
def readUnit : List Char → Option (StringUnit × List Char)
  | '\\' :: 'u' :: rest => (readHex rest).map fun (code, rest) => (.escaped code, rest)
  | '\\' :: c :: rest => (simpleEscape? c).map fun meant => (.char meant, rest)
  | '\\' :: [] => none
  | c :: rest => if c.toNat < 32 then none else some (.char c, rest)
  | [] => none

/-- Reads the parts of a string up to its closing quote. -/
def readUnits : Nat → List Char → Option (List StringUnit × List Char)
  | 0, _ => none
  | _ + 1, '"' :: rest => some ([], rest)
  | steps + 1, input => do
      let (first, rest) ← readUnit input
      let (others, rest) ← readUnits steps rest
      pure (first :: others, rest)

/-- Whether a unit is the first half of a pair of surrogates. -/
def isLeading (code : Nat) : Bool := 0xD800 ≤ code ∧ code < 0xDC00

/-- Whether a unit is the second half of a pair of surrogates. -/
def isTrailing (code : Nat) : Bool := 0xDC00 ≤ code ∧ code < 0xE000

/-- The characters of the parts of a string, unless a surrogate stands alone. -/
def charsOfUnits : List StringUnit → Option (List Char)
  | [] => some []
  | .char c :: rest => (charsOfUnits rest).map (c :: ·)
  | .escaped first :: .escaped second :: rest =>
      if isLeading first then
        if isTrailing second then
          let code := 0x10000 + (first - 0xD800) * 0x400 + (second - 0xDC00)
          (charsOfUnits rest).map (Char.ofNat code :: ·)
        else none
      else if isTrailing first then none
      else (charsOfUnits (.escaped second :: rest)).map (Char.ofNat first :: ·)
  | .escaped code :: rest =>
      if isLeading code ∨ isTrailing code then none
      else (charsOfUnits rest).map (Char.ofNat code :: ·)

/-- Reads a string after its opening quote. -/
def readString (input : List Char) : Option (Option String × List Char) :=
  (readUnits (input.length + 1) input).map fun (units, rest) =>
    ((charsOfUnits units).map String.ofList, rest)

/-! ## Values -/

/-- Reads a value that is neither a string nor composed of others. -/
def readScalar (input : List Char) : Option (Tree × List Char) :=
  match expect "null".toList input with
  | some rest => some (.null, rest)
  | none =>
      match expect "true".toList input with
      | some rest => some (.bool true, rest)
      | none =>
          match expect "false".toList input with
          | some rest => some (.bool false, rest)
          | none => (readNumber input).map fun (literal, rest) => (.number literal.value?, rest)

mutual

/-- Reads a value. -/
def readValue : Nat → List Char → Option (Tree × List Char)
  | 0, _ => none
  | steps + 1, input =>
      match skipBlanks input with
      | '"' :: rest => (readString rest).map fun (text, rest) => (.string text, rest)
      | '[' :: rest =>
          match skipBlanks rest with
          | ']' :: rest => some (.array [], rest)
          | rest => (readItems steps rest).map fun (items, rest) => (.array items, rest)
      | '\x7b' :: rest =>
          match skipBlanks rest with
          | '\x7d' :: rest => some (.object [], rest)
          | rest => (readMembers steps rest).map fun (members, rest) => (.object members, rest)
      | rest => readScalar rest

/-- Reads at least one item and the bracket after the last one. -/
def readItems : Nat → List Char → Option (List Tree × List Char)
  | 0, _ => none
  | steps + 1, input => do
      let (first, rest) ← readValue steps input
      match skipBlanks rest with
      | ']' :: rest => pure ([first], rest)
      | ',' :: rest =>
          let (others, rest) ← readItems steps rest
          pure (first :: others, rest)
      | _ => none

/-- Reads at least one member and the brace after the last one. -/
def readMembers : Nat → List Char → Option (List (Option String × Tree) × List Char)
  | 0, _ => none
  | steps + 1, input => do
      let rest ← expect ['"'] (skipBlanks input)
      let (key, rest) ← readString rest
      let rest ← expect [':'] (skipBlanks rest)
      let (first, rest) ← readValue steps rest
      match skipBlanks rest with
      | '\x7d' :: rest => pure ([(key, first)], rest)
      | ',' :: rest =>
          let (others, rest) ← readMembers steps rest
          pure ((key, first) :: others, rest)
      | _ => none

end

/-- The document that a text holds. -/
def Tree.parse? (text : String) : Option Tree := do
  let input := text.toList
  let (tree, rest) ← readValue (input.length + 1) input
  if (skipBlanks rest).isEmpty then some tree else none

end TypedSql.Json
