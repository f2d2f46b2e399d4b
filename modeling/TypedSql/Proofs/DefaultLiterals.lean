import TypedSql.Engine.Connection
import TypedSql.Proofs.Faults
import TypedSql.Proofs.Shortest
import TypedSql.Proofs.TableText
import TypedSql.Sql.Token

/-!
# Defaults as literals

`SqlLiteral.ofText?` reads a text that is one literal of SQL and nothing else: `NULL`, a decimal
number behind at most one minus sign, a text in quotes, or a blob in hexadecimal digits. It knows
nothing of the values that are written. `SqlLiteral.Denotes` says that a literal stands for a
stored value: a number is equal to an integer, and a double is the one that it is read as.

Every stored value but the doubles that are infinite or not a number is written as a literal that
stands for it (`SqlLiteral.denotes_literal`). Those three are written as words, which are no
literals. `CreateTable.default_literal` says so of every fixed default in a definition that
renders.
-/

set_option autoImplicit false

namespace TypedSql

open Fragment Outcome

/-! ## The reader -/

/-- A literal of SQL. -/
inductive SqlLiteral where
  | null
  | number (negative : Bool) (magnitude : Decimal)
  | text (content : String)
  | blob (bytes : List UInt8)
deriving DecidableEq, Repr

namespace SqlLiteral

/-- Reads a decimal number without a sign: digits, and possibly a point and more digits. -/
def readMagnitude? (input : List Char) : Option Decimal :=
  let whole := input.takeWhile Char.isDigit
  if whole.isEmpty then none
  else
    match input.dropWhile Char.isDigit with
    | [] => some ⟨Engine.naturalOf whole, 0⟩
    | point :: fraction =>
        if point = '.' ∧ fraction ≠ [] ∧ fraction.all Char.isDigit then
          some ⟨Engine.naturalOf (whole ++ fraction), -fraction.length⟩
        else none

/-- Whether a character is a hexadecimal digit. -/
def isHexDigit (c : Char) : Bool :=
  c.isDigit || ('A' ≤ c && c ≤ 'F') || ('a' ≤ c && c ≤ 'f')

/-- Reads the bytes of pairs of hexadecimal digits. -/
def readBytes? : List Char → Option (List UInt8)
  | [] => some []
  | high :: low :: rest =>
      if isHexDigit high && isHexDigit low then
        (readBytes? rest).map
          (UInt8.ofNat (Sql.Token.hexValue high * 16 + Sql.Token.hexValue low) :: ·)
      else none
  | [_] => none

/-- Reads the inside of a quoted text that ends with its closing quote. -/
def readQuoted? (input : List Char) : Option (List Char) :=
  match Quoted.readInside? '\'' input with
  | some (content, []) => some content
  | _ => none

/-- Reads a literal that makes up the whole input. -/
def ofChars? : List Char → Option SqlLiteral
  | '\'' :: rest => (readQuoted? rest).map fun content => text (String.ofList content)
  | 'X' :: '\'' :: rest => ((readQuoted? rest).bind readBytes?).map blob
  | '-' :: rest => (readMagnitude? rest).map (number true)
  | input =>
      if input = "NULL".toList then some null else (readMagnitude? input).map (number false)

/-- The literal that makes up a whole text. -/
def ofText? (text : String) : Option SqlLiteral := ofChars? text.toList

/-- A literal stands for a stored value. A number is equal to an integer, and is read as a
double. -/
inductive Denotes : SqlLiteral → Stored → Prop
  | null : Denotes null .null
  | int {negative : Bool} {coefficient : Nat} {n : Int64}
      (equal : (if negative then -coefficient else coefficient : Int) = n.toInt) :
      Denotes (number negative ⟨coefficient, 0⟩) (.int n)
  | float {negative : Bool} {magnitude : Decimal} {x : Binary64}
      (read : Engine.doubleOf negative magnitude = x) :
      Denotes (number negative magnitude) (.float x)
  | text (content : String) : Denotes (text content) (.text content)
  | blob (bytes : List UInt8) : Denotes (blob bytes) (.blob bytes)

end SqlLiteral

/-! ## Digits -/

namespace Engine

theorem naturalOf_eq_ofDigitChars (digits : List Char) :
    naturalOf digits = Nat.ofDigitChars 10 digits 0 := by
  rw [naturalOf, Nat.ofDigitChars_eq_foldl]
  simp only [Nat.mul_comm]

/-- The digits of a number are read as that number. -/
theorem naturalOf_decimalDigits (n : Nat) : naturalOf (decimalDigits n) = n := by
  rw [naturalOf_eq_ofDigitChars, decimalDigits, Nat.ofDigitChars_ten_toDigits]

/-- Zeros behind a number multiply it. -/
theorem naturalOf_decimalDigits_zeros (n count : Nat) :
    naturalOf (decimalDigits n ++ List.replicate count '0') = n * 10 ^ count := by
  rw [naturalOf_eq_ofDigitChars, Nat.ofDigitChars_append, decimalDigits,
    Nat.ofDigitChars_ten_toDigits, Nat.ofDigitChars_replicate_zero, Nat.mul_comm]

/-- Zeros before a number do not count. -/
theorem naturalOf_zeros_decimalDigits (n count : Nat) :
    naturalOf (List.replicate count '0' ++ decimalDigits n) = n := by
  rw [naturalOf_eq_ofDigitChars, Nat.ofDigitChars_append, Nat.ofDigitChars_replicate_zero,
    Nat.mul_zero, decimalDigits, Nat.ofDigitChars_ten_toDigits]

end Engine

theorem isDigit_of_mem_zeros {count : Nat} {c : Char} (member : c ∈ List.replicate count '0') :
    c.isDigit = true := by
  rw [List.eq_of_mem_replicate member]
  rfl

namespace SqlLiteral

/-! ## Numbers -/

theorem readMagnitude?_digits {digits : List Char} (nonempty : digits ≠ [])
    (each : ∀ c ∈ digits, c.isDigit = true) :
    readMagnitude? digits = some ⟨Engine.naturalOf digits, 0⟩ := by
  have ends : ∀ c, ([] : List Char).head? = some c → c.isDigit = false := by
    intro c head
    cases head
  have run := takeWhile_append_of_stop each ends
  rw [List.append_nil] at run
  simp only [readMagnitude?, run, List.isEmpty_iff, if_neg nonempty]

theorem readMagnitude?_point {whole fraction : List Char} (wholeNonempty : whole ≠ [])
    (fractionNonempty : fraction ≠ []) (wholeDigits : ∀ c ∈ whole, c.isDigit = true)
    (fractionDigits : ∀ c ∈ fraction, c.isDigit = true) :
    readMagnitude? (whole ++ '.' :: fraction) =
      some ⟨Engine.naturalOf (whole ++ fraction), -fraction.length⟩ := by
  have ends : ∀ c, ('.' :: fraction).head? = some c → c.isDigit = false := by
    intro c head
    cases head
    rfl
  have run := takeWhile_append_of_stop wholeDigits ends
  have behind : fraction ≠ [] ∧ fraction.all Char.isDigit = true :=
    ⟨fractionNonempty, List.all_eq_true.mpr fractionDigits⟩
  simp only [readMagnitude?, run, List.isEmpty_iff, if_neg wholeNonempty, true_and, if_pos behind]

end SqlLiteral

namespace Decimal

/-- The same number with an exponent that is not positive. -/
def unscaled (d : Decimal) : Decimal :=
  ⟨d.coefficient * 10 ^ d.exponent.toNat, -((-d.exponent).toNat : Int)⟩

/-- **The plain text of a decimal is read as the same number.** -/
theorem readMagnitude?_plain (d : Decimal) :
    SqlLiteral.readMagnitude? d.plain = some d.unscaled := by
  rw [plain, unscaled]
  by_cases whole : 0 ≤ d.exponent
  · have digits : ∀ c ∈ decimalDigits d.coefficient ++ List.replicate d.exponent.toNat '0',
        c.isDigit = true := by
      intro c member
      rcases List.mem_append.mp member with digit | zero
      · exact isDigit_of_mem_decimalDigits digit
      · exact isDigit_of_mem_zeros zero
    have nonempty : decimalDigits d.coefficient ++ List.replicate d.exponent.toNat '0' ≠ [] :=
      List.append_ne_nil_of_left_ne_nil (decimalDigits_ne_nil _) _
    have places : (-d.exponent).toNat = 0 := Int.toNat_of_nonpos (by omega)
    rw [if_pos whole, SqlLiteral.readMagnitude?_digits nonempty digits,
      Engine.naturalOf_decimalDigits_zeros, places]
    rfl
  · have none : d.exponent.toNat = 0 := Int.toNat_of_nonpos (by omega)
    have positive : 0 < (-d.exponent).toNat := by omega
    rw [if_neg whole, none, Nat.pow_zero, Nat.mul_one, withPoint]
    generalize (-d.exponent).toNat = places at *
    generalize written : List.replicate (places + 1 - (decimalDigits d.coefficient).length) '0' ++
      decimalDigits d.coefficient = padded
    have longer : places + 1 ≤ padded.length := by
      rw [← written, List.length_append, List.length_replicate]
      omega
    have value : Engine.naturalOf padded = d.coefficient := by
      rw [← written, Engine.naturalOf_zeros_decimalDigits]
    have digits : ∀ c ∈ padded, c.isDigit = true := by
      intro c member
      rw [← written] at member
      rcases List.mem_append.mp member with zero | digit
      · exact isDigit_of_mem_zeros zero
      · exact isDigit_of_mem_decimalDigits digit
    have wholeLength : (padded.take (padded.length - places)).length = padded.length - places :=
      List.length_take_of_le (Nat.sub_le ..)
    have fractionLength : (padded.drop (padded.length - places)).length = places := by
      rw [List.length_drop]
      omega
    rw [SqlLiteral.readMagnitude?_point, List.take_append_drop, value, fractionLength]
    · exact List.ne_nil_of_length_pos (by omega)
    · exact List.ne_nil_of_length_pos (by omega)
    · exact fun c member => digits c (List.mem_of_mem_take member)
    · exact fun c member => digits c (List.mem_of_mem_drop member)

end Decimal

theorem Binary64.covers_unscaled {x : Binary64} {d : Decimal} (covers : x.Covers d) :
    x.Covers d.unscaled := by
  rw [Covers, Decimal.unscaled, Int.neg_neg, Int.toNat_natCast, Int.toNat_neg_natCast,
    Nat.pow_zero, Nat.mul_one]
  exact covers

/-! ## Stored values -/

/-- A stored value that is not a double without digits, which an infinite one is and one that is
not a number. -/
def Stored.isRegular : Stored → Bool
  | float x => x.isFinite
  | _ => true

namespace SqlLiteral

/-- A text that is read as a number without a sign is no other literal. -/
theorem ofChars?_unsigned {text : List Char} {magnitude : Decimal}
    (read : readMagnitude? text = some magnitude) :
    ofChars? text = some (number false magnitude) := by
  have other {c : Char} (notDigit : c.isDigit = false) (rest : List Char) :
      readMagnitude? (c :: rest) = none := by
    simp [readMagnitude?, notDigit]
  unfold ofChars?
  split
  · rw [other rfl] at read
    cases read
  · rw [other rfl] at read
    cases read
  · rw [other rfl] at read
    cases read
  · have notNull : text ≠ "NULL".toList := by
      rintro rfl
      cases read
    rw [if_neg notNull, read, Option.map_some]

/-- Digits behind a sign are a negative number. -/
theorem ofChars?_negative {text : List Char} {magnitude : Decimal}
    (read : readMagnitude? text = some magnitude) :
    ofChars? ('-' :: text) = some (number true magnitude) := by
  rw [ofChars?, read, Option.map_some]

theorem readQuoted?_double (text : List Char) :
    readQuoted? (Quoted.double '\'' text ++ ['\'']) = some text := by
  have closed : ([] : List Char).head? ≠ some '\'' := by simp
  rw [readQuoted?, Quoted.readInside?_double text closed]

/-- Each of the sixteen digits has its own value. -/
theorem hexValue_hexDigit {n : Nat} (small : n < 16) :
    isHexDigit (Stored.hexDigit n) = true ∧ Sql.Token.hexValue (Stored.hexDigit n) = n := by
  have each : ∀ digit : Fin 16, isHexDigit (Stored.hexDigit digit) = true ∧
      Sql.Token.hexValue (Stored.hexDigit digit) = digit := by decide
  exact each ⟨n, small⟩

theorem readBytes?_flatMap (bytes : List UInt8) :
    readBytes? (bytes.flatMap Stored.hexByte) = some bytes := by
  induction bytes with
  | nil => rfl
  | cons byte rest ih =>
    have bound : byte.toNat < 256 := byte.toNat_lt
    obtain ⟨highDigit, highValue⟩ := hexValue_hexDigit (by omega : byte.toNat / 16 < 16)
    obtain ⟨lowDigit, lowValue⟩ := hexValue_hexDigit (by omega : byte.toNat % 16 < 16)
    rw [List.flatMap_cons, Stored.hexByte, List.cons_append, List.cons_append, List.nil_append,
      readBytes?, highDigit, lowDigit, highValue, lowValue, ih, Nat.div_add_mod',
      UInt8.ofNat_toNat]
    rfl

/-- **Every stored value but the doubles without digits is written as a literal that stands for
it.** -/
theorem denotes_literal {value : Stored} (regular : value.isRegular = true) :
    ∃ literal, ofChars? value.literal = some literal ∧ literal.Denotes value := by
  cases value with
  | null => exact ⟨null, rfl, .null⟩
  | int n =>
    have read := readMagnitude?_digits (decimalDigits_ne_nil n.toInt.natAbs)
      fun _ => isDigit_of_mem_decimalDigits
    rw [Engine.naturalOf_decimalDigits] at read
    rw [Stored.literal, integerDigits]
    by_cases negative : n.toInt < 0
    · rw [if_pos negative]
      exact ⟨_, ofChars?_negative read, .int (by rw [if_pos rfl]; omega)⟩
    · rw [if_neg negative]
      exact ⟨_, ofChars?_unsigned read, .int (by rw [if_neg Bool.false_ne_true]; omega)⟩
  | float x =>
    have isFinite : x.isFinite = true := regular
    have read := (x.shortest .away).readMagnitude?_plain
    have same : Engine.doubleOf x.isNegative (x.shortest .away).unscaled = x :=
      Binary64.doubleOf_of_covers isFinite (Binary64.covers_unscaled (x.covers_shortest .away))
    rw [Stored.literal, Binary64.plainText, Binary64.isNaN_eq_false_of_isFinite isFinite,
      if_neg Bool.false_ne_true, if_pos isFinite]
    cases negative : x.isNegative with
    | true => exact ⟨_, ofChars?_negative read, .float (negative ▸ same)⟩
    | false => exact ⟨_, ofChars?_unsigned read, .float (negative ▸ same)⟩
  | text content =>
    refine ⟨text content, ?_, .text content⟩
    rw [Stored.literal, Quoted.enclose, ofChars?, readQuoted?_double, Option.map_some,
      String.ofList_toList]
  | blob bytes =>
    refine ⟨blob bytes, ?_, .blob bytes⟩
    rw [Stored.literal, Quoted.enclose, ofChars?, readQuoted?_double, Option.bind_some,
      readBytes?_flatMap, Option.map_some]

/-- The doubles without digits are written as words, which are no literals. -/
theorem ofChars?_eq_none {value : Stored} (special : value.isRegular = false) :
    ofChars? value.literal = none := by
  obtain ⟨x, rfl, infinite⟩ : ∃ x, value = .float x ∧ x.isFinite = false := by
    cases value with
    | float x => exact ⟨x, rfl, special⟩
    | _ => cases special
  rw [Stored.literal, Binary64.plainText]
  cases x.isNaN with
  | true => rfl
  | false =>
    rw [infinite]
    cases x.isNegative <;> rfl

end SqlLiteral

theorem Stored.toList_inline (value : Stored) : value.inline.toList = value.literal :=
  String.toList_ofList

/-! ## Definitions of tables -/

/-- The definition of a column up to its default. -/
def Column.heading (dialect : Dialect) (column : Column) : List Fragment :=
  [identifier column.sqlName, word (" " ++ dialect.typeName column.type column.size)] ++
    column.keyFragments dialect

theorem Column.chars_written {dialect : Dialect} {column : Column} {stored : Stored}
    (default : column.storedDefault? = some stored) :
    (column.written dialect).flatMap (·.chars dialect) =
      (column.heading dialect).flatMap (·.chars dialect) ++
        (" DEFAULT ".toList ++ stored.literal) := by
  rw [written, heading, default]
  simp [writtenDefault, chars]

/-- A comma or the closing parenthesis stands behind the definition of each column. -/
theorem TableText.exists_columnChars (dialect : Dialect) {columns : List Column} {column : Column}
    (member : column ∈ columns) :
    ∃ front back, columnChars dialect columns ++ ");".toList =
      front ++ ((column.written dialect).flatMap (·.chars dialect) ++ back) ∧ Closes back := by
  induction columns with
  | nil => cases member
  | cons first others ih =>
    cases others with
    | nil =>
      obtain rfl := List.mem_singleton.mp member
      exact ⟨[], ");".toList, by simp [columnChars, separated], closes_parenthesis⟩
    | cons second others =>
      rw [columnChars_cons_cons]
      rcases List.mem_cons.mp member with rfl | behind
      · exact ⟨[], ", ".toList ++ (columnChars dialect (second :: others) ++ ");".toList),
          by simp only [List.append_assoc, List.nil_append], closes_comma _⟩
      · obtain ⟨front, back, rest, closes⟩ := ih behind
        refine ⟨(first.written dialect).flatMap (·.chars dialect) ++ (", ".toList ++ front), back,
          ?_, closes⟩
        simp only [List.append_assoc] at rest ⊢
        rw [rest]

namespace CreateTable

variable {dialect : Dialect} {create : CreateTable} {compiled : Compiled} {column : Column}
  {value : Value}

/-- The default of a column stands between the clauses of its definition and what closes that. -/
theorem exists_text_default
    (rendered : (Statement.createTable create).compile dialect = .ok compiled)
    (member : column ∈ create.table.columns) (fixed : column.default = some (.fixed value)) :
    ∃ stored front back, Codec.encode column.type value = .ok stored ∧
      compiled.text.toList = front ++ ((column.heading dialect).flatMap (·.chars dialect) ++
        (" DEFAULT ".toList ++ (stored.inline.toList ++ back))) ∧ TableText.Closes back := by
  rw [Statement.compile_eq_answer, answer_eq_ok_iff] at rendered
  obtain ⟨faultless, text⟩ := rendered
  have fits : create.WellFormed := CreateTable.faults_eq_nil_iff.mp faultless
  obtain ⟨stored, encoded⟩ := fits column member value fixed
  have default : column.storedDefault? = some stored := by
    rw [Column.storedDefault?, fixed]
    simp [Codec.stored, encoded, Except.toOption]
  obtain ⟨front, back, columns, closes⟩ := TableText.exists_columnChars dialect member
  obtain ⟨opening, whole⟩ : ∃ opening, compiled.text.toList =
      opening ++ (TableText.columnChars dialect create.table.columns ++ ");".toList) := by
    rw [← text]
    refine ⟨([word "CREATE "] ++ wordIf create.unlogged "UNLOGGED " ++ [word "TABLE "] ++
      wordIf create.ifNotExists "IF NOT EXISTS " ++
        [identifier create.table.name, word " ("]).flatMap (·.chars dialect), ?_⟩
    simp [Compiled.ofFragments, Statement.written, written, TableText.columnChars, chars]
  refine ⟨stored, opening ++ front, back, encoded, ?_, closes⟩
  rw [whole, columns, Column.chars_written default, stored.toList_inline]
  simp only [List.append_assoc]

/-- **A fixed default is written as one literal of SQL that stands for it, unless it is an
infinite double or not a number.** In a definition that renders in any dialect, the default of a
column stands behind ` DEFAULT ` at the end of its definition. What is written there is read as a
literal from its first to its last character: an integer as itself, a double as the double with
the same bits, a text as its characters and a blob as its bytes. The infinite doubles and those
that are not a number are written as words, which are no literals. -/
theorem default_literal
    (rendered : (Statement.createTable create).compile dialect = .ok compiled)
    (member : column ∈ create.table.columns) (fixed : column.default = some (.fixed value)) :
    ∃ stored front back, Codec.encode column.type value = .ok stored ∧
      compiled.text.toList = front ++ ((column.heading dialect).flatMap (·.chars dialect) ++
        (" DEFAULT ".toList ++ (stored.inline.toList ++ back))) ∧ TableText.Closes back ∧
      (stored.isRegular = true → ∃ literal,
        SqlLiteral.ofText? stored.inline = some literal ∧ literal.Denotes stored) ∧
      (stored.isRegular = false → SqlLiteral.ofText? stored.inline = none) := by
  obtain ⟨stored, front, back, encoded, text, closes⟩ := exists_text_default rendered member fixed
  refine ⟨stored, front, back, encoded, text, closes, ?_, ?_⟩ <;>
    rw [SqlLiteral.ofText?, stored.toList_inline]
  · exact SqlLiteral.denotes_literal
  · exact SqlLiteral.ofChars?_eq_none

/-- A table with a column of numbers whose default this is. -/
def ofLimit (number : Binary64) : CreateTable where
  table := {
    name := "limits"
    columns := [{
      name := "low"
      type := .float
      owner := "limits"
      default := some (.fixed (.float number)) }] }

/-- The double nearest to a tenth is written as a tenth. -/
theorem default_literal_tenth : ∃ compiled stored literal,
    (Statement.createTable (ofLimit ⟨0x3FB999999999999A⟩)).compile .sqlite = .ok compiled ∧
      Codec.encode .float (.float ⟨0x3FB999999999999A⟩) = .ok stored ∧
      compiled.text = "CREATE TABLE \"limits\" (\"low\" REAL NOT NULL DEFAULT 0.1);" ∧
      stored.inline = "0.1" ∧
      SqlLiteral.ofText? stored.inline = some literal ∧ literal.Denotes stored := by
  have rendered : (Statement.createTable (ofLimit ⟨0x3FB999999999999A⟩)).compile .sqlite = .ok _ :=
    rfl
  obtain ⟨stored, -, -, encoded, -, -, regular, -⟩ :=
    default_literal rendered (List.mem_singleton.mpr rfl) rfl
  cases encoded
  obtain ⟨literal, read, denotes⟩ := regular (by decide +kernel)
  exact ⟨_, _, literal, rendered, rfl, by decide +kernel, by decide +kernel, read, denotes⟩

/-- A table whose default is the negative infinity renders in both dialects, with a default that
is no literal, and the engine does not take the text. -/
theorem default_negativeInfinity : ∃ compiled,
    (Statement.createTable (ofLimit ⟨0xFFF0000000000000⟩)).compile .sqlite = .ok compiled ∧
      (Statement.createTable (ofLimit ⟨0xFFF0000000000000⟩)).compile .generic =
        .ok { compiled with
          text := "CREATE TABLE \"limits\" (\"low\" DOUBLE PRECISION NOT NULL DEFAULT -inf);" } ∧
      compiled.text = "CREATE TABLE \"limits\" (\"low\" REAL NOT NULL DEFAULT -inf);" ∧
      SqlLiteral.ofText? "-inf" = none ∧
      ({} : Engine.Connection).run compiled = .error (.malformed (.near (.word "inf"))) :=
  ⟨_, rfl, by decide +kernel, by decide +kernel, rfl, by decide +kernel⟩

end CreateTable

end TypedSql
