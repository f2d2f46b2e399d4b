import TypedSql.Binary64.Shortest
import TypedSql.Schema.Column
import TypedSql.Text.Escaped

/-!
# Diagnostic text of defaults

A short description of a column's default for logs and test failures. It names the kind of
the default and shows a fixed value, texts in escaped form.
-/

namespace TypedSql

set_option autoImplicit false

/-- A value with the name of its kind. -/
def Value.diagnostic : Value → String
  | null => "Null"
  | bool b => "Bool(" ++ toString b ++ ")"
  | integer n => "Integer(" ++ toString n ++ ")"
  | float x => "Float(" ++ String.ofList x.plainText ++ ")"
  | text s => "Text(" ++ Escaped.quote s ++ ")"
  | binary bytes => "Binary(" ++ toString bytes ++ ")"
  | datetime instant => "Datetime(" ++ toString instant.millis ++ ")"

/-- A default with the name of its kind. -/
def Default.diagnostic : Default → String
  | fixed value => "Fixed(" ++ value.diagnostic ++ ")"
  | producer _ => "Producer(..)"

/-- The default of a column, or its absence. -/
def Column.defaultDiagnostic (column : Column) : String :=
  match column.default with
  | some default => "Some(" ++ default.diagnostic ++ ")"
  | none => "None"

end TypedSql
