import TypedSql.Json.Fields
import TypedSql.Json.Printer
import TypedSql.Json.Reader

/-!
# Connection settings

How to reach a SQLite database: its URL, how many connections to keep, and whether to create
a missing file. Every setting has a value of its own, a single connection to a new database in
memory.
-/

namespace TypedSql

set_option autoImplicit false

/-- The settings of a connection. -/
structure ConnectionConfig where
  url : String := "sqlite::memory:"
  maxConnections : Nat := 1
  createIfMissing : Bool := true
deriving DecidableEq, Repr

namespace ConnectionConfig

/-- The fields of the settings in their order. -/
def fieldNames : List String := ["url", "maxConnections", "createIfMissing"]

/-- Reads settings from their document. -/
def ofTree? (tree : Json.Tree) : Option ConnectionConfig := do
  let absent : ConnectionConfig := {}
  let given ← tree.fields? fieldNames
  let url ← Json.Tree.optional? given "url" absent.url Json.Tree.string?
  let maxConnections ←
    Json.Tree.optional? given "maxConnections" absent.maxConnections Json.Tree.natural32?
  let createIfMissing ←
    Json.Tree.optional? given "createIfMissing" absent.createIfMissing Json.Tree.bool?
  pure ⟨url, maxConnections, createIfMissing⟩

/-- Settings as JSON. -/
def toJson (config : ConnectionConfig) : Json :=
  .object [("url", .string config.url),
    ("maxConnections", .number (.integer config.maxConnections)),
    ("createIfMissing", .bool config.createIfMissing)]

/-- Reads settings from their text. -/
def parse? (text : String) : Option ConnectionConfig := (Json.Tree.parse? text).bind ofTree?

end ConnectionConfig

end TypedSql
