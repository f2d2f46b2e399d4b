import TypedSql.Engine.Error

/-!
# Locations of databases

The URL of a database begins with `sqlite:` or `sqlite://`, and what follows is the path of a
file, with escapes of bytes in percent. The path `:memory:` and the empty path stand for a
database in memory. A question mark begins the parameters, each a key and a value: how the
file is opened, whether its cache is shared, whether it is immutable, and the name of the file
system to use.
-/

namespace TypedSql.Engine

set_option autoImplicit false

/-- Where a database is and how it is opened. A database in memory has no path. An immutable
file may be made when it is opened, and is only read after that. -/
structure Location where
  path? : Option String
  readOnly : Bool := false
  immutable : Bool := false
  fileSystem : Option String := none
deriving DecidableEq, Repr

namespace Location

/-! ## Escapes -/

/-- The value of a hexadecimal digit, if a character is one. -/
def hexValue? (c : Char) : Option Nat :=
  if c.isDigit then some (c.toNat - '0'.toNat)
  else if 'a' ≤ c.toLower ∧ c.toLower ≤ 'f' then some (c.toLower.toNat - 'a'.toNat + 10)
  else none

/-- The bytes of a text in which `%` and two hexadecimal digits stand for a byte. -/
def unescapedBytes : List Char → List UInt8
  | '%' :: high :: low :: rest =>
      match hexValue? high, hexValue? low with
      | some h, some l => UInt8.ofNat (h * 16 + l) :: unescapedBytes rest
      | _, _ => '%'.toNat.toUInt8 :: unescapedBytes (high :: low :: rest)
  | c :: rest => (String.singleton c).toUTF8.toList ++ unescapedBytes rest
  | [] => []

/-- Splits a text at the first place of a character. Without that character the second part
is absent. -/
def splitAt? (separator : Char) (chars : List Char) : List Char × Option (List Char) :=
  match chars.dropWhile (· ≠ separator) with
  | [] => (chars, none)
  | _ :: rest => (chars.takeWhile (· ≠ separator), some rest)

/-- A text without a word at its start, as often as it is there. -/
def dropRepeated (word : List Char) : Nat → List Char → List Char
  | 0, chars => chars
  | steps + 1, chars =>
      if word.isPrefixOf chars then dropRepeated word steps (chars.drop word.length) else chars

/-- The parts of a text between separators. -/
def parts (separator : Char) (chars : List Char) : List (List Char) :=
  chars.foldr (fun c parts =>
    if c = separator then [] :: parts
    else
      match parts with
      | first :: rest => (c :: first) :: rest
      | [] => [[c]]) [[]]

/-- A key or a value of a parameter, in which a plus stands for a blank. Bytes that are not
UTF-8 are replaced. -/
def readComponent (chars : List Char) : String :=
  Utf8.decodeLossy (unescapedBytes (chars.map fun c => if c = '+' then ' ' else c))

/-- The keys and values of parameters. -/
def readParameters (chars : List Char) : List (String × String) :=
  ((parts '&' chars).filter (!·.isEmpty)).map fun part =>
    let (key, value) := splitAt? '=' part
    (readComponent key, readComponent (value.getD []))

/-! ## Parameters -/

/-- Refuses a value that is not one of those that a parameter has. -/
def checkValue (parameter value : String) (known : List String) : Except UrlFault Unit :=
  if value ∈ known then .ok () else .error (.unknownValue parameter value)

/-- A location with one more parameter. -/
def configure (location : Location) : String × String → Except UrlFault Location
  | (key, value) => do
      if key = "mode" then
        checkValue key value ["ro", "rw", "rwc", "memory"]
        pure (if value = "ro" then { location with readOnly := true }
          else if value = "memory" then { location with path? := none }
          else location)
      else if key = "cache" then
        checkValue key value ["private", "shared"]
        pure location
      else if key = "immutable" then
        checkValue key value ["true", "1", "false", "0"]
        pure { location with immutable := value = "true" ∨ value = "1" }
      else if key = "vfs" then pure { location with fileSystem := some value }
      else .error (.unknownParameter key)

/-- The names of the file systems that there are. -/
def fileSystems : List String := ["unix", "unix-dotfile", "unix-excl", "unix-none", "memdb"]

/-- The name of a file system that there is not. -/
def unknownFileSystem? (location : Location) : Option String :=
  location.fileSystem.filter (· ∉ fileSystems)

/-- The location of a path without parameters, whose bytes have to be UTF-8. -/
def ofPath (chars : List Char) : Except UrlFault Location := do
  let path ← (Utf8.decode (unescapedBytes chars)).mapError .path
  pure { path? := if path = "" ∨ path = ":memory:" then none else some path }

/-- The location that a URL stands for. -/
def ofUrl (url : String) : Except UrlFault Location := do
  let chars := dropRepeated "sqlite://".toList url.length url.toList
  let chars := dropRepeated "sqlite:".toList url.length chars
  let (path, parameters) := splitAt? '?' chars
  let location ← ofPath path
  (readParameters (parameters.getD [])).foldlM configure location

end Location

end TypedSql.Engine
