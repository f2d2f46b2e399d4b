/-!
# Arguments of the command line

The command line names an action, `ddl` to print the statements that create the tables of a
schema file or `apply` to run them, after the general options and before the options of the
action. An option is a flag, or a setting with a value. A value follows as the next argument,
which must not look like an option, or is attached: after `=`, or directly after a short name.
Short names may be written together behind one dash.

Arguments are taken one after another, and the first of them that asks for help or cannot be
taken decides. A setting whose value is an argument of its own is judged when the next option
comes, or after the action. No setting and no flag may be given twice. What is missing is
noticed at the end.
-/

namespace TypedSql.CommandLine

set_option autoImplicit false

/-! ## Invocations -/

/-- The dialects by their names. -/
inductive DialectName where
  | sqlite
  | generic
deriving DecidableEq, Repr

/-- What is to be done with a schema file. -/
inductive Action where
  | ddl (schema : String) (dialect : DialectName)
  | apply (schema : String)
deriving DecidableEq, Repr

/-- What a command line asks for. -/
structure Invocation where
  database : String
  verbose : Bool
  action : Action
deriving DecidableEq, Repr

/-- Why a command line leads to no action: it asks for help or for the version, or it cannot
be taken. -/
inductive Stop where
  | help
  | version
  | misuse
deriving DecidableEq, Repr

/-- The database when none is named. -/
def defaultDatabase : String := "sqlite:db.sqlite3"

/-! ## Options -/

/-- An option without a value. -/
inductive Flag where
  | verbose
  | help
  | version
deriving DecidableEq, Repr

/-- An option with a value. -/
inductive Setting where
  | database
  | schema
  | dialect
deriving DecidableEq, Repr

/-- An option of either kind. -/
inductive Switch where
  | flag (flag : Flag)
  | setting (setting : Setting)
deriving DecidableEq, Repr

/-- The options that are known at some point of the command line. -/
structure Level where
  short : List (Char × Switch)
  long : List (String × Switch)

/-- The general options. -/
def general : Level where
  short := [('d', .setting .database), ('v', .flag .verbose), ('h', .flag .help),
    ('V', .flag .version)]
  long := [("database", .setting .database), ("verbose", .flag .verbose), ("help", .flag .help),
    ("version", .flag .version)]

/-- The options of `apply`. -/
def applying : Level where
  short := [('s', .setting .schema), ('h', .flag .help)]
  long := [("schema", .setting .schema), ("help", .flag .help)]

/-- The options of `ddl`. -/
def printing : Level where
  short := applying.short
  long := ("dialect", .setting .dialect) :: applying.long

/-- The dialect of a name. -/
def DialectName.ofName? (name : String) : Option DialectName :=
  [("sqlite", sqlite), ("generic", generic)].lookup name

/-- Whether a setting can have a value. -/
def Setting.accepts (setting : Setting) (value : String) : Bool :=
  match setting with
  | database => true
  | schema => !value.isEmpty
  | dialect => (DialectName.ofName? value).isSome

/-! ## Taking arguments -/

/-- The options given so far, the last one first. -/
structure Given where
  verbose : Bool := false
  settings : List (Setting × String) := []

namespace Given

/-- The value of a setting. -/
def value? (given : Given) (setting : Setting) : Option String := given.settings.lookup setting

/-- Judges the settings so far. -/
def settle (given : Given) : Except Stop Given :=
  if given.settings.all (fun (setting, value) => setting.accepts value) ∧
      (given.settings.map (·.1)).Nodup then .ok given
  else .error .misuse

/-- Takes a flag. -/
def takeFlag (given : Given) (flag : Flag) : Except Stop Given := do
  let given ← given.settle
  match flag with
  | .help => .error .help
  | .version => .error .version
  | .verbose => if given.verbose then .error .misuse else pure { given with verbose := true }

/-- Takes a setting with the value of an argument of its own. -/
def takeSetting (given : Given) (setting : Setting) (value : String) : Except Stop Given := do
  let given ← given.settle
  pure { given with settings := (setting, value) :: given.settings }

/-- Takes a setting with an attached value. -/
def takeAttached (given : Given) (setting : Setting) (value : String) : Except Stop Given := do
  let given ← given.takeSetting setting value
  given.settle

end Given

/-- What an argument comes to: the options given with it, and a setting that waits for the
next argument. -/
abbrev Taken := Given × Option Setting

/-- Takes short options that are written together. -/
def takeShort (level : Level) (given : Given) : List Char → Except Stop Taken
  | [] => .ok (given, none)
  | name :: rest =>
      match level.short.lookup name with
      | none => .error .misuse
      | some (.flag flag) => do
          let given ← given.takeFlag flag
          takeShort level given rest
      | some (.setting setting) =>
          match rest with
          | [] => .ok (given, some setting)
          | '=' :: value => do
              let given ← given.takeAttached setting (String.ofList value)
              pure (given, none)
          | value => do
              let given ← given.takeAttached setting (String.ofList value)
              pure (given, none)

/-- Takes a long option, without its dashes. -/
def takeLong (level : Level) (given : Given) (chars : List Char) : Except Stop Taken :=
  let name := String.ofList (chars.takeWhile (· ≠ '='))
  match level.long.lookup name, chars.dropWhile (· ≠ '=') with
  | some (.flag flag), [] => do
      let given ← given.takeFlag flag
      pure (given, none)
  | some (.setting setting), [] => .ok (given, some setting)
  | some (.setting setting), _ :: value => do
      let given ← given.takeAttached setting (String.ofList value)
      pure (given, none)
  | _, _ => .error .misuse

/-- Takes an argument that begins with a dash and does not end there. -/
def takeOption (level : Level) (given : Given) (argument : String) : Except Stop Taken :=
  match argument.toList with
  | '-' :: '-' :: name => takeLong level given name
  | _ :: names => takeShort level given names
  | [] => .error .misuse

/-- Whether an argument cannot be the value of a setting. -/
def beginsWithDash (argument : String) : Bool := argument.startsWith "-" && argument ≠ "-"

/-- Takes options up to the first argument that is none, and returns it and what follows. Two
dashes are no option. -/
def takeOptions (level : Level) (given : Given) :
    List String → Except Stop (Given × List String)
  | [] => .ok (given, [])
  | argument :: rest =>
      if beginsWithDash argument && argument ≠ "--" then do
        let (given, waiting) ← takeOption level given argument
        match waiting, rest with
        | none, rest => takeOptions level given rest
        | some _, [] => .error .misuse
        | some setting, value :: rest =>
            if beginsWithDash value then .error .misuse
            else do
              let given ← given.takeSetting setting value
              takeOptions level given rest
      else .ok (given, argument :: rest)

/-! ## Actions -/

/-- Takes the options of an action, after which nothing but two dashes may follow. -/
def takeAction (level : Level) (arguments : List String) : Except Stop Given := do
  let (given, rest) ← takeOptions level {} arguments
  if rest = [] ∨ rest = ["--"] then given.settle else .error .misuse

/-- The schema file of an action. -/
def schemaOf (given : Given) : Except Stop String :=
  match given.value? .schema with
  | some schema => .ok schema
  | none => .error .misuse

/-- Takes the name of an action and its options. After `help` only names of actions that the
one before it has may follow. -/
def readAction : List String → Except Stop Action
  | "ddl" :: rest => do
      let given ← takeAction printing rest
      let schema ← schemaOf given
      pure (.ddl schema ((given.value? .dialect).bind DialectName.ofName? |>.getD .sqlite))
  | "apply" :: rest => do
      let given ← takeAction applying rest
      let schema ← schemaOf given
      pure (.apply schema)
  | ["help"] => .error .help
  | ["help", topic] => .error (if topic ∈ ["ddl", "apply", "help"] then .help else .misuse)
  | _ => .error .misuse

/-- Reads a command line, with the database that the environment names, if it does. -/
def parse (environment : Option String) (arguments : List String) :
    Except Stop Invocation := do
  let (given, rest) ← takeOptions general {} arguments
  let action ← readAction rest
  let given ← given.settle
  let database := (given.value? .database).getD (environment.getD defaultDatabase)
  pure ⟨database, given.verbose, action⟩

end TypedSql.CommandLine
