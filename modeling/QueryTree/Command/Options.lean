import QueryTree.Named
import QueryTree.Scope
import QueryTree.Traversal.Nesting

/-!
# The command line

A command line is a command word with settings before or after it.  The words
before the command and those after it are read separately: a setting may occur
once on either side, and the later one counts.  Settings that occur on neither
side may come from the environment.
-/

namespace QueryTree

/-- What the program is asked to do. -/
inductive Command where
  /-- Count the nodes of each kind. -/
  | kinds
  /-- Report the attributes of every expression. -/
  | attrs
  /-- Remove implicit coercions. -/
  | strip
  /-- Report which output columns return sets. -/
  | check
deriving DecidableEq, Repr

namespace Command

instance : Named Command where
  members := [.kinds, .attrs, .strip, .check]
  name
    | .kinds => "Kinds"
    | .attrs => "Attrs"
    | .strip => "Strip"
    | .check => "Check"

/-- The word that asks for a command. -/
def word : Command -> String
  | .kinds => "kinds"
  | .attrs => "attrs"
  | .strip => "strip"
  | .check => "check"

def ofWord? (word : String) : Option Command :=
  [Command.kinds, .attrs, .strip, .check].find? fun command => command.word == word

end Command

/-- The settings of a command line. -/
structure Options where
  command : Command
  /-- The file that holds the tree; standard input if there is none. -/
  input : Option String
  /-- Whether the tree is a raw one. -/
  raw : Bool
  logLevel : String
  maxExprDepth : Nat
  scope : Scope
deriving DecidableEq, Repr

/-- Why a command line is not carried out. -/
inductive Usage where
  /-- Help was asked for. -/
  | help
  /-- The command line makes no sense. -/
  | invalid
deriving DecidableEq, Repr

def Usage.exitCode : Usage -> Nat
  | .help => 0
  | .invalid => 2

/-!
# Settings
-/

/-- What can be set on the command line or in the environment. -/
inductive Setting where
  | input
  | raw
  | logLevel
  | maxExprDepth
  | skipSubqueries
  | skipCtes
  | skipJoinAliases
  | skipRangeTable
  | showEntries
deriving DecidableEq, Repr

namespace Setting

def all : List Setting :=
  [.input, .raw, .logLevel, .maxExprDepth, .skipSubqueries, .skipCtes, .skipJoinAliases,
   .skipRangeTable, .showEntries]

/-- The word for a setting, after two dashes. -/
def word : Setting -> String
  | .input => "input"
  | .raw => "raw"
  | .logLevel => "log-level"
  | .maxExprDepth => "max-expr-depth"
  | .skipSubqueries => "ignore-rt-subqueries"
  | .skipCtes => "ignore-cte-subqueries"
  | .skipJoinAliases => "ignore-join-aliases"
  | .skipRangeTable => "ignore-range-table"
  | .showEntries => "examine-rtes"

/-- The environment variable for a setting. -/
def envName : Setting -> String
  | .input => "PGTREE_INPUT"
  | .raw => "PGTREE_RAW"
  | .logLevel => "PGTREE_LOG_LEVEL"
  | .maxExprDepth => "PGTREE_MAX_EXPR_DEPTH"
  | .skipSubqueries => "PGTREE_IGNORE_RT_SUBQUERIES"
  | .skipCtes => "PGTREE_IGNORE_CTE_SUBQUERIES"
  | .skipJoinAliases => "PGTREE_IGNORE_JOIN_ALIASES"
  | .skipRangeTable => "PGTREE_IGNORE_RANGE_TABLE"
  | .showEntries => "PGTREE_EXAMINE_RTES"

def ofWord? (word : String) : Option Setting :=
  all.find? fun setting => setting.word == word

/-- Whether a setting is followed by a value, or is a switch. -/
def takesValue : Setting -> Bool
  | .input | .logLevel | .maxExprDepth => true
  | _ => false

/-- A number that fits 64 bits, with an optional plus sign. -/
def readLimit? (text : String) : Option Nat :=
  let digits := match text.toList with
    | '+' :: rest => rest
    | chars => chars
  match digits.mapM Digit.ofChar? with
  | some (first :: rest) =>
      let value := Digits.toNat (first :: rest)
      if value < UInt64.size then some value else none
  | _ => none

/-- Whether a value makes sense for a setting.  A switch is `true` or `false`. -/
def accepts (setting : Setting) (value : String) : Bool :=
  match setting with
  | .input | .logLevel => true
  | .maxExprDepth => (readLimit? value).isSome
  | _ => value == "true" || value == "false"

end Setting

/-!
# One side of a command line
-/

/-- The settings given on one side of the command word. -/
structure Settings where
  given : List (Setting × String)
  /-- A setting that was named last, with its value if that has been read. -/
  pending : Option (Setting × Option String)

namespace Settings

def empty : Settings where
  given := []
  pending := none

def value? (settings : Settings) (setting : Setting) : Option String :=
  settings.given.lookup setting

/-- Give a value to a setting that has none yet. -/
def give (settings : Settings) (setting : Setting) (value : String) : Except Usage Settings :=
  if (settings.value? setting).isNone && setting.accepts value then
    .ok { settings with given := (setting, value) :: settings.given }
  else .error .invalid

/-- Give the pending setting its value. -/
def settle (settings : Settings) : Except Usage Settings :=
  match settings.pending with
  | none => .ok settings
  | some (_, none) => .error .invalid
  | some (setting, some value) => { settings with pending := none }.give setting value

/-- Whether the next word is a value. -/
def isWaiting (settings : Settings) : Bool :=
  match settings.pending with
  | some (_, none) => true
  | _ => false

/-- Take the value that the pending setting waits for. -/
def fill (settings : Settings) (value : String) : Settings :=
  { settings with pending := settings.pending.map fun (setting, _) => (setting, some value) }

/-- A setting, with the value attached to it. -/
def name (settings : Settings) (setting : Setting) (attached : Option String) :
    Except Usage Settings := do
  let settings ← settings.settle
  match setting.takesValue, attached with
  | true, some value => settings.give setting value
  | true, none => return { settings with pending := some (setting, none) }
  | false, none => settings.give setting "true"
  | false, some _ => throw .invalid

/-- Ask for help, after what came before has been found in order. -/
def help (settings : Settings) : Except Usage Settings := do
  let _ ← settings.settle
  throw .help

/-- A word that starts with two dashes. -/
def long (settings : Settings) (word : List Char) : Except Usage Settings :=
  let name := String.ofList (word.takeWhile (· != '='))
  let attached := match word.dropWhile (· != '=') with
    | _ :: value => some (String.ofList value)
    | [] => none
  if name == "help" then
    if attached.isNone then settings.help else .error .invalid
  else
    match Setting.ofWord? name with
    | some setting => settings.name setting attached
    | none => .error .invalid

/-- A word that starts with one dash. -/
def short (settings : Settings) : List Char -> Except Usage Settings
  | 'h' :: _ => settings.help
  | ['i'] => settings.name .input none
  | 'i' :: '=' :: value => settings.name .input (some (String.ofList value))
  | 'i' :: value => settings.name .input (some (String.ofList value))
  | _ => .error .invalid

/-- A word that names a setting; `none` for any other word. -/
def dashed? (settings : Settings) (word : String) : Option (Except Usage Settings) :=
  match word.toList with
  | '-' :: '-' :: rest => some (settings.long rest)
  | '-' :: c :: rest => some (settings.short (c :: rest))
  | _ => none

/-- Read settings up to a command word, if one is expected.  After two dashes
alone no further word is accepted. -/
def readWords (expectCommand : Bool) (settings : Settings) :
    List String -> Except Usage (Settings × Option (Command × List String))
  | [] => .ok (settings, none)
  | word :: rest =>
      if settings.isWaiting then
        match settings.dashed? word with
        | some _ => .error .invalid
        | none => readWords expectCommand (settings.fill word) rest
      else if expectCommand && word == "help" then .error (helpFor rest)
      else
        match if expectCommand then Command.ofWord? word else none with
        | some command => .ok (settings, some (command, rest))
        | none =>
            if word == "--" then
              if rest.isEmpty then .ok (settings, none) else .error .invalid
            else
              match settings.dashed? word with
              | some (.ok settings) => readWords expectCommand settings rest
              | some (.error usage) => .error usage
              | none => .error .invalid
where
  /-- What the help command answers: help on the program, or on one command. -/
  helpFor : List String -> Usage
    | [] => .help
    | [word] => if word == "help" || (Command.ofWord? word).isSome then .help else .invalid
    | _ => .invalid

/-- Whether the environment makes sense for all settings that are not given. -/
def acceptsEnv (settings : Settings) (env : String -> Option String) : Bool :=
  Setting.all.all fun setting =>
    (settings.value? setting).isSome || (env setting.envName).all setting.accepts

end Settings

/-!
# The whole command line
-/

namespace Options

/-- The options for a command, given the value of each setting. -/
def ofSettings (command : Command) (value? : Setting -> Option String) : Options :=
  let isOn (setting : Setting) : Bool := value? setting == some "true"
  { command
    input := value? .input
    raw := isOn .raw
    logLevel := (value? .logLevel).getD "warn"
    maxExprDepth := ((value? .maxExprDepth).bind Setting.readLimit?).getD Nesting.defaultLimit
    scope := {
      skipSubqueries := isOn .skipSubqueries
      skipCtes := isOn .skipCtes
      skipJoinAliases := isOn .skipJoinAliases
      skipRangeTable := isOn .skipRangeTable
      showEntries := isOn .showEntries } }

/-- Read a command line in an environment. -/
def parse (words : List String) (env : String -> Option String) : Except Usage Options := do
  let (before, found) ← Settings.readWords true .empty words
  match found with
  | none => throw .invalid
  | some (command, rest) =>
      let (after, _) ← Settings.readWords false .empty rest
      let after ← after.settle
      unless after.acceptsEnv env do throw .invalid
      let before ← before.settle
      unless before.acceptsEnv env do throw .invalid
      return ofSettings command fun setting =>
        after.value? setting <|> before.value? setting <|> env setting.envName

end Options

end QueryTree
