import QueryTree.Command.Options
import QueryTree.Command.Report
import QueryTree.Json.Printer
import QueryTree.Node.Reader
import QueryTree.RawNode.Reader

/-!
# Carrying out a command

A command prints to its output and may fail at any point; what it printed before
that stays.
-/

namespace QueryTree

/-- What a command printed, and why it failed if it did. -/
structure Outcome where
  output : String
  failure : Option String
deriving DecidableEq, Repr

namespace Outcome

def success (output : String) : Outcome where
  output := output
  failure := none

def failed (message : String) : Outcome where
  output := ""
  failure := some message

/-- The input file cannot be read. -/
def unreadable (path : String) : Outcome :=
  failed ("Failed to read " ++ path)

/-- The outcome of printing a result, if there is one. -/
def ofResult {α : Type} (result : Except TreeError α) (print : α -> String) : Outcome :=
  match result with
  | .ok value => success (print value)
  | .error error => failed error.message

def exitCode (outcome : Outcome) : Nat :=
  if outcome.failure.isSome then 1 else 0

end Outcome

namespace Command

/-- One line for each kind with its count, sorted by name. -/
def printCounts {α : Type} [Named α] (counts : List (α × Nat)) : String :=
  let sorted := counts.mergeSort fun a b => Named.name a.1 <= Named.name b.1
  sorted.foldl (fun out (tag, count) => out ++ Named.name tag ++ "\t" ++ toString count ++ "\n") ""

def printJson (value : Json) : String :=
  value.pretty ++ "\n"

def printBool (value : Bool) : String :=
  if value then "true" else "false"

/-- One line for each output column: its position, its name, and whether it
returns a set. -/
def checkTargets (nesting : Nesting) (output : String) : List Node -> Outcome
  | [] => .success output
  | .targetEntry data expr :: rest =>
      match Lookup.answer expr.returnsSet nesting with
      | .ok returnsSet =>
          let line :=
            toString data.resno.toInt ++ "\t" ++ data.name.getD "?column?" ++ "\t" ++
              printBool returnsSet ++ "\n"
          checkTargets nesting (output ++ line) rest
      | .error error => { output, failure := some error.message }
  | other :: _ =>
      { output, failure := some ("Unexpected " ++ other.tag.name ++ " in target list") }

/-- Report on the columns of a query, or on a single expression. -/
def checkTree (nesting : Nesting) : Node -> Outcome
  | .query q => checkTargets nesting "" q.targetList
  | node => .ofResult (Lookup.answer node.returnsSet nesting) fun returnsSet =>
      printBool returnsSet ++ "\n"

/-- Carry out a command on an analyzed tree. -/
def runOn (command : Command) (scope : Scope) (nesting : Nesting) (tree : Node) : Outcome :=
  match command with
  | .kinds => .ofResult (countKinds scope nesting tree) printCounts
  | .attrs => .ofResult (collectAttributes .builtin scope nesting tree) fun rows =>
      printJson (.arr (rows.map AttributeRow.toJson))
  | .strip => .ofResult (stripTree scope nesting tree) fun stripped =>
      printJson (stripped.toJson .single)
  | .check => checkTree nesting tree

end Command

namespace Options

/-- Carry out a command line on the text of its input. -/
def run (options : Options) (text : String) : Outcome :=
  let nesting := Nesting.start options.maxExprDepth
  if options.raw then
    if options.command = .kinds then
      match RawNode.ofText? text with
      | some tree => .ofResult (countRawKinds nesting tree) Command.printCounts
      | none => .failed "Failed to parse raw tree"
    else .failed "--raw only supports the kinds command"
  else
    match Node.ofText? text with
    | some tree => options.command.runOn options.scope nesting tree
    | none => .failed "Failed to parse query tree"

end Options

end QueryTree
