import QueryTree.Command.Run

/-!
# The program

Reads the command line and the input, and prints what the command printed.
-/

namespace QueryTree

/-- The environment variables that stand for settings. -/
def readVariables : IO (List (String × String)) := do
  let mut found := []
  for setting in Setting.all do
    if let some value ← IO.getEnv setting.envName then
      found := (setting.envName, value) :: found
  return found

/-- The text of the input, `none` if it cannot be read. -/
def readInput (input : Option String) : IO (Option String) := do
  try
    match input with
    | none => return some (← (← IO.getStdin).readToEnd)
    | some path => return some (← IO.FS.readFile path)
  catch _ => return none

end QueryTree

open QueryTree

def main (words : List String) : IO UInt32 := do
  let env ← readVariables
  match Options.parse words (fun name => env.lookup name) with
  | .error usage => return UInt32.ofNat usage.exitCode
  | .ok options =>
      let outcome := match ← readInput options.input with
        | some text => options.run text
        | none => .unreadable (options.input.getD "stdin")
      IO.print outcome.output
      if let some message := outcome.failure then
        IO.eprintln ("Error: " ++ message)
      return UInt32.ofNat outcome.exitCode
