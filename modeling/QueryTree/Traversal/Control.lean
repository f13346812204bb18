import QueryTree.Traversal.Nesting

/-!
# Stopping early

A visitor says after each node whether the walk goes on.  Steps are run in order
until one of them asks to stop.
-/

namespace QueryTree

/-- What a visitor wants to happen next. -/
inductive Control where
  | proceed
  | stop
deriving DecidableEq, Repr

instance : Named Control where
  members := [.proceed, .stop]
  name
    | .proceed => "Continue"
    | .stop => "Stop"

namespace Traversal

variable {σ ε α : Type}

/-- Run a second step unless the first one asks to stop. -/
def andThen (first second : Traversal σ ε Control) : Traversal σ ε Control := do
  match ← first with
  | .stop => return .stop
  | .proceed => second

/-- Visit one thing after the other until a visit asks to stop. -/
def visitAll (visit : α -> Traversal σ ε Control) : List α -> Traversal σ ε Control
  | [] => return .proceed
  | x :: rest => andThen (visit x) (visitAll visit rest)

end Traversal

end QueryTree
