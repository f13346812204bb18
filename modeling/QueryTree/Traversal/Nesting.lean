import QueryTree.TreeError

/-!
# Bounded nesting

Every recursive step of a traversal or a lookup takes one level of nesting and
gives it back when it is done, however it ends.  A step that would go beyond the
limit fails instead, and takes nothing.  The counter is part of the state that
all steps share, so an operation that is called in the middle of another one
counts on from there.
-/

namespace QueryTree

/-- How deep the current traversal is, and how deep it may get. -/
structure Nesting where
  depth : Nat
  limit : Nat
deriving DecidableEq, Repr

namespace Nesting

/-- The limit when none is chosen. -/
def defaultLimit : Nat := 1000

/-- No traversal is under way. -/
def start (limit : Nat) : Nesting where
  depth := 0
  limit := limit

/-- Take one level. -/
def enter? (nesting : Nesting) : Except TreeError Nesting :=
  if nesting.depth + 1 <= nesting.limit then
    .ok { nesting with depth := nesting.depth + 1 }
  else .error (.stackDepthExceeded (nesting.depth + 1) nesting.limit)

/-- Give one level back. -/
def leave (nesting : Nesting) : Nesting :=
  { nesting with depth := nesting.depth - 1 }

/-- How many levels can still be taken. -/
def remaining (nesting : Nesting) : Nat :=
  nesting.limit - nesting.depth

end Nesting

/-- Errors that a failing tree can be reported as. -/
class OfTreeError (ε : Type) where
  ofTreeError : TreeError -> ε

instance : OfTreeError TreeError where
  ofTreeError error := error

/-- A computation over a tree.  It may fail with an error `ε`, and it keeps the
nesting counter and a state `σ` of its own, which both survive a failure. -/
abbrev Traversal (σ ε : Type) := ExceptT ε (StateM (Nesting × σ))

/-- A computation that only reads a tree. -/
abbrev Lookup := Traversal Unit TreeError

namespace Traversal

variable {σ ε α β : Type}

/-- The current nesting. -/
def nesting : Traversal σ ε Nesting := do
  return (← get).1

/-- How deep the current step is. -/
def depth : Traversal σ ε Nat := do
  return (← nesting).depth

def setNesting (nesting : Nesting) : Traversal σ ε Unit :=
  modify fun (_, state) => (nesting, state)

/-- The state of the computation's own. -/
def state : Traversal σ ε σ := do
  return (← get).2

def modifyState (change : σ -> σ) : Traversal σ ε Unit :=
  modify fun (nesting, state) => (nesting, change state)

/-- Fail because of the tree. -/
def raise [OfTreeError ε] (error : TreeError) : Traversal σ ε α :=
  throw (OfTreeError.ofTreeError error)

/-- Take one level of nesting. -/
def enter [OfTreeError ε] : Traversal σ ε Unit := do
  match (← nesting).enter? with
  | .ok deeper => setNesting deeper
  | .error error => raise error

/-- Give one level back. -/
def leave : Traversal σ ε Unit := do
  setNesting (← nesting).leave

/-- Run a step one level deeper.  The level is given back whether the step
succeeds or fails. -/
def guarded [OfTreeError ε] (step : Traversal σ ε α) : Traversal σ ε α := do
  enter
  tryFinally step leave

/-- Close the recursion of a step that goes one level deeper before it calls
itself.  The levels that remain bound the recursion, so it ends whatever the
step does to the tree. -/
def recurse [OfTreeError ε] (step : (α -> Traversal σ ε β) -> α -> Traversal σ ε β) (input : α) :
    Traversal σ ε β := do
  bounded ((← nesting).remaining + 1) input
where
  bounded : Nat -> α -> Traversal σ ε β
    | 0, _ => do
        let nesting ← nesting
        raise (.stackDepthExceeded (nesting.depth + 1) nesting.limit)
    | levels + 1, input => step (bounded levels) input

/-- A lookup in the middle of a computation with a state and errors of its own. -/
def ofLookup [OfTreeError ε] (lookup : Lookup α) : Traversal σ ε α := do
  let (result, nesting, _) := lookup.run.run (← nesting, ())
  setNesting nesting
  match result with
  | .ok value => pure value
  | .error error => raise error

instance [OfTreeError ε] : MonadLift Lookup (Traversal σ ε) where
  monadLift := ofLookup

/-- Run a computation from a given nesting and state. -/
def runFrom (computation : Traversal σ ε α) (nesting : Nesting) (state : σ) :
    Except ε α × Nesting × σ :=
  computation.run.run (nesting, state)

end Traversal

namespace Lookup

/-- The answer of a lookup that starts with nothing under way. -/
def answer {α : Type} (lookup : Lookup α) (nesting : Nesting) : Except TreeError α :=
  (Traversal.runFrom lookup nesting ()).1

end Lookup

end QueryTree
