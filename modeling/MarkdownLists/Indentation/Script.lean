import MarkdownLists.Indentation

/-! # Scripts of scopes

A script is a sequence of steps on one context: scopes that hold further steps, guarded steps whose failure
is absorbed, and steps that fail. Running one logs where the context stands after each finished step.
-/

namespace MarkdownLists
set_option autoImplicit false

inductive Step
  | read
  | options
  | indent (width : Nat) (steps : List Step)
  | attempt (steps : List Step)
  | fail (reason : Text)
  | panic
  deriving Repr

/-- How a sequence of steps ended. -/
abbrev Ending := Except (Failure Text) Unit

inductive LogEntry
  | options (o : Options)
  | entered (indent depth : Nat)
  | attempted (ending : Ending)
  | at (indent depth : Nat)

namespace Step

/-- Logs where the context stands. -/
def mark (entry : Nat → Nat → LogEntry) : Render LogEntry Text Unit := do
  let c ← Render.context
  Render.emit (entry c.indent c.depth)

mutual
def run : Step → Render LogEntry Text Unit
  | .read => mark .at
  | .options => do
    let c ← Render.context
    Render.emit (.options c.options)
  | .indent width steps => do
    Render.indented width do
      mark .entered
      runAll steps
    mark .at
  | .attempt steps => do
    let ending ← Render.attempt (runAll steps)
    Render.emit (.attempted ending)
    mark .at
  | .fail reason => Render.fail reason
  | .panic => Render.panic .requested

def runAll : List Step → Render LogEntry Text Unit
  | [] => pure ()
  | s :: rest => do
    s.run
    runAll rest
end

end Step

end MarkdownLists
