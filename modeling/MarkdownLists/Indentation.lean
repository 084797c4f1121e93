import MarkdownLists.Options

/-! # Indentation

Rendering runs in a context that holds the options, the column at which the text of the current item
begins, and the number of enclosing items. The column only ever grows through `indented`, which takes
its width back on every way out: a result, an error, or a panic. Taking back more than is there is a
panic of its own.

A counter is read as a word of 64 bits. Counting is done in full: a word that is added to and taken from, with
sums that wrap around, stays the word of the full count, and below `UInt64.size` it is that count.
-/

namespace MarkdownLists
set_option autoImplicit false

structure Context where
  options : Options := {}
  indent : Nat := 0
  depth : Nat := 0
  deriving DecidableEq, Repr

namespace Context

def enter (width : Nat) (c : Context) : Context :=
  { c with indent := c.indent + width, depth := c.depth + 1 }

def leave? (width : Nat) (c : Context) : Option Context :=
  if width ≤ c.indent ∧ 1 ≤ c.depth then
    some { c with indent := c.indent - width, depth := c.depth - 1 }
  else none

@[simp] theorem leave?_enter (width : Nat) (c : Context) : (c.enter width).leave? width = some c := by
  simp [enter, leave?]

/-- The indentation and the depth as they are read. -/
def counters (c : Context) : UInt64 × UInt64 := (.ofNat c.indent, .ofNat c.depth)

@[simp] theorem counters_enter (width : Nat) (c : Context) :
    (c.enter width).counters = (c.counters.1 + .ofNat width, c.counters.2 + 1) := by
  simp [enter, counters, UInt64.ofNat_add]

theorem toNat_counters {c : Context} (hIndent : c.indent < UInt64.size) (hDepth : c.depth < UInt64.size) :
    c.counters.1.toNat = c.indent ∧ c.counters.2.toNat = c.depth :=
  ⟨UInt64.toNat_ofNat_of_lt' hIndent, UInt64.toNat_ofNat_of_lt' hDepth⟩

theorem counters_leave? {width : Nat} {c left : Context} (h : c.leave? width = some left) :
    left.counters = (c.counters.1 - .ofNat width, c.counters.2 - 1) := by
  rw [leave?] at h
  split at h
  next hFits =>
    cases h
    simp [counters, UInt64.ofNat_sub hFits.1, UInt64.ofNat_sub hFits.2]
  next => cases h

end Context

/-- A broken promise of the caller or of the library itself. -/
inductive Panic
  | orderedMarkersForBullets
  | markerCount
  | unbalancedScope
  | requested
  deriving DecidableEq, Repr

inductive Failure (ε : Type)
  | error (e : ε)
  | panic (p : Panic)
  deriving DecidableEq, Repr

/-- What an action on a context can see and change: the context, and a log that it may write to. -/
structure World (ω : Type) where
  context : Context
  log : List ω

abbrev Render (ω ε α : Type) := ExceptT (Failure ε) (StateM (World ω)) α

namespace Render

variable {ω ε α : Type}

def context : Render ω ε Context := do return (← get).context

def emit (entry : ω) : Render ω ε Unit := modify fun w => { w with log := w.log ++ [entry] }

def fail (e : ε) : Render ω ε α := throw (.error e)

def panic (p : Panic) : Render ω ε α := throw (.panic p)

/-- Runs `body` in a scope that is `width` columns further right. -/
def indented (width : Nat) (body : Render ω ε α) : Render ω ε α := fun w =>
  let (result, after) := body { w with context := w.context.enter width }
  match after.context.leave? width with
  | some c => (result, { after with context := c })
  | none => (.error (.panic .unbalancedScope), after)

/-- Runs `body` and gives its failure, if it fails, as a value. -/
def attempt (body : Render ω ε α) : Render ω ε (Except (Failure ε) α) := fun w =>
  let (result, after) := body w
  (.ok result, after)

/-- The result of an action, the context that it leaves, and what it wrote to the log. -/
def runFrom (c : Context) (body : Render ω ε α) : Except (Failure ε) α × World ω :=
  body ⟨c, []⟩

end Render

end MarkdownLists
