import MarkdownLists.Indentation.Script
import MarkdownLists.Proofs.Runs
import Mathlib.Algebra.GroupWithZero.Nat

/-! # Scopes as a stack

The course of a script can be told from its text alone: which of its steps finish, which scopes stand around them,
and what ends it. A run knows no stack of scopes. It only adds to two counters and takes away from them, but whenever
a step has finished these are the sum of the widths and the number of the scopes around it, also if a failure has just
left any number of scopes. In the end the context is the one at the start.
-/

namespace MarkdownLists
set_option autoImplicit false

/-! ## The course of a script -/

/-- What a script comes to. Scopes are given by their widths, the innermost first. -/
inductive Moment
  | options
  | entered (scopes : List Nat)
  | attempted (ending : Ending)
  | finished (scopes : List Nat)

structure Course where
  moments : List Moment
  ending : Ending

def Course.reached (moments : List Moment) : Course := ⟨moments, .ok ()⟩

/-- The course of `x`, and then that of `y` unless `x` has failed. -/
def Course.andThen (x y : Course) : Course :=
  match x.ending with
  | .ok () => ⟨x.moments ++ y.moments, y.ending⟩
  | .error f => ⟨x.moments, .error f⟩

namespace Step

mutual
/-- The course of a step that stands inside `scopes`. -/
def course (scopes : List Nat) : Step → Course
  | .read => .reached [.finished scopes]
  | .options => .reached [.options]
  | .indent width steps =>
    ((Course.reached [.entered (width :: scopes)]).andThen (courseAll (width :: scopes) steps)).andThen
      (.reached [.finished scopes])
  | .attempt steps =>
    let inner := courseAll scopes steps
    .reached (inner.moments ++ [.attempted inner.ending, .finished scopes])
  | .fail reason => ⟨[], .error (.error reason)⟩
  | .panic => ⟨[], .error (.panic .requested)⟩

def courseAll (scopes : List Nat) : List Step → Course
  | [] => .reached []
  | s :: rest => (s.course scopes).andThen (courseAll scopes rest)
end

mutual
def widths : Step → Nat
  | .indent width steps => width + widthsAll steps
  | .attempt steps => widthsAll steps
  | _ => 0

def widthsAll : List Step → Nat
  | [] => 0
  | s :: rest => s.widths + widthsAll rest
end

end Step

/-! ## Runs along a course -/

def Context.within (scopes : List Nat) (c : Context) : Context :=
  { c with indent := c.indent + scopes.sum, depth := c.depth + scopes.length }

theorem Context.enter_within (width : Nat) (scopes : List Nat) (c : Context) :
    (c.within scopes).enter width = c.within (width :: scopes) := by
  simp only [within, enter, List.sum_cons, List.length_cons, Context.mk.injEq, true_and]
  omega

/-- What is logged at a moment of a script that starts in `c`. -/
def Moment.entry (c : Context) : Moment → LogEntry
  | .options => .options c.options
  | .entered scopes => .entered (c.indent + scopes.sum) (c.depth + scopes.length)
  | .attempted ending => .attempted ending
  | .finished scopes => .at (c.indent + scopes.sum) (c.depth + scopes.length)

variable {c : Context} {scopes : List Nat} {a b : Render LogEntry Text Unit} {x y : Course}

/-- Inside `scopes`, the action logs the course, ends like it, and leaves the context as it was. -/
def Takes (c : Context) (scopes : List Nat) (a : Render LogEntry Text Unit) (x : Course) : Prop :=
  ∀ log, a ⟨c.within scopes, log⟩ =
    (x.ending, ⟨c.within scopes, log ++ x.moments.map (Moment.entry c)⟩)

namespace Takes

theorem mark_at (c : Context) (scopes : List Nat) : Takes c scopes (Step.mark .at) (.reached [.finished scopes]) :=
  fun _ => rfl

theorem mark_entered (c : Context) (scopes : List Nat) :
    Takes c scopes (Step.mark .entered) (.reached [.entered scopes]) := fun _ => rfl

theorem emit (m : Moment) : Takes c scopes (Render.emit (m.entry c)) (.reached [m]) := fun _ => rfl

theorem failed (f : Failure Text) : Takes c scopes (throw f) ⟨[], .error f⟩ := by
  intro log
  rw [List.map_nil, List.append_nil]
  rfl

theorem done : Takes c scopes (pure ()) (.reached []) := by
  intro log
  rw [Course.reached, List.map_nil, List.append_nil]
  rfl

theorem bind (ha : Takes c scopes a x) (hb : Takes c scopes b y) :
    Takes c scopes (a >>= fun _ => b) (x.andThen y) := by
  intro log
  have hFirst := ha log
  rw [Course.andThen]
  cases hEnding : x.ending with
  | ok u =>
    rw [hEnding] at hFirst
    rw [Render.bind_apply_ok hFirst, hb, List.map_append, List.append_assoc]
  | error f =>
    rw [hEnding] at hFirst
    rw [Render.bind_apply_error hFirst]

theorem indented {width : Nat} (ha : Takes c (width :: scopes) a x) :
    Takes c scopes (Render.indented width a) x := by
  intro log
  -- However the action ends, the scope is left in the context in which it was entered.
  rw [Render.indented, Context.enter_within, ha, ← Context.enter_within]
  dsimp only
  rw [Context.leave?_enter]

theorem attempt (ha : Takes c scopes a x) :
    Takes c scopes (do Render.emit (.attempted (← Render.attempt a)); Step.mark .at)
      (.reached (x.moments ++ [.attempted x.ending, .finished scopes])) := by
  have hRest : Takes c scopes (do Render.emit (.attempted x.ending); Step.mark .at)
      (.reached [.attempted x.ending, .finished scopes]) := (emit (.attempted x.ending)).bind (mark_at c scopes)
  intro log
  have hAttempt : Render.attempt a ⟨c.within scopes, log⟩ =
      (.ok x.ending, ⟨c.within scopes, log ++ x.moments.map (Moment.entry c)⟩) := by
    rw [Render.attempt, ha]
  rw [Render.bind_apply_ok hAttempt, hRest, List.append_assoc, ← List.map_append]
  rfl

end Takes

namespace Step

mutual
theorem takes_run (s : Step) (c : Context) (scopes : List Nat) : Takes c scopes s.run (s.course scopes) := by
  cases s with
  | read => exact Takes.mark_at c scopes
  | options => exact .emit .options
  | indent width steps =>
    have hSteps := (Takes.mark_entered c (width :: scopes)).bind (takes_runAll steps c (width :: scopes))
    exact hSteps.indented.bind (.mark_at c scopes)
  | attempt steps => exact (takes_runAll steps c scopes).attempt
  | fail reason => exact .failed _
  | panic => exact .failed _

theorem takes_runAll (steps : List Step) (c : Context) (scopes : List Nat) :
    Takes c scopes (runAll steps) (courseAll scopes steps) := by
  cases steps with
  | nil => exact .done
  | cons s rest => exact (takes_run s c scopes).bind (takes_runAll rest c scopes)
end

end Step

/-! ## Balance -/

/-- The moment tells of no scope that could not be left, and the scopes around it are at most `bound` wide together. -/
def Moment.IsBalanced (bound : Nat) : Moment → Prop
  | .options => True
  | .entered scopes => scopes.sum ≤ bound
  | .attempted ending => ending ≠ .error (.panic .unbalancedScope)
  | .finished scopes => scopes.sum ≤ bound

structure Course.IsBalanced (bound : Nat) (x : Course) : Prop where
  moments : ∀ m ∈ x.moments, m.IsBalanced bound
  ending : x.ending ≠ .error (.panic .unbalancedScope)

namespace Course

variable {bound : Nat}

theorem isBalanced_reached {moments : List Moment} (h : ∀ m ∈ moments, m.IsBalanced bound) :
    (reached moments).IsBalanced bound := ⟨h, nofun⟩

theorem IsBalanced.andThen (hx : x.IsBalanced bound) (hy : y.IsBalanced bound) :
    (x.andThen y).IsBalanced bound := by
  rw [Course.andThen]
  cases hEnding : x.ending with
  | ok u => exact ⟨List.forall_mem_append.mpr ⟨hx.moments, hy.moments⟩, hy.ending⟩
  | error f =>
    have hFailed := hx.ending
    rw [hEnding] at hFailed
    exact ⟨hx.moments, hFailed⟩

end Course

namespace Step

mutual
theorem isBalanced_course (s : Step) {scopes : List Nat} {bound : Nat} (h : scopes.sum + s.widths ≤ bound) :
    (s.course scopes).IsBalanced bound := by
  have hHere : scopes.sum ≤ bound := Nat.le_of_add_right_le h
  have hFinished : (Course.reached [.finished scopes]).IsBalanced bound :=
    Course.isBalanced_reached (List.forall_mem_singleton.mpr hHere)
  cases s with
  | read => exact hFinished
  | options => exact Course.isBalanced_reached (List.forall_mem_singleton.mpr trivial)
  | indent width steps =>
    rw [widths] at h
    have hInside : (width :: scopes).sum + widthsAll steps ≤ bound := by
      rw [List.sum_cons]
      omega
    have hEntered : (Course.reached [.entered (width :: scopes)]).IsBalanced bound :=
      Course.isBalanced_reached (List.forall_mem_singleton.mpr (Nat.le_of_add_right_le hInside))
    exact (hEntered.andThen (isBalanced_courseAll steps hInside)).andThen hFinished
  | attempt steps =>
    obtain ⟨hMoments, hEnding⟩ := isBalanced_courseAll steps h
    refine Course.isBalanced_reached (List.forall_mem_append.mpr ⟨hMoments, ?_⟩)
    exact List.forall_mem_cons.mpr ⟨hEnding, hFinished.moments⟩
  | fail reason => exact ⟨List.forall_mem_nil _, nofun⟩
  | panic => exact ⟨List.forall_mem_nil _, nofun⟩

theorem isBalanced_courseAll (steps : List Step) {scopes : List Nat} {bound : Nat}
    (h : scopes.sum + widthsAll steps ≤ bound) : (courseAll scopes steps).IsBalanced bound := by
  cases steps with
  | nil => exact Course.isBalanced_reached (List.forall_mem_nil _)
  | cons s rest =>
    rw [widthsAll] at h
    have hFirst : scopes.sum + s.widths ≤ bound := by omega
    have hRest : scopes.sum + widthsAll rest ≤ bound := by omega
    exact (isBalanced_course s hFirst).andThen (isBalanced_courseAll rest hRest)
end

/-- A run logs the course of the script, with the widths and the number of the scopes around each step that has
finished, ends like it, and leaves the context as it was. No scope ever takes back more than there is, and no column
exceeds the one at the start by more than the widths of all scopes together, so that it fits where these do. -/
theorem runAll_eq_courseAll (steps : List Step) (w : World LogEntry) :
    runAll steps w = ((courseAll [] steps).ending,
      ⟨w.context, w.log ++ (courseAll [] steps).moments.map (Moment.entry w.context)⟩) ∧
    (courseAll [] steps).IsBalanced (widthsAll steps) := by
  constructor
  · exact takes_runAll steps w.context [] w.log
  · exact isBalanced_courseAll steps (Nat.le_of_eq (Nat.zero_add _))

example : (courseAll [] [.indent 2 [.attempt [.indent 3 [.indent 1 [.panic]], .read], .read]]).moments =
    [.entered [2], .entered [3, 2], .entered [1, 3, 2], .attempted (.error (.panic .requested)), .finished [2],
      .finished [2], .finished []] := rfl

end Step

end MarkdownLists
