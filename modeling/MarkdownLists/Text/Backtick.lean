import MarkdownLists.Text.Line

/-! # Runs of backticks

The longest run is found in one pass over the text, which counts how long the run is that it has just read and keeps
the greatest of these counts.
-/

namespace MarkdownLists
set_option autoImplicit false

def backtick : Char := '\x60'

/-- The length of the run at the end of what has been read, and of the longest run in it. -/
structure BacktickCount where
  current : Nat
  longest : Nat
  deriving DecidableEq, Repr

namespace BacktickCount

def start : BacktickCount := ⟨0, 0⟩

def read (n : BacktickCount) (c : Char) : BacktickCount :=
  if c = backtick then ⟨n.current + 1, max n.longest (n.current + 1)⟩ else ⟨0, n.longest⟩

end BacktickCount

namespace Text

/-- The number of backticks at the front. -/
def backtickRun : Text → Nat
  | [] => 0
  | c :: rest => if c = backtick then backtickRun rest + 1 else 0

def longestBacktickRun (t : Text) : Nat := (t.foldl BacktickCount.read .start).longest

end Text

end MarkdownLists
