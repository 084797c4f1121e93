import MarkdownLists.Writer.Escape

/-! # Backtick fences

A fence of backticks is longer than every run of backticks in what it encloses.
-/

namespace MarkdownLists.Writer
set_option autoImplicit false

/-- The shortest fence around `content` of at least `least` backticks. -/
def fence (least : Nat) (content : Text) : Text :=
  List.replicate (max least (content.longestBacktickRun + 1)) backtick

/-- Whether a code span is written with a space at each end: where a backtick would touch the fence, and
where the reader would otherwise take a space off. -/
def needsPadding (code : Text) : Bool :=
  code.head? = some backtick || code.getLast? = some backtick ||
    (code.head? = some ' ' && code.getLast? = some ' ' && !code.all CharClass.isWhiteSpace)

def codeSpan (code : Text) : Text :=
  let f := fence 1 code
  if needsPadding code then f ++ ' ' :: (code ++ ' ' :: f) else f ++ code ++ f

end MarkdownLists.Writer
