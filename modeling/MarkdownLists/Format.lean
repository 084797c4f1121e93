import MarkdownLists.Event.Builder
import MarkdownLists.Markdown.Reader
import MarkdownLists.Writer.Blocks

/-! # Formatting

Formatting a Markdown text reads it, builds the tree of its events, and writes the tree under some options.
-/

namespace MarkdownLists
set_option autoImplicit false

/-- Writes a document under some options, with no indentation around it. -/
def Options.write (o : Options) (blocks : List Block) : Except (Failure Empty) Text :=
  ((Block.document blocks : Render Empty Empty Text).runFrom { options := o }).1

def Options.format (o : Options) (t : Text) : Except (Failure Empty) Text :=
  o.write (Block.ofEvents (Markdown.readEvents t))

/-- The formatted text; a text that could not be written would be left as it is. -/
def Options.formatted (o : Options) (t : Text) : Text :=
  match o.format t with
  | .ok formatted => formatted
  | .error _ => t

end MarkdownLists
