import MarkdownLists.Format
import MarkdownLists.Proofs.Event.Canonical
import MarkdownLists.Proofs.Writer.Canonical

/-! # Formatting and structure

The outline of a Markdown text is what a reader sees of it. Formatting always succeeds and depends on nothing
but the outline. It does not keep every outline, and a second run can change what the first one gave: two
emphasized texts next to each other are written with the same delimiter.
-/

namespace MarkdownLists
set_option autoImplicit false

/-- The events of a text, with neighbouring texts joined and the kinds of links replaced. -/
def Markdown.outlineBy (f : LinkKind → LinkKind) (t : Text) : List Event :=
  Event.merge ((readEvents t).map (Event.respell f))

def Markdown.outline (t : Text) : List Event := outlineBy LinkKind.canonical t

namespace Options

open Markdown

variable (o : Options)

theorem write_eq (blocks : List Block) : o.write blocks = .ok (Block.written o blocks) :=
  congrArg Prod.fst (Block.runs_document blocks ⟨{ options := o }, []⟩)

theorem write_canonicalAll (blocks : List Block) :
    o.write (Block.canonicalAll blocks) = o.write blocks := by
  have hRegion := Block.regionAll_canonicalAll o [] false blocks
  have hEmpty : (Block.canonicalAll blocks).isEmpty = blocks.isEmpty := by
    rw [Block.canonicalAll_eq_map, List.isEmpty_map]
  rw [write_eq, write_eq, Block.written, Block.written, hEmpty, ← hRegion]
  rfl

theorem format_eq_ok (t : Text) : o.format t = .ok (o.formatted t) := by
  rw [formatted, format, write_eq]

theorem format_eq_write_outline (t : Text) :
    o.format t = o.write (Block.ofEvents (outline t)) := by
  rw [format, ← write_canonicalAll, ← Block.canonicalAll_ofEvents, write_canonicalAll]
  rfl

theorem format_congr {t u : Text} (h : outline t = outline u) : o.format t = o.format u := by
  rw [format_eq_write_outline, h, ← format_eq_write_outline]

/-- Next to each other, two emphasized texts are written with four stars that are read as a single emphasis. -/
theorem not_outline_formatted : ¬ ∀ (o : Options) (t : Text),
    outlineBy (fun _ => .inline) (o.formatted t) = outlineBy (fun _ => .inline) t := by
  intro h
  exact absurd (h {} ['*', 'a', '*', '_', 'b', '_']) (by decide +kernel)

/-- The stars between two emphasized texts are escaped the second time. -/
theorem not_formatted_formatted : ¬ ∀ (o : Options) (t : Text),
    o.formatted (o.formatted t) = o.formatted t := by
  intro h
  exact absurd (h {} ['*', 'a', '*', '_', 'b', '_']) (by decide +kernel)

end Options

end MarkdownLists
