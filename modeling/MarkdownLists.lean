import MarkdownLists.Format
import MarkdownLists.Indentation.Script
import MarkdownLists.Listing.Script
import MarkdownLists.Main
import MarkdownLists.Proofs.Listing.Alternation
import MarkdownLists.Proofs.Listing.Items
import MarkdownLists.Proofs.Writer.Blocks
import MarkdownLists.Proofs.Listing.Heads
import MarkdownLists.Proofs.Listing.Run
import MarkdownLists.Proofs.Listing.Boundaries
import MarkdownLists.Proofs.Listing.Columns
import MarkdownLists.Proofs.Document.Canonical
import MarkdownLists.Proofs.Writer.Canonical
import MarkdownLists.Proofs.Event.Canonical
import MarkdownLists.Proofs.Format
import MarkdownLists.Proofs.Document.Normal
import MarkdownLists.Proofs.Event.Told
import MarkdownLists.Proofs.Event.Unclosed
import MarkdownLists.Proofs.Event.Normal
import MarkdownLists.Proofs.CommandLine.Run
import MarkdownLists.Proofs.Markdown.NumberedItem
import MarkdownLists.Proofs.Listing.Visits
import MarkdownLists.Proofs.Text.Alike
import MarkdownLists.Proofs.Writer.Sequence
import MarkdownLists.Proofs.Writer.Alike
import MarkdownLists.Proofs.CommandLine.Failure
import MarkdownLists.Proofs.CommandLine.Modes
import MarkdownLists.Proofs.Listing.Spacing
import MarkdownLists.Proofs.Writer.Escape
import MarkdownLists.Proofs.Listing.ItemLines
import MarkdownLists.Proofs.Writer.Inlines
import MarkdownLists.Proofs.Listing.ThematicBreak
import MarkdownLists.Proofs.Markdown.BlockStart
import MarkdownLists.Proofs.Writer.Content
import MarkdownLists.Proofs.Writer.Joined
import MarkdownLists.Proofs.Writer.PlainText
import MarkdownLists.Proofs.Markdown.CodeSpan
import MarkdownLists.Proofs.Document.Regrouped
import MarkdownLists.Proofs.Writer.Emphasis
import MarkdownLists.Proofs.Text.Backtick
import MarkdownLists.Proofs.Markdown.Escape
import MarkdownLists.Proofs.Writer.Quote
import MarkdownLists.Proofs.Markdown.CodeBlock
import MarkdownLists.Proofs.Markdown.LinkSyntax
import MarkdownLists.Proofs.Markdown.LinkTail
import MarkdownLists.Proofs.Markdown.Heading
import MarkdownLists.Proofs.Writer.Fence
import MarkdownLists.Proofs.Indentation.Script
import MarkdownLists.Proofs.Text.Edit
