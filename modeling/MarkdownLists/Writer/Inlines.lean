import MarkdownLists.Document
import MarkdownLists.Text.Region
import MarkdownLists.Writer.Fence

/-! # Writing inlines

A draft is a paragraph being written: the finished lines and the current one. Neighbouring texts are
escaped as one, so that a marker cut in two is still seen.
-/

namespace MarkdownLists
set_option autoImplicit false

namespace Target

def writtenDestination (t : Target) : Text :=
  if t.destination.any fun c => c = ' ' || c = '(' || c = ')' then
    '<' :: (t.destination ++ ['>'])
  else t.destination

def writtenTitle (t : Target) : Text :=
  if t.title.isEmpty then []
  else ' ' :: '"' :: (t.title.flatMap (fun c => if c = '"' then ['\\', '"'] else [c]) ++ ['"'])

/-- What follows the text of a link. -/
def tail (t : Target) : Text := ']' :: '(' :: (t.writtenDestination ++ t.writtenTitle ++ [')'])

end Target

namespace Span

def opening : Span → Text
  | emphasis => ['*']
  | strong => ['*', '*']
  | strikethrough => ['~', '~']
  | link _ => ['[']
  | image _ => ['!', '[']

def closing : Span → Text
  | emphasis => ['*']
  | strong => ['*', '*']
  | strikethrough => ['~', '~']
  | link t => t.tail
  | image t => t.tail

/-- The address between angle brackets, for a link that is spelled so. -/
def bareText? : Span → Option Text
  | link t => if t.kind.isBare then some ('<' :: (t.destination ++ ['>'])) else none
  | _ => none

end Span

/-- Whether writing the inline begins with an opening bracket. -/
def Inline.opensBracket : Inline → Bool
  | .span (.link t) _ => !t.kind.isBare
  | _ => false

structure Draft where
  done : List Line
  current : Line

namespace Draft

def empty : Draft := ⟨[], Line.empty⟩

def push (d : Draft) (t : Text) : Draft := { d with current := d.current.push t }

def breakLine (d : Draft) : Draft := ⟨d.done ++ [d.current], Line.empty⟩

/-- Adds text that may hold line feeds. -/
def pushText (d : Draft) (t : Text) : Draft :=
  match t.splitLines with
  | [] => d
  | first :: rest => rest.foldl (fun d part => d.breakLine.push part) (d.push first)

/-- Adds a run of text, escaped. An exclamation mark just before a bracket would make an image. -/
def writeText (d : Draft) (t : Text) (beforeBracket : Bool) : Draft :=
  let escaped := Writer.escape d.current.isBlank t
  d.pushText (if beforeBracket then Writer.escapeLast '!' escaped else escaped)

end Draft

mutual
def Inline.write : Inline → Draft → Draft
  | .text t, d => d.writeText t false
  | .code t, d => d.pushText (Writer.codeSpan t)
  | .html t, d => d.pushText t
  | .softBreak, d => d.breakLine
  | .hardBreak, d => (d.push ['\\']).breakLine
  | .span s children, d =>
    match s.bareText? with
    | some t => d.pushText t
    | none => (Inline.writeAll children [] (d.push s.opening)).pushText s.closing
  | .task true, d => d.push ['[', 'x', ']', ' ']
  | .task false, d => d.push ['[', ' ', ']', ' ']

/-- Writes inlines after a run of text that is still to be escaped. -/
def Inline.writeAll : List Inline → Text → Draft → Draft
  | [], run, d => d.writeText run false
  | .text t :: rest, run, d => Inline.writeAll rest (run ++ t) d
  | i :: rest, run, d => Inline.writeAll rest [] (i.write (d.writeText run i.opensBracket))
end

theorem Inline.writeAll_span_cons (s : Span) (children rest : List Inline) (run : Text) (d : Draft) :
    writeAll (.span s children :: rest) run d =
      writeAll rest [] ((span s children).write (d.writeText run (span s children).opensBracket)) := rfl

def Inline.region (content : List Inline) : Region :=
  ⟨(Inline.writeAll content [] .empty).breakLine.done⟩

end MarkdownLists
