import MarkdownLists.Proofs.Writer.Content

/-! # Writing canonical documents

What is written does not show how a text was cut into pieces, and of the spelling of a link only whether its
address is the link. A document and its canonical form are written alike.
-/

namespace MarkdownLists
set_option autoImplicit false

@[simp] theorem Span.opening_respell (f : LinkKind → LinkKind) (s : Span) :
    (s.respell f).opening = s.opening := by
  cases s <;> rfl

@[simp] theorem Span.closing_respell (f : LinkKind → LinkKind) (s : Span) :
    (s.respell f).closing = s.closing := by
  cases s <;> rfl

@[simp] theorem Span.bareText?_respell (s : Span) :
    (s.respell LinkKind.canonical).bareText? = s.bareText? := by
  cases s <;> simp [respell, bareText?, Target.respell]

namespace Inline

@[simp] theorem opensBracket_canonical (i : Inline) : i.canonical.opensBracket = i.opensBracket := by
  cases i with
  | span s children => cases s <;> simp [canonical, Span.respell, opensBracket, Target.respell]
  | _ => rfl

theorem writeAll_consJoined (i : Inline) (xs : List Inline) (run : Text) (d : Draft) :
    writeAll (consJoined i xs) run d = writeAll (i :: xs) run d := by
  cases i with
  | text t =>
    cases xs with
    | nil => rfl
    | cons j rest =>
      cases j with
      | text u => simp [consJoined, writeAll]
      | _ => rfl
  | _ => rfl

mutual
theorem write_canonical (i : Inline) (d : Draft) : i.canonical.write d = i.write d := by
  cases i with
  | span s children => simp [canonical, write, writeAll_canonicalAll children]
  | _ => rfl

theorem writeAll_canonicalAll (xs : List Inline) (run : Text) (d : Draft) :
    writeAll (canonicalAll xs) run d = writeAll xs run d := by
  cases xs with
  | nil => rfl
  | cons i rest =>
    have hWrite := write_canonical i
    have hBracket := opensBracket_canonical i
    rw [canonicalAll, writeAll_consJoined]
    cases i with
    | text t => exact writeAll_canonicalAll rest (run ++ t) d
    | span s children =>
      rw [canonical] at hWrite hBracket ⊢
      rw [writeAll_span_cons, writeAll_span_cons, hWrite, hBracket, writeAll_canonicalAll rest]
    | _ => exact writeAll_canonicalAll rest [] _
end

@[simp] theorem region_canonicalAll (content : List Inline) : region (canonicalAll content) = region content := by
  rw [region, writeAll_canonicalAll, region]

end Inline

theorem Block.regionAll_canonicalAll (o : Options) (before : List Block) (tight : Bool) (blocks : List Block) :
    regionAll o (canonicalAll before) tight (canonicalAll blocks) = regionAll o before tight blocks := by
  rw [canonicalAll_eq_mapContentAll, canonicalAll_eq_mapContentAll]
  exact regionAll_mapContentAll o Inline.region_canonicalAll before tight blocks

end MarkdownLists
