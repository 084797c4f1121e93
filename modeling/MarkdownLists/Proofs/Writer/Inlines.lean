import MarkdownLists.Proofs.Text.Lines
import MarkdownLists.Proofs.Writer.Escape

/-! # Lines of a draft

Writing only ever adds to the end of a draft: the finished lines stay as they are. So the first line of a
paragraph that begins with text is decided by this text.
-/

namespace MarkdownLists
set_option autoImplicit false

namespace Draft

/-- What the lines of the draft say, the current one last. -/
def lines (d : Draft) : List Text := (d.done ++ [d.current]).map Line.text

theorem lines_foldl (d : Draft) (parts : List Text) :
    (parts.foldl (fun d part => d.breakLine.push part) d).lines = d.lines ++ parts := by
  induction parts generalizing d with
  | nil => simp
  | cons part rest ih =>
    rw [List.foldl_cons, ih]
    simp [lines, push, breakLine]

theorem lines_pushText_empty (t : Text) : (empty.pushText t).lines = t.splitLines := by
  obtain ⟨first, rest, hLines⟩ := List.exists_cons_of_ne_nil (Text.splitLines_ne_nil t)
  rw [pushText, hLines]
  dsimp only
  rw [lines_foldl]
  simp [lines, push, empty]

/-- All that is added to the draft is at the end of its current line. -/
structure Extends (d : Draft) (t : Text) (d' : Draft) : Prop where
  done : d'.done = d.done
  current : d'.current.text = d.current.text ++ t

namespace Extends

variable {d d' d'' : Draft} {t u : Text}

theorem push (d : Draft) (t : Text) : d.Extends t (d.push t) := ⟨rfl, Line.text_push _ _⟩

theorem pushText (d : Draft) (h : '\n' ∉ t) : d.Extends t (d.pushText t) := by
  rw [Draft.pushText, Text.splitLines_of_not_mem h]
  exact push d t

theorem writeText (d : Draft) (h : '\n' ∉ t) :
    d.Extends (Writer.escape d.current.isBlank t) (d.writeText t false) :=
  pushText d (Writer.newline_not_mem_escape h)

theorem writeText_of_blank (hBlank : d.current.text = []) (h : '\n' ∉ t) :
    d.Extends (Writer.escape true t) (d.writeText t false) := by
  have hStart : d.current.isBlank = true := d.current.isBlank_iff.mpr hBlank
  rw [← hStart]
  exact writeText d h

theorem trans (h : d.Extends t d') (h' : d'.Extends u d'') : d.Extends (t ++ u) d'' where
  done := h'.done.trans h.done
  current := by rw [h'.current, h.current, List.append_assoc]

theorem lines (h : d.Extends t d') : d'.lines = d.done.map Line.text ++ [d.current.text ++ t] := by
  rw [Draft.lines, h.done, List.map_append, List.map_singleton, h.current]

end Extends

theorem done_prefix_foldl (d : Draft) (parts : List Text) :
    d.done <+: (parts.foldl (fun d part => d.breakLine.push part) d).done := by
  induction parts generalizing d with
  | nil => exact List.prefix_rfl
  | cons part rest ih => exact (List.prefix_append _ _).trans (ih (d.breakLine.push part))

theorem done_prefix_pushText (d : Draft) (t : Text) : d.done <+: (d.pushText t).done := by
  unfold pushText
  split
  · exact List.prefix_rfl
  · exact done_prefix_foldl (d.push _) _

end Draft

namespace Inline

open Draft

mutual
theorem done_prefix_write (i : Inline) (d : Draft) : d.done <+: (i.write d).done := by
  cases i with
  | text t => exact done_prefix_pushText d _
  | code t => exact done_prefix_pushText d _
  | html t => exact done_prefix_pushText d _
  | softBreak => exact List.prefix_append _ _
  | hardBreak => exact List.prefix_append _ _
  | span s children =>
    rw [write]
    split
    · exact done_prefix_pushText d _
    · exact (done_prefix_writeAll children [] (d.push s.opening)).trans (done_prefix_pushText _ _)
  | task done => cases done <;> exact List.prefix_rfl

theorem done_prefix_writeAll (content : List Inline) (run : Text) (d : Draft) :
    d.done <+: (writeAll content run d).done := by
  cases content with
  | nil => exact done_prefix_pushText d _
  | cons i rest =>
    have hRun := done_prefix_pushText d
    cases i with
    | text t => exact done_prefix_writeAll rest (run ++ t) d
    | _ => exact ((hRun _).trans (done_prefix_write _ _)).trans (done_prefix_writeAll rest [] _)
end

def isText : Inline → Bool
  | .text _ => true
  | _ => false

/-- Text and soft breaks are all that stands in the paragraph. -/
def isPlain : Inline → Bool
  | .text _ | .softBreak => true
  | _ => false

/-- The text before the first break. -/
def leadText : List Inline → Text
  | .text t :: rest => t ++ leadText rest
  | _ => []

theorem writeAll_of_isPlain {content : List Inline} (h : ∀ i ∈ content, i.isPlain = true) (run : Text)
    (d : Draft) :
    writeAll content run d = d.writeText (run ++ leadText content) false ∨
      ∃ rest, writeAll content run d = writeAll rest [] (d.writeText (run ++ leadText content) false).breakLine := by
  induction content generalizing run with
  | nil =>
    left
    rw [leadText, List.append_nil]
    · rfl
    · exact nofun
  | cons i rest ih =>
    cases i with
    | text t =>
      have hRest := ih (fun i hi => h i (List.mem_cons_of_mem _ hi)) (run ++ t)
      rwa [List.append_assoc] at hRest
    | softBreak =>
      right
      refine ⟨rest, ?_⟩
      rw [leadText, List.append_nil]
      · rfl
      · exact nofun
    | _ => cases h _ List.mem_cons_self

theorem map_text_region (content : List Inline) :
    (region content).lines.map Line.text = (writeAll content [] .empty).lines := rfl

/-- The paragraph begins with the lines of its first text, written as a text that begins a line. -/
theorem prefix_region_of_isPlain {content : List Inline} (h : ∀ i ∈ content, i.isPlain = true) :
    (Writer.escape true (leadText content)).splitLines <+: (region content).lines.map Line.text := by
  have hLines := lines_pushText_empty (Writer.escape true (leadText content))
  rw [map_text_region]
  rcases writeAll_of_isPlain h [] .empty with hWrite | ⟨rest, hWrite⟩
  · rw [hWrite, List.nil_append, ← hLines]
    exact List.prefix_rfl
  · rw [hWrite, List.nil_append, ← hLines]
    have hDone := done_prefix_writeAll rest [] (Draft.empty.writeText (leadText content) false).breakLine
    exact (hDone.trans (List.prefix_append _ _)).map Line.text

end Inline

end MarkdownLists
