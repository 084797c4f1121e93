import MarkdownLists.Markdown.Spine
import MarkdownLists.Proofs.Markdown.BlockStart
import MarkdownLists.Proofs.Markdown.Escape
import MarkdownLists.Proofs.Text.Backtick
import MarkdownLists.Proofs.Writer.Quote
import Mathlib.Data.Bool.AllAny

/-! # Fenced code read again

A fenced block is written between two fences that are longer than every run of backticks inside, so that no line of
its content closes it, and a reader finds the content line by line. A content of a single empty line is written
without a line, and lost.
-/

namespace MarkdownLists
set_option autoImplicit false

namespace Markdown

/-! ## Reading a fenced block -/

theorem Cursor.skipFrom_zero (column : Nat) (t : Text) : Cursor.skipFrom 0 column t = ⟨column, t⟩ := by
  unfold Cursor.skipFrom
  split <;> simp

theorem Cursor.rest_skipFrom_widthOf (column : Nat) (t : Text) :
    (Cursor.skipFrom (Cursor.widthOf column t) column t).rest = t.dropWhile CharClass.isBlank := by
  fun_induction Cursor.widthOf column t with
  | case1 column rest ih =>
    rw [Cursor.skipFrom]
    simpa [CharClass.isBlank] using ih
  | case2 column rest ih =>
    have hPos : Cursor.tabWidth column ≠ 0 := by unfold Cursor.tabWidth; omega
    rw [Cursor.skipFrom]
    simpa [CharClass.isBlank, hPos] using ih
  | case3 t column hSpace hTab =>
    rw [Cursor.skipFrom_zero]
    cases t with
    | nil => rfl
    | cons c t =>
      have hBlank : CharClass.isBlank c = false := by
        simp only [CharClass.isBlank, Bool.or_eq_false_iff, decide_eq_false_iff_not]
        constructor
        · rintro rfl
          exact hSpace t rfl
        · rintro rfl
          exact hTab t rfl
      rw [List.dropWhile_cons, hBlank, if_neg Bool.false_ne_true]

namespace Spine

/-- The spine on which a fenced block that began on line `first` is open, with the lines read so far. -/
def inFence (root : List Node) (first : Nat) (f : CodeFence) (lines : List Text) : Spine :=
  ⟨root, [], some (first, .fenced f lines)⟩

variable {root : List Node} {first line : Nat} {f : CodeFence} {lines : List Text} {t : Text}

theorem addLine_of_fence? (h : BlockStart.find? none false ⟨0, t⟩ = some (.fence f)) :
    addLine line t ⟨root, [], none⟩ = inFence root line f [] := by
  simp [addLine, Frame.matchAll, addVerbatim?, paragraph?, closeLeaf, openBlocks, h, openLeaf, prepare, closeList,
    inFence]

theorem addLine_inFence (hIndent : f.indent = 0)
    (h : BlockStart.closesFence f (t.dropWhile CharClass.isBlank) = false) :
    addLine line t (inFence root first f lines) = inFence root first f (t :: lines) := by
  have hRest : (Cursor.skipBlanks ⟨0, t⟩).rest = t.dropWhile CharClass.isBlank := Cursor.rest_skipFrom_widthOf 0 t
  have hSkip : (Cursor.skip 0 ⟨0, t⟩).rest = t := by rw [Cursor.skip, Cursor.skipFrom_zero]
  simp [addLine, Frame.matchAll, addVerbatim?, inFence, hRest, h, hIndent, hSkip]

theorem addLine_inFence_close (hIndent : Cursor.indent ⟨0, t⟩ ≤ 3)
    (h : BlockStart.closesFence f (t.dropWhile CharClass.isBlank) = true) :
    addLine line t (inFence root first f lines) =
      ⟨.leaf ⟨first, line⟩ (.code (some f.info) (OpenLeaf.linesText lines)) :: root, [], none⟩ := by
  have hRest : (Cursor.skipBlanks ⟨0, t⟩).rest = t.dropWhile CharClass.isBlank := Cursor.rest_skipFrom_widthOf 0 t
  simp [addLine, Frame.matchAll, addVerbatim?, inFence, hRest, h, hIndent, closeLeaf, addNode, OpenLeaf.node]

theorem addLines_inFence (hIndent : f.indent = 0) {content : List Text}
    (hContent : ∀ t ∈ content, BlockStart.closesFence f (t.dropWhile CharClass.isBlank) = false) {fence : Text}
    (hFenceIndent : Cursor.indent ⟨0, fence⟩ ≤ 3)
    (hFence : BlockStart.closesFence f (fence.dropWhile CharClass.isBlank) = true) (more : List Text) :
    addLines line (content ++ fence :: more) (inFence root first f lines) =
      addLines (line + content.length + 1) more ⟨.leaf ⟨first, line + content.length⟩
        (.code (some f.info) (OpenLeaf.linesText lines ++ content.flatMap (· ++ ['\n']))) :: root, [], none⟩ := by
  induction content generalizing line lines with
  | nil => simp [addLines, addLine_inFence_close hFenceIndent hFence]
  | cons t content ih =>
    obtain ⟨ht, hRest⟩ := List.forall_mem_cons.mp hContent
    rw [List.cons_append, addLines, addLine_inFence hIndent ht, ih hRest]
    simp [OpenLeaf.linesText, Nat.add_assoc, Nat.add_comm 1]

end Spine

theorem BlockStart.find?_fence {n : Nat} (hLength : 3 ≤ n) {info : Text}
    (hInfo : ∀ c ∈ info, c ∉ [backtick, '\\', '&'])
    (hEnds : ∀ c, c ∈ info.head? ∨ c ∈ info.getLast? → CharClass.isBlank c = false)
    (paragraph : Option Text) (afterParagraph : Bool) (column : Nat) :
    find? paragraph afterParagraph ⟨column, List.replicate n backtick ++ info⟩ =
      some (.fence ⟨backtick, n, 0, info⟩) := by
  obtain ⟨m, rfl⟩ := Nat.exists_eq_add_of_le' hLength
  have hNone {c : Char} (hc : c ∈ [backtick, '\\', '&']) : c ∉ info := fun hMem => hInfo c hMem hc
  have hHead : info.head? ≠ some backtick := fun hc => hNone (by simp) (List.mem_of_head? hc)
  have hTake := Text.takeWhile_replicate_append hHead (m + 3)
  have hDrop := Text.dropWhile_replicate_append hHead (m + 3)
  have hInfoRead : unescape (trimBlanks info) = info := by
    have hTrim : trimBlanks info = info :=
      Text.trim_of_ends (fun c hc => hEnds c (.inl hc)) fun c hc => hEnds c (.inr hc)
    rw [hTrim, unescape_eq_resolved (hNone (by simp)), resolved_eq_self_iff.mpr (literal_of_not_mem (hNone (by simp)))]
  have hFence : fence? 0 (List.replicate (m + 3) backtick ++ info) = some (.fence ⟨backtick, m + 3, 0, info⟩) := by
    rw [List.replicate_succ, List.cons_append] at hTake hDrop ⊢
    rw [fence?, hTake, hDrop, hInfoRead]
    simp [hNone (c := backtick) (by simp)]
  have hBlank : CharClass.isBlank backtick = false := rfl
  have hQuote : backtick ≠ '>' := by decide
  rw [List.replicate_succ, List.cons_append] at hFence ⊢
  have hHeading : heading? (backtick :: (List.replicate (m + 2) backtick ++ info)) = none := rfl
  rw [find?, Cursor.indent_of_not_isBlank hBlank, Cursor.skipBlanks_of_not_isBlank hBlank]
  simp [Cursor.isBlank, hBlank, hFence, hHeading, hQuote]

end Markdown

/-! ## Writing it -/

namespace Text

theorem flatMap_splitLines (t : Text) : t.splitLines.flatMap (· ++ ['\n']) = t ++ ['\n'] := by
  induction t with
  | nil => rfl
  | cons c t ih =>
    obtain ⟨line, lines, hLines⟩ := List.exists_cons_of_ne_nil (splitLines_ne_nil t)
    rw [hLines] at ih
    rw [splitLines, hLines, List.cons_append, ← ih]
    split
    · rename_i hc
      rw [hc]
      rfl
    · rfl

end Text

namespace Writer

open Markdown

variable {info content line : Text}

def contentLines (content : Text) : List Text := (codeLines content).lines.map Line.text

theorem contentLines_append_newline (t : Text) :
    contentLines (t ++ ['\n']) = if t.isEmpty then [] else t.splitLines := by
  simp only [contentLines, codeLines, List.getLast?_concat, if_true, List.dropLast_concat]
  split
  · rfl
  · simp [Function.comp_def]

theorem lines_codeRegion (info content : Text) : (codeRegion (some info) content).lines.map Line.text =
    (fence 3 content ++ info) :: (contentLines content ++ [fence 3 content]) := by
  simp [codeRegion, contentLines, Region.empty]

theorem infix_of_mem_contentLines (hContent : content = [] ∨ content.getLast? = some '\n')
    (h : line ∈ contentLines content) : line <:+: content := by
  rcases hContent with rfl | hLast
  · cases h
  · obtain ⟨t, rfl⟩ := List.getLast?_eq_some_iff.mp hLast
    rw [contentLines_append_newline] at h
    split at h
    · cases h
    · exact (Text.infix_of_mem_splitLines h).trans (List.prefix_append t _).isInfix

theorem flatMap_contentLines (hContent : content = [] ∨ content.getLast? = some '\n') :
    (contentLines content).flatMap (· ++ ['\n']) = if content = ['\n'] then [] else content := by
  rcases hContent with rfl | hLast
  · rfl
  · obtain ⟨t, rfl⟩ := List.getLast?_eq_some_iff.mp hLast
    rw [contentLines_append_newline]
    cases t with
    | nil => rfl
    | cons c t => simp [Text.flatMap_splitLines]

/-- No line of the content is read as the closing fence. -/
theorem closesFence_eq_false (h : line <:+: content) (info : Text) :
    BlockStart.closesFence ⟨backtick, max 3 (content.longestBacktickRun + 1), 0, info⟩
      (line.dropWhile CharClass.isBlank) = false := by
  have hInfix : line.dropWhile CharClass.isBlank <:+: content := (List.dropWhile_suffix _).isInfix.trans h
  have hRun : ((line.dropWhile CharClass.isBlank).takeWhile (· = backtick)).length ≤ content.longestBacktickRun := by
    rw [← Text.backtickRun_eq]
    exact Nat.le_trans (Text.backtickRun_le_longest _) (Text.longestBacktickRun_le_of_infix hInfix)
  have hShort : ¬ max 3 (content.longestBacktickRun + 1) ≤
      ((line.dropWhile CharClass.isBlank).takeWhile (· = backtick)).length := by omega
  simp [BlockStart.closesFence, hShort]

theorem closesFence_replicate (n : Nat) (info : Text) :
    Cursor.indent ⟨0, List.replicate (n + 1) backtick⟩ ≤ 3 ∧
      BlockStart.closesFence ⟨backtick, n + 1, 0, info⟩
        ((List.replicate (n + 1) backtick).dropWhile CharClass.isBlank) = true := by
  have hBlank : CharClass.isBlank backtick = false := rfl
  rw [List.replicate_succ, Cursor.indent_of_not_isBlank hBlank, List.dropWhile_cons, hBlank,
    if_neg Bool.false_ne_true, ← List.replicate_succ]
  refine ⟨Nat.zero_le 3, ?_⟩
  simp [BlockStart.closesFence]

theorem addLines_codeRegion (hInfo : ∀ c ∈ info, c ∉ [backtick, '\\', '&'])
    (hEnds : ∀ c, c ∈ info.head? ∨ c ∈ info.getLast? → CharClass.isBlank c = false)
    (hContent : content = [] ∨ content.getLast? = some '\n') (k : Nat) (root : List Node) (more : List Text) :
    let lines := (codeRegion (some info) content).lines.map Line.text
    Spine.addLines k (lines ++ more) ⟨root, [], none⟩ =
      Spine.addLines (k + lines.length) more ⟨.leaf ⟨k, k + lines.length - 1⟩
        (.code (some info) (if content = ['\n'] then [] else content)) :: root, [], none⟩ := by
  intro lines
  -- The reader needs three backticks at least, and more than the content has in a row.
  obtain ⟨n, hn⟩ : ∃ n, max 3 (content.longestBacktickRun + 1) = n + 1 :=
    Nat.exists_eq_add_one.mpr (Nat.lt_of_lt_of_le (by decide) (Nat.le_max_left 3 _))
  have hFence : fence 3 content = List.replicate (n + 1) backtick := by rw [fence, hn]
  have hOpen := BlockStart.find?_fence (hn ▸ Nat.le_max_left 3 _) hInfo hEnds none false 0
  have hInside : ∀ line ∈ contentLines content,
      BlockStart.closesFence ⟨backtick, n + 1, 0, info⟩ (line.dropWhile CharClass.isBlank) = false := by
    intro line hLine
    rw [← hn]
    exact closesFence_eq_false (infix_of_mem_contentLines hContent hLine) info
  obtain ⟨hIndent, hClose⟩ := closesFence_replicate n info
  have hLines : lines = (List.replicate (n + 1) backtick ++ info) ::
      (contentLines content ++ [List.replicate (n + 1) backtick]) := by
    rw [← hFence]
    exact lines_codeRegion info content
  have hLength : k + lines.length = k + 1 + (contentLines content).length + 1 := by
    rw [hLines, List.length_cons, List.length_append, List.length_singleton]
    omega
  have hLast : k + lines.length - 1 = k + 1 + (contentLines content).length := by rw [hLength, Nat.add_sub_cancel]
  rw [hLast, hLength, hLines, List.cons_append, Spine.addLines, Spine.addLine_of_fence? hOpen, List.append_assoc,
    List.singleton_append, Spine.addLines_inFence rfl hInside hIndent hClose, flatMap_contentLines hContent]
  rfl

variable {ω ε : Type}

/-- A fenced block is read to its last line, whatever lines follow it, and gives the info string and the content that
were written, except for a content that is a single empty line: it is read back empty. -/
theorem ofLines_codeRegion_iff (hInfo : ∀ c ∈ info, c ∉ ['\n', backtick, '\\', '&'])
    (hEnds : ∀ c, c ∈ info.head? ∨ c ∈ info.getLast? → CharClass.isBlank c = false)
    (hContent : content = [] ∨ content.getLast? = some '\n') :
    ∃ r : Region, (∀ before (w : World ω),
        ((Block.code (some info) content).render before : Render ω ε Region) w = (.ok r, w)) ∧
      let lines := r.lines.map Line.text
      (∀ line ∈ lines, '\n' ∉ line) ∧
      (∀ k root more, Spine.addLines k (lines ++ more) ⟨root, [], none⟩ =
        Spine.addLines (k + lines.length) more ⟨.leaf ⟨k, k + lines.length - 1⟩
          (.code (some info) (if content = ['\n'] then [] else content)) :: root, [], none⟩) ∧
      (Node.ofLines lines = [.leaf ⟨1, lines.length⟩ (.code (some info) content)] ↔ content ≠ ['\n']) := by
  have hInfo' : ∀ c ∈ info, c ∉ [backtick, '\\', '&'] := fun c hc hMem => hInfo c hc (List.mem_cons_of_mem _ hMem)
  have hRead := addLines_codeRegion hInfo' hEnds hContent
  have hUnbroken : (codeRegion (some info) content).Unbroken := by
    refine unbroken_codeRegion ?_ content
    rintro i ⟨⟩ hMem
    exact hInfo _ hMem List.mem_cons_self
  refine ⟨codeRegion (some info) content, fun before w => rfl, ?_, hRead, ?_⟩
  · intro line hLine
    obtain ⟨l, hl, rfl⟩ := List.mem_map.mp hLine
    exact hUnbroken l hl
  · have hAlone := hRead 1 [] []
    dsimp only at hAlone
    rw [List.append_nil] at hAlone
    have hKept : (if content = ['\n'] then [] else content) = content ↔ content ≠ ['\n'] := by
      split
      · rename_i hOne
        simp [hOne]
      · rename_i hOther
        simp [hOther]
    rw [Node.ofLines, Spine.empty, hAlone]
    simpa [Spine.addLines, Spine.closeLeaf, Spine.closeFrames] using hKept

theorem ofLines_codeRegion_fencesInside :
    let info := ['s', 'h']
    let content := "\x60\x60\x60\n\n   \x60\x60\x60\x60\n".toList
    (∀ c ∈ info, c ∉ ['\n', backtick, '\\', '&']) ∧
    (∀ c, c ∈ info.head? ∨ c ∈ info.getLast? → CharClass.isBlank c = false) ∧
    (content = [] ∨ content.getLast? = some '\n') ∧
    ∃ r : Region, (∀ before (w : World Unit),
        ((Block.code (some info) content).render before : Render Unit Empty Region) w = (.ok r, w)) ∧
      Node.ofLines (r.lines.map Line.text) =
        [.leaf ⟨1, (r.lines.map Line.text).length⟩ (.code (some info) content)] := by
  intro info content
  have hInfo : ∀ c ∈ info, c ∉ ['\n', backtick, '\\', '&'] := List.all_iff_forall_prop.mp (by decide)
  have hEnds : ∀ c, c ∈ info.head? ∨ c ∈ info.getLast? → CharClass.isBlank c = false := by
    rintro c (hFirst | hLast)
    · cases hFirst
      rfl
    · cases hLast
      rfl
  have hContent : content = [] ∨ content.getLast? = some '\n' := by decide
  obtain ⟨r, hRender, -, -, hRead⟩ := ofLines_codeRegion_iff (ω := Unit) (ε := Empty) hInfo hEnds hContent
  exact ⟨hInfo, hEnds, hContent, r, hRender, hRead.mpr (by decide)⟩

/-- A block of one empty line is read back without it. -/
theorem not_ofLines_codeRegion : ¬ ∀ info content : Text, (∀ c ∈ info, c ∉ ['\n', backtick, '\\', '&']) →
    (∀ c, c ∈ info.head? ∨ c ∈ info.getLast? → CharClass.isBlank c = false) →
    (content = [] ∨ content.getLast? = some '\n') →
    ∀ (w : World Unit) (r : Region),
      ((Block.code (some info) content).render [] : Render Unit Empty Region) w = (.ok r, w) →
      Node.ofLines (r.lines.map Line.text) =
        [.leaf ⟨1, r.lines.length⟩ (.code (some info) content)] := by
  intro h
  have hRead := h [] ['\n'] (by simp) (by simp) (by simp) ⟨{}, []⟩ _ rfl
  cases hRead

end Writer

end MarkdownLists
