import MarkdownLists.Proofs.Text.Backtick
import MarkdownLists.Proofs.Writer.Blocks
import MarkdownLists.Proofs.Writer.Inlines

/-! # Quoting every line

Whatever a block holds, each line of its region is one line of the written text: whenever a text may hold line feeds,
the writer cuts it there. So the sign of a quote stands before every line of its children, at any depth, and taking
it away gives the lines of the children again.
-/

namespace MarkdownLists
set_option autoImplicit false

namespace Region

variable {r s : Region} {l : Line}

/-- No line of the region is more than one line of text. -/
def Unbroken (r : Region) : Prop := ∀ l ∈ r.lines, '\n' ∉ l.text

theorem Unbroken.append (hr : r.Unbroken) (hs : s.Unbroken) : (r ++ s).Unbroken := by
  intro l hl
  exact (List.mem_append.mp hl).elim (hr l) (hs l)

theorem unbroken_ofText (t : Text) : (ofText t).Unbroken := by
  intro l hl
  obtain ⟨line, hLine, rfl⟩ := List.mem_map.mp hl
  rw [Line.text_ofText]
  exact Text.not_mem_of_mem_splitLines hLine

theorem unbroken_singleton {l : Line} (h : '\n' ∉ l.text) : Unbroken ⟨[l]⟩ := by
  intro l' hl
  rwa [List.mem_singleton.mp hl]

theorem unbroken_empty : empty.Unbroken := nofun

theorem Unbroken.map {f : Line → Line} (hr : r.Unbroken) (hf : ∀ l, '\n' ∉ l.text → '\n' ∉ (f l).text) :
    Unbroken ⟨r.lines.map f⟩ := by
  intro l hl
  obtain ⟨l', hMem, rfl⟩ := List.mem_map.mp hl
  exact hf l' (hr l' hMem)

theorem Unbroken.lines_eq (h : r.Unbroken) :
    r.lines.map Line.text = if r.isEmpty then [] else r.text.splitLines := by
  split
  · rename_i hEmpty
    rw [List.isEmpty_iff.mp hEmpty]
    rfl
  · rename_i hSome
    have hLines : r.lines ≠ [] := by simpa [isEmpty] using hSome
    exact (splitLines_text_of_not_mem hLines h).symm

end Region

namespace Draft

def Unbroken (d : Draft) : Prop := ∀ t ∈ d.lines, '\n' ∉ t

variable {d : Draft} {t : Text}

theorem unbroken_iff : d.Unbroken ↔ (∀ l ∈ d.done, '\n' ∉ l.text) ∧ '\n' ∉ d.current.text := by
  simp [Unbroken, lines, or_imp, forall_and]

theorem unbroken_empty : empty.Unbroken := unbroken_iff.mpr ⟨nofun, nofun⟩

theorem Unbroken.push (hd : d.Unbroken) (ht : '\n' ∉ t) : (d.push t).Unbroken := by
  obtain ⟨hDone, hCurrent⟩ := unbroken_iff.mp hd
  refine unbroken_iff.mpr ⟨hDone, ?_⟩
  simp [Draft.push, hCurrent, ht]

theorem Unbroken.breakLine (hd : d.Unbroken) : d.breakLine.Unbroken := by
  obtain ⟨hDone, hCurrent⟩ := unbroken_iff.mp hd
  refine unbroken_iff.mpr ⟨?_, nofun⟩
  intro l hl
  rcases List.mem_append.mp hl with hl | hl
  · exact hDone l hl
  · rwa [List.mem_singleton.mp hl]

/-- Text is cut at its line feeds when it is added. -/
theorem Unbroken.pushText (hd : d.Unbroken) (t : Text) : (d.pushText t).Unbroken := by
  obtain ⟨first, rest, hLines⟩ := List.exists_cons_of_ne_nil (Text.splitLines_ne_nil t)
  have hParts : ∀ line ∈ first :: rest, '\n' ∉ line := by
    rw [← hLines]
    exact fun line => Text.not_mem_of_mem_splitLines
  obtain ⟨hFirst, hRest⟩ := List.forall_mem_cons.mp hParts
  intro line hLine
  rw [Draft.pushText, hLines] at hLine
  dsimp only at hLine
  rw [lines_foldl] at hLine
  rcases List.mem_append.mp hLine with hLine | hLine
  · exact hd.push hFirst line hLine
  · exact hRest line hLine

end Draft

namespace Inline

open Draft

theorem newline_not_mem_opening (s : Span) : '\n' ∉ s.opening := by
  cases s <;> simp [Span.opening]

mutual
theorem unbroken_write (i : Inline) {d : Draft} (hd : d.Unbroken) : (i.write d).Unbroken := by
  cases i with
  | text t => exact hd.pushText _
  | code t => exact hd.pushText _
  | html t => exact hd.pushText _
  | softBreak => exact hd.breakLine
  | hardBreak => exact (hd.push (by decide)).breakLine
  | span s children =>
    rw [write]
    split
    · exact hd.pushText _
    · exact (unbroken_writeAll children [] (hd.push (newline_not_mem_opening s))).pushText _
  | task done => cases done <;> exact hd.push (by decide)

theorem unbroken_writeAll (content : List Inline) (run : Text) {d : Draft} (hd : d.Unbroken) :
    (writeAll content run d).Unbroken := by
  cases content with
  | nil => exact hd.pushText _
  | cons i rest =>
    cases i with
    | text t => exact unbroken_writeAll rest (run ++ t) hd
    | _ => exact unbroken_writeAll rest [] (unbroken_write _ (hd.pushText _))
end

theorem unbroken_region (content : List Inline) : (region content).Unbroken := by
  intro l hl
  refine unbroken_writeAll content [] Draft.unbroken_empty l.text ?_
  rw [← map_text_region]
  exact List.mem_map_of_mem hl

end Inline

namespace Writer

variable {inner : Region} {info : Option Text}

theorem newline_not_mem_escapeLast {c : Char} (hc : '\n' ≠ c) {t : Text} (h : '\n' ∉ t) : '\n' ∉ escapeLast c t := by
  unfold escapeLast
  split
  · split
    · have hFront : '\n' ∉ t.dropLast := fun hMem => h ((List.dropLast_sublist t).subset hMem)
      simp [hFront, hc]
    · exact h
  · exact h

theorem unbroken_headingRegion (level : Fin 6) (content : List Inline) : (headingRegion level content).Unbroken := by
  have hJoined : '\n' ∉ [' '].intercalate ((Inline.region content).lines.map Line.text) := by
    intro hMem
    rcases Text.mem_of_mem_intercalate hMem with hSpace | ⟨line, hLine, hMem⟩
    · exact absurd hSpace (by decide)
    · obtain ⟨l, hl, rfl⟩ := List.mem_map.mp hLine
      exact Inline.unbroken_region content l hl hMem
  have hMarker : '\n' ∉ List.replicate (level.val + 1) '#' := by
    intro hMem
    exact absurd (List.eq_of_mem_replicate hMem) (by decide)
  have hEscaped := newline_not_mem_escapeLast (c := '#') (by decide) hJoined
  apply Region.unbroken_singleton
  split <;> split <;> simp [hMarker, hJoined, hEscaped]

theorem unbroken_codeLines (content : Text) : (codeLines content).Unbroken := by
  have hBody (body : Text) : (if body.isEmpty then Region.empty else .ofText body).Unbroken := by
    split
    · exact Region.unbroken_empty
    · exact Region.unbroken_ofText body
  exact hBody _

theorem unbroken_indentEach (h : inner.Unbroken) (n : Nat) : (inner.indentEach n).Unbroken := by
  unfold Region.indentEach
  split
  · exact h
  · apply h.map
    intro l hl
    unfold Region.indentLine
    split
    · exact hl
    · simp [hl, Text.spaces, List.mem_replicate]

theorem unbroken_codeRegion (hInfo : ∀ i ∈ info, '\n' ∉ i) (content : Text) : (codeRegion info content).Unbroken := by
  have hLines := unbroken_codeLines content
  have hFence := newline_not_mem_fence 3 content
  cases info with
  | none => exact unbroken_indentEach hLines 4
  | some info =>
    have hOpening : '\n' ∉ (Line.ofText (fence 3 content ++ info)).text := by simp [hFence, hInfo info rfl]
    have hClosing : '\n' ∉ (Line.ofText (fence 3 content)).text := by simpa using hFence
    exact ((Region.unbroken_singleton hOpening).append hLines).append (Region.unbroken_singleton hClosing)

theorem unbroken_quoteRegion (h : inner.Unbroken) : (quoteRegion inner).Unbroken := by
  have hQuoted : (if inner.isEmpty then inner.pushLine .empty else inner).Unbroken := by
    split
    · exact h.append (Region.unbroken_singleton nofun)
    · exact h
  apply hQuoted.map
  intro l hl
  unfold Region.prefixLine
  split <;> simp [hl]

theorem unbroken_gap (before : List Block) (tight : Bool) : (gap before tight).Unbroken := by
  unfold gap
  split
  · exact Region.unbroken_empty
  · exact Region.unbroken_singleton nofun

/-- The line without the sign of a quote, if it has one. -/
def unquoted? (line : Text) : Option Text := if line = ['>'] then some [] else Text.afterPart? ['>', ' '] line

theorem unquoted?_prefixLine (l : Line) : unquoted? (Region.prefixLine ['>', ' '] ['>'] l).text = some l.text := by
  unfold Region.prefixLine
  split
  · rename_i hBlank
    rw [Line.text_prepend, l.isBlank_iff.mp hBlank]
    rfl
  · rename_i hText
    have hText : l.text ≠ [] := mt l.isBlank_iff.mpr hText
    rw [Line.text_prepend, unquoted?, if_neg (by simp), Text.afterPart?_eq_some_iff]

theorem head?_prefixLine (l : Line) : (Region.prefixLine ['>', ' '] ['>'] l).text.head? = some '>' := by
  unfold Region.prefixLine
  split <;> rfl

theorem lines_quoteRegion (inner : Region) : (quoteRegion inner).lines =
    (if inner.isEmpty then [Line.empty] else inner.lines).map (Region.prefixLine ['>', ' '] ['>']) := by
  obtain ⟨lines⟩ := inner
  cases lines <;> rfl

theorem map_unquoted?_quoteRegion (inner : Region) : (quoteRegion inner).lines.map (unquoted? ∘ Line.text) =
    (if inner.isEmpty then [[]] else inner.lines.map Line.text).map some := by
  rw [lines_quoteRegion, List.map_map]
  split
  · rfl
  · rw [List.map_map]
    exact List.map_congr_left fun l _ => unquoted?_prefixLine l

theorem head?_quoteRegion {l : Line} (h : l ∈ (quoteRegion inner).lines) : l.text.head? = some '>' := by
  rw [lines_quoteRegion] at h
  obtain ⟨l, -, rfl⟩ := List.mem_map.mp h
  exact head?_prefixLine l

end Writer

namespace Block

mutual
/-- The info strings of all fenced blocks in a block. -/
def infos : Block → List Text
  | .code (some info) _ => [info]
  | .quote children => infosAll children
  | .list _ items => infosItems items
  | _ => []

def infosAll : List Block → List Text
  | [] => []
  | b :: rest => b.infos ++ infosAll rest

def infosItems : List (List Block) → List Text
  | [] => []
  | children :: rest => infosAll children ++ infosItems rest
end

mutual
theorem unbroken_region (o : Options) (before : List Block) (b : Block) (h : ∀ info ∈ b.infos, '\n' ∉ info) :
    (b.region o before).Unbroken := by
  cases b with
  | paragraph hidden content => exact Inline.unbroken_region content
  | heading level content => exact Writer.unbroken_headingRegion level content
  | code info content =>
    refine Writer.unbroken_codeRegion ?_ content
    rintro info rfl
    exact h info (by simp [infos])
  | html content => exact Region.unbroken_ofText _
  | quote children => exact Writer.unbroken_quoteRegion (unbroken_regionAll o [] false children h)
  -- The text of a list is cut into lines when all of it is written.
  | list kind items => exact Region.unbroken_ofText _
  | rule => exact Region.unbroken_ofText _

theorem unbroken_regionAll (o : Options) (before : List Block) (tight : Bool) (blocks : List Block)
    (h : ∀ info ∈ infosAll blocks, '\n' ∉ info) : (regionAll o before tight blocks).Unbroken := by
  cases blocks with
  | nil => exact Region.unbroken_empty
  | cons b rest =>
    have hFirst := unbroken_region o before b fun info hi => h info (List.mem_append_left _ hi)
    have hRest := unbroken_regionAll o (b :: before) tight rest fun info hi => h info (List.mem_append_right _ hi)
    exact ((Writer.unbroken_gap before tight).append hFirst).append hRest
end

theorem infos_subset {b : Block} {blocks : List Block} (h : b ∈ blocks) : b.infos ⊆ infosAll blocks := by
  induction blocks with
  | nil => cases h
  | cons b' rest ih =>
    rcases List.mem_cons.mp h with rfl | h
    · exact List.subset_append_left _ _
    · exact List.subset_append_of_subset_right _ (ih h)

theorem infosAll_subset_infosItems {children : List Block} {items : List (List Block)} (h : children ∈ items) :
    infosAll children ⊆ infosItems items := by
  induction items with
  | nil => cases h
  | cons first rest ih =>
    rcases List.mem_cons.mp h with rfl | h
    · exact List.subset_append_left _ _
    · exact List.subset_append_of_subset_right _ (ih h)

theorem unbroken_regionAt (o : Options) {siblings : List Block} (index : Nat)
    (h : ∀ info ∈ infosAll siblings, '\n' ∉ info) : (regionAt o siblings index).Unbroken := by
  unfold regionAt
  split
  · rename_i b hb
    exact unbroken_region o _ b fun info hi => h info (infos_subset (List.mem_of_getElem? hb) hi)
  · exact Region.unbroken_empty

/-- The siblings stand somewhere in the tree: at its top, in a quote, or in an item. -/
inductive Within (siblings : List Block) : List Block → Prop
  | top : Within siblings siblings
  | quote {children blocks : List Block} (h : .quote children ∈ blocks) (hIn : Within siblings children) :
      Within siblings blocks
  | item {kind : ListKind} {items : List (List Block)} {children blocks : List Block}
      (h : .list kind items ∈ blocks) (hItem : children ∈ items) (hIn : Within siblings children) :
      Within siblings blocks

theorem Within.infosAll_subset {siblings blocks : List Block} (h : Within siblings blocks) :
    infosAll siblings ⊆ infosAll blocks := by
  induction h with
  | top => exact List.Subset.refl _
  | quote h hIn ih => exact List.Subset.trans ih (infos_subset h)
  | item h hItem hIn ih =>
    exact List.Subset.trans ih (List.Subset.trans (infosAll_subset_infosItems hItem) (infos_subset h))

variable {ω ε : Type}

/-- Where no info string of a tree holds a line feed, each block in it is written in the lines of its region, at every
depth. A quote marks every line, and taking the marks away gives the lines of its children, or an empty one if these
have none. -/
theorem unquoted?_renderAt {tree siblings : List Block} (h : ∀ info ∈ infosAll tree, '\n' ∉ info)
    (hIn : Within siblings tree) (index : Nat) (w : World ω) :
    ∃ r : Region, (renderAt siblings index : Render ω ε Region) w = (.ok r, w) ∧ r.Unbroken ∧
      r.lines.map Line.text = (if r.isEmpty then [] else r.text.splitLines) ∧
      ∀ children, siblings[index]? = some (.quote children) →
        ∃ inner : Region, (renderAll [] false children : Render ω ε Region) w = (.ok inner, w) ∧
          (∀ l ∈ r.lines, l.text.head? = some '>') ∧
          r.lines.map (Writer.unquoted? ∘ Line.text) =
            (if inner.isEmpty then [[]] else inner.lines.map Line.text).map some := by
  let o := w.context.options
  have hUnbroken := unbroken_regionAt o index fun info hi => h info (hIn.infosAll_subset hi)
  refine ⟨regionAt o siblings index, by simpa using runs_renderAt siblings index w, hUnbroken,
    hUnbroken.lines_eq, ?_⟩
  intro children hQuote
  have hRegion : regionAt o siblings index = Writer.quoteRegion (regionAll o [] false children) := by
    rw [regionAt, hQuote]
    rfl
  refine ⟨regionAll o [] false children, by simpa using runs_renderAll [] false children w, ?_, ?_⟩
  · intro l hl
    exact Writer.head?_quoteRegion (hRegion ▸ hl)
  · rw [hRegion]
    exact Writer.map_unquoted?_quoteRegion _

theorem unquoted?_renderAt_quoteInItem :
    let children : List Block := [.code (some ['s', 'h']) ['>', '\n', '\n'], .paragraph false []]
    let siblings : List Block := [.rule, .quote children]
    let tree : List Block := [.quote [.list .bullet [[], siblings]]]
    let w : World Unit := ⟨{}, []⟩
    (∀ info ∈ infosAll tree, '\n' ∉ info) ∧ Within siblings tree ∧
      ∃ r inner : Region, (renderAt siblings 1 : Render Unit Empty Region) w = (.ok r, w) ∧ r.Unbroken ∧
        (renderAll [] false children : Render Unit Empty Region) w = (.ok inner, w) ∧
        (∀ l ∈ r.lines, l.text.head? = some '>') ∧
        r.lines.map (Writer.unquoted? ∘ Line.text) =
          (if inner.isEmpty then [[]] else inner.lines.map Line.text).map some := by
  intro children siblings tree w
  have hInfos : ∀ info ∈ infosAll tree, '\n' ∉ info := by decide
  have hIn : Within siblings tree := .quote List.mem_cons_self (.item List.mem_cons_self (by simp) .top)
  obtain ⟨r, hRun, hUnbroken, -, hQuote⟩ := unquoted?_renderAt (ε := Empty) hInfos hIn 1 w
  obtain ⟨inner, hInner, hSigns, hLines⟩ := hQuote children rfl
  exact ⟨hInfos, hIn, r, inner, hRun, hUnbroken, hInner, hSigns, hLines⟩

example : (regionAll {} [] false [.quote [.list .bullet [[.quote [.paragraph true [.text ['a'], .softBreak,
    .text ['b']]]]]]]).text = "> - > a\n>   > b".toList := by decide

end Block

end MarkdownLists
