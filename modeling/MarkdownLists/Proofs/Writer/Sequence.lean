import MarkdownLists.Proofs.Listing.Run
import MarkdownLists.Proofs.Writer.Blocks

/-! # Writing a sequence in parts

A list looks back over its siblings for its marker, but never beyond its run. A sequence that is cut where no run
goes on is written like its two parts, with the gap between them.
-/

namespace MarkdownLists
set_option autoImplicit false

namespace Block

variable (o : Options) {before outer : List Block}

theorem region_append {b : Block} (h : ∀ a ∈ outer.head?, ∀ x ∈ (b :: before).getLast?, a.joins x = false) :
    b.region o (before ++ outer) = b.region o before := by
  cases b with
  | list kind items =>
    have hPosition := Placement.runPosition_append h
    rw [region, region, Placement.text_congr hPosition rfl rfl rfl]
  | _ => rfl

/-- Siblings that already stand after some in their part are written as if that part were the whole. -/
theorem regionAll_append_outer (tight : Bool) {blocks : List Block} (hBefore : before ≠ [])
    (h : ∀ a ∈ outer.head?, ∀ x ∈ before.getLast?, a.joins x = false) :
    regionAll o (before ++ outer) tight blocks = regionAll o before tight blocks := by
  -- The sibling next to `outer` stays the same along the induction, and so does what keeps the runs apart.
  induction blocks generalizing before with
  | nil => rfl
  | cons b rest ih =>
    have hLast : (b :: before).getLast? = before.getLast? := by
      obtain ⟨x, before, rfl⟩ := List.exists_cons_of_ne_nil hBefore
      rw [List.getLast?_cons_cons]
    have hGap : Writer.gap (before ++ outer) tight = Writer.gap before tight := by
      simp [Writer.gap, hBefore]
    have hRest := ih (List.cons_ne_nil b before) (hLast ▸ h)
    rw [regionAll, regionAll, hGap, region_append o (hLast ▸ h), ← hRest]
    rfl

theorem lines_regionAll_append (before : List Block) (tight : Bool) (front back : List Block) :
    (regionAll o before tight (front ++ back)).lines =
      (regionAll o before tight front).lines ++ (regionAll o (front.reverse ++ before) tight back).lines := by
  induction front generalizing before with
  | nil => rfl
  | cons b rest ih =>
    simp only [List.cons_append, regionAll, Region.lines_append, ih, List.reverse_cons, List.append_assoc,
      List.nil_append]

/-- After siblings whose last one is not in their run, blocks are written like a whole sequence, after a gap. -/
theorem lines_regionAll_outer (tight : Bool) {blocks : List Block} (hBlocks : blocks ≠ [])
    (h : ∀ a ∈ outer.head?, ∀ b ∈ blocks.head?, a.joins b = false) :
    (regionAll o outer tight blocks).lines =
      (Writer.gap outer tight).lines ++ (regionAll o [] tight blocks).lines := by
  obtain ⟨b, rest, rfl⟩ := List.exists_cons_of_ne_nil hBlocks
  have hFirst : b.region o outer = b.region o [] := @region_append o [] outer b h
  have hRest : regionAll o (b :: outer) tight rest = regionAll o [b] tight rest :=
    @regionAll_append_outer o [b] outer tight rest (List.cons_ne_nil b []) h
  rw [regionAll, regionAll, hFirst, hRest]
  simp [Writer.gap, Region.empty]

end Block

variable {ω ε : Type}

/-- Two sequences of siblings, of which no run goes from the one into the other, are written together like each
by itself, with an empty line between them unless they are tight. -/
theorem Block.renderAll_append (w : World ω) (tight : Bool) {front back : List Block} (hFront : front ≠ [])
    (hBack : back ≠ []) (h : ∀ a ∈ front.getLast?, ∀ b ∈ back.head?, a.joins b = false) :
    ∃ r s t : Region, (renderAll [] tight front : Render ω ε Region) w = (.ok r, w) ∧
      (renderAll [] tight back : Render ω ε Region) w = (.ok s, w) ∧
      (renderAll [] tight (front ++ back) : Render ω ε Region) w = (.ok t, w) ∧
      t.lines = r.lines ++ (if tight then [] else [Line.empty]) ++ s.lines := by
  let o := w.context.options
  have hRun (blocks : List Block) : (renderAll [] tight blocks : Render ω ε Region) w =
      (.ok (regionAll o [] tight blocks), w) := by
    simpa using runs_renderAll [] tight blocks w
  refine ⟨_, _, _, hRun front, hRun back, hRun (front ++ back), ?_⟩
  have hSeam : ∀ a ∈ (front.reverse ++ []).head?, ∀ b ∈ back.head?, a.joins b = false := by
    simpa using h
  rw [lines_regionAll_append, lines_regionAll_outer o tight hBack hSeam]
  cases tight <;> simp [Writer.gap, hFront, Region.empty]

def bulletPair : List Block := [.list .bullet [[.rule]], .list .bullet [[], [.rule]]]

def orderedPair : List Block :=
  [.list (.ordered none) [[.rule]], .list (.ordered (some 9)) [[.paragraph false [.text ['a']]], []]]

theorem renderAll_append_pairs :
    bulletPair ≠ [] ∧ orderedPair ≠ [] ∧
      (∀ a ∈ bulletPair.getLast?, ∀ b ∈ orderedPair.head?, a.joins b = false) ∧
      ∃ r s t : Region,
        (Block.renderAll [] false bulletPair : Render Unit Empty Region) ⟨{}, []⟩ = (.ok r, ⟨{}, []⟩) ∧
        (Block.renderAll [] false orderedPair : Render Unit Empty Region) ⟨{}, []⟩ = (.ok s, ⟨{}, []⟩) ∧
        (Block.renderAll [] false (bulletPair ++ orderedPair) : Render Unit Empty Region) ⟨{}, []⟩ =
          (.ok t, ⟨{}, []⟩) ∧
        t.lines = r.lines ++ [Line.empty] ++ s.lines := by
  have hFront : bulletPair ≠ [] := List.cons_ne_nil _ _
  have hBack : orderedPair ≠ [] := List.cons_ne_nil _ _
  have hApart : ∀ a ∈ bulletPair.getLast?, ∀ b ∈ orderedPair.head?, a.joins b = false := by
    rintro a ⟨rfl⟩ b ⟨rfl⟩
    rfl
  exact ⟨hFront, hBack, hApart, Block.renderAll_append ⟨{}, []⟩ false hFront hBack hApart⟩

end MarkdownLists
