import Mathlib.Logic.Relation
import MarkdownLists.Proofs.Event.Told
import MarkdownLists.Proofs.Event.Unclosed

/-! # Normal form of what is built

The builder keeps everything that it has collected in normal form, for any stream of events, balanced or not. Only
tags that hand blocks on to the tag around them could bring two hidden paragraphs together.
-/

namespace MarkdownLists
set_option autoImplicit false

namespace Content

def IsNormal : Content → Prop
  | blocks bs => Block.isNormalAll bs = true
  | items xs => Block.isNormalItems xs = true
  | _ => True

theorem IsNormal.toBlocks {c : Content} (h : c.IsNormal) : Block.isNormalAll c.toBlocks = true := by
  cases c with
  | blocks bs => exact h
  | _ => rfl

theorem IsNormal.toItems {c : Content} (h : c.IsNormal) : Block.isNormalItems c.toItems = true := by
  cases c with
  | items xs => exact h
  | _ => rfl

theorem isNormal_content (tag : Tag) : tag.content.IsNormal := by
  cases tag with
  | list start => exact Eq.refl true
  | _ => first | exact trivial | exact Eq.refl true

theorem isNormalAll_extendHidden (i : Inline) {bs : List Block} (h : Block.isNormalAll bs = true) :
    Block.isNormalAll (extendHidden i bs) = true := by
  rcases List.eq_nil_or_concat bs with rfl | ⟨front, b, rfl⟩
  · rfl
  · rw [List.concat_eq_append] at h ⊢
    cases hHidden : b.isHidden with
    | false =>
      have hShown : ∀ c ∈ (front ++ [b]).getLast?, c.isHidden = false := by simpa using hHidden
      rw [extendHidden_of_getLast? i hShown, Block.isNormalAll_concat_iff]
      refine ⟨h, rfl, ?_⟩
      intro c hc
      rw [Block.isApart, hShown c hc]
      rfl
    | true =>
      cases b with
      | paragraph hidden content =>
        subst hHidden
        obtain ⟨hFront, _, hApart⟩ := Block.isNormalAll_concat_iff.mp h
        rw [extendHidden_append_hidden, Block.isNormalAll_concat_iff]
        refine ⟨hFront, ?_, hApart⟩
        cases content <;> rfl
      | _ => cases hHidden

theorem IsNormal.pushInline {c : Content} (h : c.IsNormal) (i : Inline) : (c.pushInline i).IsNormal := by
  cases c with
  | blocks bs => exact isNormalAll_extendHidden i h
  | raw t => cases i <;> exact trivial
  | _ => exact h

theorem IsNormal.pushHtml {c : Content} (h : c.IsNormal) (s : Text) : (c.pushHtml s).IsNormal := by
  cases c with
  | raw t => exact trivial
  | _ => exact h.pushInline (.html s)

theorem IsNormal.pushBlock {c : Content} (h : c.IsNormal) {b : Block} (hNormal : b.isNormal = true)
    (hShown : b.isHidden = false) : (c.pushBlock b).IsNormal := by
  cases c with
  | inlines xs => cases b <;> exact trivial
  | blocks bs =>
    refine Block.isNormalAll_concat_iff.mpr ⟨h, hNormal, ?_⟩
    intro c _
    rw [Block.isApart, hShown, Bool.and_false]
    rfl
  | _ => exact h

theorem IsNormal.pushItem {c : Content} (h : c.IsNormal) {children : List Block}
    (hChildren : Block.isNormalAll children = true) : (c.pushItem children).IsNormal := by
  cases c with
  | items xs =>
    rw [IsNormal, Block.isNormalItems_eq_all] at h
    rw [Content.pushItem, IsNormal, Block.isNormalItems_eq_all, List.all_append, h, List.all_cons, hChildren]
    rfl
  | _ => exact h

end Content

namespace Part

/-- A part that can be delivered to any content in normal form. -/
def IsNormal : Part → Prop
  | block b => b.isNormal = true ∧ b.isHidden = false
  | item children => Block.isNormalAll children = true
  | inline _ => True
  | splice bs _ => bs = []

theorem isNormal_close {tag : Tag} (hTag : tag.splicesBlocks = false) {c : Content}
    (hSorted : c.cleared = tag.content) (h : c.IsNormal) : (close tag c).IsNormal := by
  cases hInlines : tag.splicesInlines with
  | true =>
    rw [close_of_splicesInlines hInlines hSorted]
    exact Eq.refl []
  | false =>
    cases tag with
    | quote => exact ⟨h.toBlocks, rfl⟩
    | list start =>
      cases start with
      | none => exact ⟨by rw [Block.isNormal, h.toItems]; rfl, rfl⟩
      | some n => exact ⟨by rw [Block.isNormal, h.toItems]; rfl, rfl⟩
    | item => exact h.toBlocks
    | span s => exact trivial
    | metadata => exact Eq.refl []
    | superscript | subscript | tableCell => cases hInlines
    | footnote | definitionList | definitionTitle | definitionBody | table | tableHead | tableRow =>
      cases hTag
    | _ => exact ⟨rfl, rfl⟩

theorem IsNormal.deliver {p : Part} (hPart : p.IsNormal) {c : Content} (h : c.IsNormal) :
    (p.deliver c).IsNormal := by
  cases p with
  | block b => exact h.pushBlock hPart.1 hPart.2
  | item children => exact h.pushItem hPart
  | inline i => exact h.pushInline i
  | splice bs xs =>
    subst hPart
    rw [Part.deliver, List.foldl_nil]
    induction xs generalizing c with
    | nil => exact h
    | cons i rest ih => exact ih (h.pushInline i)

theorem IsNormal.withoutInlines {p : Part} (h : p.IsNormal) : p.withoutInlines.IsNormal := by
  cases p <;> exact h

end Part

namespace Builder

structure IsNormal (b : Builder) : Prop where
  sorted : b.Sorted
  tags : ∀ tag ∈ b.tags, tag.splicesBlocks = false
  root : b.root.IsNormal
  opened : ∀ x ∈ b.opened, x.2.IsNormal

theorem length_opened_modify (f : Content → Content) (b : Builder) :
    (b.modify f).opened.length = b.opened.length := by
  obtain ⟨root, opened⟩ := b
  cases opened <;> rfl

theorem isNormal_initial : initial.IsNormal where
  sorted x hx := by cases hx
  tags tag hTag := by cases hTag
  root := Eq.refl true
  opened x hx := by cases hx

theorem IsNormal.modify {b : Builder} (h : b.IsNormal) {f : Content → Content}
    (hCleared : ∀ c, (f c).cleared = c.cleared) (hf : ∀ c : Content, c.IsNormal → (f c).IsNormal) :
    (b.modify f).IsNormal := by
  refine ⟨h.sorted.modify hCleared, by simpa using h.tags, ?_, ?_⟩
  · obtain ⟨root, opened⟩ := b
    cases opened with
    | nil => exact hf root h.root
    | cons x rest => exact h.root
  · obtain ⟨root, opened⟩ := b
    cases opened with
    | nil => exact h.opened
    | cons x rest =>
      obtain ⟨hFirst, hRest⟩ := List.forall_mem_cons.mp h.opened
      exact List.forall_mem_cons.mpr ⟨hf x.2 hFirst, hRest⟩

theorem IsNormal.of_cons {root : Content} {x : Tag × Content} {rest : List (Tag × Content)}
    (h : IsNormal ⟨root, x :: rest⟩) :
    (Part.close x.1 x.2).IsNormal ∧ IsNormal ⟨root, rest⟩ := by
  obtain ⟨hSorted, hSortedRest⟩ := List.forall_mem_cons.mp h.sorted
  obtain ⟨hTag, hTagsRest⟩ := List.forall_mem_cons.mp h.tags
  obtain ⟨hContent, hOpenedRest⟩ := List.forall_mem_cons.mp h.opened
  exact ⟨Part.isNormal_close hTag hSorted hContent, hSortedRest, hTagsRest, h.root, hOpenedRest⟩

theorem IsNormal.stop {b : Builder} (h : b.IsNormal) : b.stop.IsNormal := by
  obtain ⟨root, opened⟩ := b
  cases opened with
  | nil => exact h
  | cons x rest =>
    obtain ⟨hPart, hRest⟩ := h.of_cons
    exact hRest.modify (Part.cleared_deliver _) fun c hc => hPart.deliver hc

theorem IsNormal.step {b : Builder} (h : b.IsNormal) (e : Event)
    (hTag : ∀ tag, e = .start tag → tag.splicesBlocks = false) : (b.step e).IsNormal := by
  cases e with
  | start tag =>
    refine ⟨h.sorted.step (.start tag), ?_, h.root, ?_⟩
    · exact List.forall_mem_cons.mpr ⟨hTag tag rfl, h.tags⟩
    · exact List.forall_mem_cons.mpr ⟨Content.isNormal_content tag, h.opened⟩
  | stop => exact h.stop
  | html t => exact h.modify (Content.cleared_pushHtml t) fun c hc => hc.pushHtml t
  | inlineHtml t => exact h.modify (Content.cleared_pushHtml t) fun c hc => hc.pushHtml t
  | rule => exact h.modify (Content.cleared_pushBlock .rule) fun c hc => hc.pushBlock rfl rfl
  | _ => exact h.modify (Content.cleared_pushInline _) fun c hc => hc.pushInline _

theorem IsNormal.foldl {b : Builder} (h : b.IsNormal) {es : List Event}
    (hTags : ∀ tag, .start tag ∈ es → tag.splicesBlocks = false) :
    (es.foldl Builder.step b).IsNormal := by
  induction es generalizing b with
  | nil => exact h
  | cons e rest ih =>
    have hFirst : ∀ tag, e = .start tag → tag.splicesBlocks = false := by
      rintro tag rfl
      exact hTags tag List.mem_cons_self
    exact ih (h.step e hFirst) fun tag hTag => hTags tag (List.mem_cons_of_mem e hTag)

theorem IsNormal.finish {b : Builder} (h : b.IsNormal) : Block.isNormalAll b.finish = true := by
  induction hLength : b.opened.length generalizing b with
  | zero =>
    obtain ⟨root, opened⟩ := b
    cases List.length_eq_zero_iff.mp hLength
    exact h.root.toBlocks
  | succ n ih =>
    obtain ⟨root, opened⟩ := b
    obtain ⟨x, rest, rfl⟩ := List.exists_cons_of_length_eq_add_one hLength
    obtain ⟨hPart, hRest⟩ := h.of_cons
    rw [finish_cons]
    apply ih (hRest.modify (Part.cleared_deliver _) fun c hc => hPart.withoutInlines.deliver hc)
    rw [length_opened_modify]
    exact Nat.succ.inj hLength

theorem stop_of_tags {b : Builder} (h : b.tags = []) : b.stop = b := by
  obtain ⟨root, opened⟩ := b
  cases List.map_eq_nil_iff.mp h
  rfl

end Builder

/-- The second stream has one more stop, at a point where no tag is open. -/
def Event.AddsStop (es es' : List Event) : Prop :=
  ∃ front rest, es = front ++ rest ∧ es' = front ++ .stop :: rest ∧ unclosed front = []

theorem Block.ofEvents_addsStop {es es' : List Event} (h : Event.AddsStop es es') :
    ofEvents es' = ofEvents es := by
  obtain ⟨front, rest, rfl, rfl, hFront⟩ := h
  have hTags : (front.foldl Builder.step .initial).tags = [] := by rw [Builder.tags_foldl]; exact hFront
  rw [ofEvents, ofEvents, List.foldl_append, List.foldl_append, List.foldl_cons, Builder.step,
    Builder.stop_of_tags hTags]

/-- What is built is in normal form, and stops without an open tag do not change it. -/
theorem Block.isNormalAll_ofEvents {es : List Event}
    (h : ∀ tag, .start tag ∈ es → tag.splicesBlocks = false) :
    isNormalAll (ofEvents es) = true ∧
      ∀ es', Relation.ReflTransGen Event.AddsStop es es' → ofEvents es' = ofEvents es := by
  constructor
  · exact (Builder.isNormal_initial.foldl h).finish
  · intro es' hAdded
    induction hAdded with
    | refl => rfl
    | tail _ hStop ih => rw [ofEvents_addsStop hStop, ih]

/-- A stop too many, texts in a list and in an item, and an emphasis and a quote that are left open. -/
def Event.unbalanced : List Event :=
  [.text ['a'], .stop, .softBreak, .start (.list (some 3)), .text ['b'], .start .item, .text ['c'], .hardBreak,
    .start (.span .emphasis), .start .paragraph, .text ['d'], .stop, .stop, .start .quote, .task true]

theorem Block.isNormalAll_ofEvents_unbalanced :
    (∀ tag, .start tag ∈ Event.unbalanced → tag.splicesBlocks = false) ∧
      isNormalAll (ofEvents Event.unbalanced) = true ∧
      ofEvents (.stop :: Event.unbalanced) = ofEvents Event.unbalanced := by
  have hTags : ∀ tag, .start tag ∈ Event.unbalanced → tag.splicesBlocks = false := by
    intro tag hTag
    simp only [Event.unbalanced, List.mem_cons, Event.start.injEq, reduceCtorEq, List.not_mem_nil, false_or,
      or_false] at hTag
    rcases hTag with rfl | rfl | rfl | rfl | rfl <;> rfl
  have hAdded : Event.AddsStop Event.unbalanced (.stop :: Event.unbalanced) :=
    ⟨[], Event.unbalanced, rfl, rfl, rfl⟩
  obtain ⟨hNormal, hSame⟩ := isNormalAll_ofEvents hTags
  exact ⟨hTags, hNormal, hSame _ (.single hAdded)⟩

end MarkdownLists
