import MarkdownLists.Event.Builder

/-! # Tags left open

A stream may end while tags are open. Most of them then behave as if they had been closed. A superscript, a
subscript and a table cell have no node of their own and collect inlines, and when such a tag is left open,
everything from its start on is lost.
-/

namespace MarkdownLists
set_option autoImplicit false

namespace Tag

/-- Tags that hand inlines on to the tag around them. -/
def splicesInlines : Tag → Bool
  | superscript | subscript | tableCell => true
  | _ => false

/-- Tags that hand blocks on to the tag around them. -/
def splicesBlocks : Tag → Bool
  | footnote _ | definitionList | definitionTitle | definitionBody | table | tableHead | tableRow => true
  | _ => false

theorem content_of_splicesInlines {tag : Tag} (h : tag.splicesInlines = true) :
    tag.content = .inlines [] := by
  cases tag with
  | superscript | subscript | tableCell => rfl
  | _ => cases h

theorem content_of_splicesBlocks {tag : Tag} (h : tag.splicesBlocks = true) :
    tag.content = .blocks [] := by
  cases tag with
  | footnote | definitionList | definitionTitle | definitionBody | table | tableHead | tableRow => rfl
  | _ => cases h

end Tag

namespace Event

def track (opened : List Tag) : Event → List Tag
  | start tag => tag :: opened
  | stop => opened.tail
  | _ => opened

/-- The tags that a stream leaves open, innermost first. -/
def unclosed (es : List Event) : List Tag := es.foldl track []

/-- Closes the tags that a stream leaves open. -/
def closed (es : List Event) : List Event := es ++ List.replicate (unclosed es).length .stop

/-- How many of the tags open before a stream are closed in it. -/
def stopsBefore : List Event → Nat
  | [] => 0
  | .start _ :: rest => stopsBefore rest - 1
  | .stop :: rest => stopsBefore rest + 1
  | _ :: rest => stopsBefore rest

/-- What comes before the first tag that splices inlines and is left open. -/
def heard : List Event → List Event
  | [] => []
  | .start tag :: rest =>
    if tag.splicesInlines && stopsBefore rest == 0 then [] else .start tag :: heard rest
  | e :: rest => e :: heard rest

-- Stops that find no tag of the stream's own to close take the tags that were open before it.
theorem foldl_track (es : List Event) (opened : List Tag) :
    es.foldl track opened = unclosed es ++ opened.drop (stopsBefore es) := by
  induction es generalizing opened with
  | nil => rfl
  | cons e rest ih =>
    have hUnclosed : unclosed (e :: rest) = rest.foldl track (track [] e) := rfl
    rw [hUnclosed, List.foldl_cons, ih, ih (track [] e), List.append_assoc, List.append_cancel_left_eq]
    cases e with
    | start tag =>
      cases hStops : stopsBefore rest with
      | zero => simp [track, stopsBefore, hStops]
      | succ n => simp [track, stopsBefore, hStops]
    | stop => simp [track, stopsBefore]
    | _ => simp [track, stopsBefore]

theorem unclosed_start_cons (tag : Tag) (rest : List Event) :
    unclosed (.start tag :: rest) = unclosed rest ++ [tag].drop (stopsBefore rest) :=
  foldl_track rest [tag]

theorem mem_unclosed_start_cons_iff {tag tag' : Tag} {rest : List Event} :
    tag' ∈ unclosed (.start tag :: rest) ↔ tag' ∈ unclosed rest ∨ stopsBefore rest = 0 ∧ tag' = tag := by
  rw [unclosed_start_cons, List.mem_append]
  cases stopsBefore rest with
  | zero => simp
  | succ n => simp

theorem stopsBefore_heard (es : List Event) : stopsBefore (heard es) = stopsBefore es := by
  fun_induction heard es with
  | case1 => rfl
  | case2 tag rest h =>
    obtain ⟨_, hStops⟩ := Bool.and_eq_true_iff.mp h
    rw [stopsBefore, stopsBefore, eq_of_beq hStops]
  | case3 tag rest h ih => rw [stopsBefore, stopsBefore, ih]
  | case4 e rest hStart ih =>
    cases e with
    | start tag => exact absurd rfl (hStart tag)
    | stop => rw [stopsBefore, stopsBefore, ih]
    | _ => exact ih

theorem unclosed_cons_of_not_start {e : Event} (h : ∀ tag, e ≠ .start tag) (rest : List Event) :
    unclosed (e :: rest) = unclosed rest := by
  cases e with
  | start tag => exact absurd rfl (h tag)
  | _ => rfl

theorem splicesInlines_of_mem_unclosed_heard {es : List Event} {tag : Tag}
    (h : tag ∈ unclosed (heard es)) : tag.splicesInlines = false := by
  fun_induction heard es with
  | case1 => cases h
  | case2 => cases h
  | case3 opening rest hHeard ih =>
    rcases mem_unclosed_start_cons_iff.mp h with hInner | ⟨hStops, rfl⟩
    · exact ih hInner
    · rw [stopsBefore_heard] at hStops
      simpa [hStops] using hHeard
  | case4 e rest hStart ih =>
    rw [unclosed_cons_of_not_start hStart] at h
    exact ih h

theorem heard_eq_self_iff (es : List Event) :
    heard es = es ↔ ∀ tag ∈ unclosed es, tag.splicesInlines = false := by
  constructor
  · intro h tag hTag
    rw [← h] at hTag
    exact splicesInlines_of_mem_unclosed_heard hTag
  · intro h
    fun_induction heard es with
    | case1 => rfl
    | case2 tag rest hLost =>
      obtain ⟨hSplices, hStops⟩ := Bool.and_eq_true_iff.mp hLost
      have hOpen : tag ∈ unclosed (.start tag :: rest) :=
        mem_unclosed_start_cons_iff.mpr (.inr ⟨eq_of_beq hStops, rfl⟩)
      rw [h tag hOpen] at hSplices
      cases hSplices
    | case3 tag rest hHeard ih =>
      rw [ih fun inner hInner => h inner (mem_unclosed_start_cons_iff.mpr (.inl hInner))]
    | case4 e rest hStart ih =>
      rw [unclosed_cons_of_not_start hStart] at h
      rw [ih h]

end Event

/-! ## What an open tag collects -/

namespace Content

/-- The content of the same sort that has nothing in it. -/
def cleared : Content → Content
  | inlines _ => inlines []
  | blocks _ => blocks []
  | items _ => items []
  | raw _ => raw []

@[simp] theorem cleared_pushInline (i : Inline) (c : Content) : (c.pushInline i).cleared = c.cleared := by
  cases c with
  | raw t => cases i <;> rfl
  | _ => rfl

@[simp] theorem cleared_pushHtml (s : Text) (c : Content) : (c.pushHtml s).cleared = c.cleared := by
  cases c <;> rfl

@[simp] theorem cleared_pushBlock (b : Block) (c : Content) : (c.pushBlock b).cleared = c.cleared := by
  cases c with
  | inlines xs => cases b <;> rfl
  | _ => rfl

@[simp] theorem cleared_pushItem (children : List Block) (c : Content) :
    (c.pushItem children).cleared = c.cleared := by
  cases c <;> rfl

@[simp] theorem cleared_content (tag : Tag) : tag.content.cleared = tag.content := by
  cases tag <;> rfl

theorem toBlocks_of_cleared {c : Content} (h : c.cleared = inlines []) : c.toBlocks = [] := by
  cases c with
  | inlines xs => rfl
  | _ => cases h

theorem toInlines_of_cleared {c : Content} (h : c.cleared = blocks []) : c.toInlines = [] := by
  cases c with
  | blocks bs => rfl
  | _ => cases h

end Content

namespace Part

theorem cleared_deliver (p : Part) (c : Content) : (p.deliver c).cleared = c.cleared := by
  have hBlocks (bs : List Block) (c : Content) :
      (bs.foldl (fun c b => c.pushBlock b) c).cleared = c.cleared := by
    induction bs generalizing c with
    | nil => rfl
    | cons b rest ih => rw [List.foldl_cons, ih, Content.cleared_pushBlock]
  have hInlines (xs : List Inline) (c : Content) :
      (xs.foldl (fun c i => c.pushInline i) c).cleared = c.cleared := by
    induction xs generalizing c with
    | nil => rfl
    | cons i rest ih => rw [List.foldl_cons, ih, Content.cleared_pushInline]
  cases p with
  | block b => exact Content.cleared_pushBlock b c
  | item children => exact Content.cleared_pushItem children c
  | inline i => exact Content.cleared_pushInline i c
  | splice bs xs => rw [deliver, hInlines, hBlocks]

/-- At the end of a stream a part is delivered without the inlines that it splices. -/
def withoutInlines : Part → Part
  | splice bs _ => splice bs []
  | p => p

theorem deliverLast_eq (p : Part) (c : Content) : p.deliverLast c = p.withoutInlines.deliver c := by
  cases p <;> rfl

theorem close_of_splicesInlines {tag : Tag} (hTag : tag.splicesInlines = true) {c : Content}
    (h : c.cleared = tag.content) : close tag c = .splice [] c.toInlines := by
  rw [Tag.content_of_splicesInlines hTag] at h
  rw [← Content.toBlocks_of_cleared h]
  cases tag with
  | superscript | subscript | tableCell => rfl
  | _ => cases hTag

theorem close_of_splicesBlocks {tag : Tag} (hTag : tag.splicesBlocks = true) {c : Content}
    (h : c.cleared = tag.content) : close tag c = .splice c.toBlocks [] := by
  rw [Tag.content_of_splicesBlocks hTag] at h
  rw [← Content.toInlines_of_cleared h]
  cases tag with
  | footnote | definitionList | definitionTitle | definitionBody | table | tableHead | tableRow => rfl
  | _ => cases hTag

theorem withoutInlines_close {tag : Tag} (hTag : tag.splicesInlines = false) {c : Content}
    (h : c.cleared = tag.content) : (close tag c).withoutInlines = close tag c := by
  cases hBlocks : tag.splicesBlocks with
  | true => rw [close_of_splicesBlocks hBlocks h, withoutInlines]
  | false =>
    cases tag with
    | list start => cases start <;> rfl
    | superscript | subscript | tableCell => cases hTag
    | footnote | definitionList | definitionTitle | definitionBody | table | tableHead | tableRow =>
      cases hBlocks
    | _ => rfl

end Part

namespace Builder

def tags (b : Builder) : List Tag := b.opened.map Prod.fst

/-- Each open tag has collected content of its own sort. -/
def Sorted (b : Builder) : Prop := ∀ x ∈ b.opened, x.2.cleared = x.1.content

@[simp] theorem tags_modify (f : Content → Content) (b : Builder) : (b.modify f).tags = b.tags := by
  obtain ⟨root, opened⟩ := b
  cases opened <;> rfl

theorem tags_stop (b : Builder) : b.stop.tags = b.tags.tail := by
  obtain ⟨root, opened⟩ := b
  cases opened with
  | nil => rfl
  | cons x rest => exact tags_modify _ _

theorem tags_step (b : Builder) (e : Event) : (b.step e).tags = Event.track b.tags e := by
  cases e with
  | start tag => rfl
  | stop => exact tags_stop b
  | _ => exact tags_modify _ b

theorem tags_foldl (es : List Event) (b : Builder) :
    (es.foldl step b).tags = es.foldl Event.track b.tags := by
  induction es generalizing b with
  | nil => rfl
  | cons e rest ih => rw [List.foldl_cons, ih, tags_step, List.foldl_cons]

theorem Sorted.modify {b : Builder} (h : b.Sorted) {f : Content → Content}
    (hf : ∀ c, (f c).cleared = c.cleared) : (b.modify f).Sorted := by
  obtain ⟨root, opened⟩ := b
  cases opened with
  | nil => exact h
  | cons x rest =>
    intro y hy
    rcases List.mem_cons.mp hy with rfl | hRest
    · rw [hf]
      exact h x List.mem_cons_self
    · exact h y (List.mem_cons_of_mem x hRest)

theorem Sorted.stop {b : Builder} (h : b.Sorted) : b.stop.Sorted := by
  obtain ⟨root, opened⟩ := b
  cases opened with
  | nil => exact h
  | cons x rest =>
    have hRest : (Builder.mk root rest).Sorted := fun y hy => h y (List.mem_cons_of_mem x hy)
    exact hRest.modify (Part.cleared_deliver _)

theorem Sorted.step {b : Builder} (h : b.Sorted) (e : Event) : (b.step e).Sorted := by
  cases e with
  | start tag =>
    intro y hy
    rcases List.mem_cons.mp hy with rfl | hRest
    · exact Content.cleared_content tag
    · exact h y hRest
  | stop => exact h.stop
  | html t => exact h.modify (Content.cleared_pushHtml t)
  | inlineHtml t => exact h.modify (Content.cleared_pushHtml t)
  | rule => exact h.modify (Content.cleared_pushBlock _)
  | _ => exact h.modify (Content.cleared_pushInline _)

theorem Sorted.foldl {b : Builder} (h : b.Sorted) (es : List Event) : (es.foldl Builder.step b).Sorted := by
  induction es generalizing b with
  | nil => exact h
  | cons e rest ih => exact ih (h.step e)

/-! ## The end of a stream -/

theorem finish_cons (root : Content) (x : Tag × Content) (rest : List (Tag × Content)) :
    finish ⟨root, x :: rest⟩ =
      (modify (Part.close x.1 x.2).withoutInlines.deliver ⟨root, rest⟩).finish := by
  have hLast : (Part.close x.1 x.2).deliverLast = (Part.close x.1 x.2).withoutInlines.deliver :=
    funext (Part.deliverLast_eq _)
  rw [← hLast]
  cases rest <;> rfl

theorem finish_stop {b : Builder} (h : b.Sorted) (hTags : ∀ tag ∈ b.tags, tag.splicesInlines = false) :
    b.stop.finish = b.finish := by
  obtain ⟨root, opened⟩ := b
  cases opened with
  | nil => rfl
  | cons x rest =>
    have hPart := Part.withoutInlines_close (hTags x.1 List.mem_cons_self) (h x List.mem_cons_self)
    rw [finish_cons, hPart, stop]

theorem finish_stops {b : Builder} (h : b.Sorted) (hTags : ∀ tag ∈ b.tags, tag.splicesInlines = false)
    (n : Nat) : ((List.replicate n .stop).foldl step b).finish = b.finish := by
  induction n generalizing b with
  | zero => rfl
  | succ n ih =>
    have hInner : ∀ tag ∈ b.stop.tags, tag.splicesInlines = false := by
      intro tag hTag
      rw [tags_stop] at hTag
      exact hTags tag (List.mem_of_mem_tail hTag)
    rw [List.replicate_succ, List.foldl_cons]
    exact (ih h.stop hInner).trans (finish_stop h hTags)

theorem finish_cons_of_splicesInlines {tag : Tag} (hTag : tag.splicesInlines = true) {c : Content}
    (h : c.cleared = tag.content) (root : Content) (rest : List (Tag × Content)) :
    finish ⟨root, (tag, c) :: rest⟩ = finish ⟨root, rest⟩ := by
  have hPart : (Part.close tag c).withoutInlines = .splice [] [] := by
    rw [Part.close_of_splicesInlines hTag h, Part.withoutInlines]
  rw [finish_cons, hPart]
  cases rest <;> rfl

-- What is open inside the tag is handed to it one by one, so the induction is on how much that is.
theorem finish_append_of_splicesInlines {tag : Tag} (hTag : tag.splicesInlines = true) {c : Content}
    (h : c.cleared = tag.content) (root : Content) (inner rest : List (Tag × Content)) :
    finish ⟨root, inner ++ (tag, c) :: rest⟩ = finish ⟨root, rest⟩ := by
  induction hLength : inner.length generalizing inner c with
  | zero =>
    rw [List.length_eq_zero_iff.mp hLength]
    exact finish_cons_of_splicesInlines hTag h root rest
  | succ n ih =>
    obtain ⟨x, inner, rfl⟩ := List.exists_cons_of_length_eq_add_one hLength
    rw [List.cons_append, finish_cons]
    cases inner with
    | nil =>
      have hContent : ((Part.close x.1 x.2).withoutInlines.deliver c).cleared = tag.content := by
        rw [Part.cleared_deliver, h]
      exact finish_cons_of_splicesInlines hTag hContent root rest
    | cons y inner =>
      exact ih h ((y.1, (Part.close x.1 x.2).withoutInlines.deliver y.2) :: inner)
        (Nat.succ.inj hLength)

theorem step_append (root : Content) (e : Event) {inner : List (Tag × Content)}
    (h : Event.stopsBefore [e] < inner.length) (outer : List (Tag × Content)) :
    ∃ inner', step ⟨root, inner ++ outer⟩ e = ⟨root, inner' ++ outer⟩ ∧
      inner'.map Prod.fst = Event.track (inner.map Prod.fst) e := by
  obtain ⟨x, inner, rfl⟩ := List.exists_cons_of_length_pos (Nat.zero_lt_of_lt h)
  have hModify (f : Content → Content) :
      modify f ⟨root, x :: inner ++ outer⟩ = ⟨root, (x.1, f x.2) :: inner ++ outer⟩ := rfl
  cases e with
  | start tag => exact ⟨(tag, tag.content) :: x :: inner, rfl, rfl⟩
  | stop =>
    cases inner with
    | nil => simp [Event.stopsBefore] at h
    | cons y inner => exact ⟨(y.1, (Part.close x.1 x.2).deliver y.2) :: inner, rfl, rfl⟩
  | _ => exact ⟨_, hModify _, rfl⟩

theorem foldl_step_append (root : Content) (es : List Event) {inner : List (Tag × Content)}
    (h : Event.stopsBefore es < inner.length) (outer : List (Tag × Content)) :
    ∃ inner', es.foldl step ⟨root, inner ++ outer⟩ = ⟨root, inner' ++ outer⟩ ∧
      inner'.map Prod.fst = es.foldl Event.track (inner.map Prod.fst) := by
  induction es generalizing inner with
  | nil => exact ⟨inner, rfl, rfl⟩
  | cons e rest ih =>
    have hFirst : Event.stopsBefore [e] < inner.length := by
      cases e <;> simp [Event.stopsBefore] at h ⊢ <;> omega
    obtain ⟨middle, hStep, hTags⟩ := step_append root e hFirst outer
    have hLength : middle.length = (Event.track (inner.map Prod.fst) e).length := by
      rw [← hTags, List.length_map]
    have hRest : Event.stopsBefore rest < middle.length := by
      rw [hLength]
      cases e <;> simp [Event.stopsBefore, Event.track] at h ⊢ <;> omega
    obtain ⟨inner', hFold, hTags'⟩ := ih hRest
    refine ⟨inner', ?_, ?_⟩
    · rw [List.foldl_cons, hStep, hFold]
    · rw [hTags', hTags, List.foldl_cons]

theorem finish_foldl_start {tag : Tag} (hTag : tag.splicesInlines = true) {rest : List Event}
    (hStops : Event.stopsBefore rest = 0) {b : Builder} (h : b.Sorted) :
    ((.start tag :: rest).foldl step b).finish = b.finish := by
  obtain ⟨root, opened⟩ := b
  have hSorted := h.foldl (.start tag :: rest)
  -- The tag is never closed, so it is the outermost one among those that the events work on.
  have hLength : Event.stopsBefore rest < [(tag, tag.content)].length := by simp [hStops]
  obtain ⟨inner, hFold, hTags⟩ := foldl_step_append root rest hLength opened
  replace hFold : (.start tag :: rest).foldl step ⟨root, opened⟩ = ⟨root, inner ++ opened⟩ := hFold
  rw [Event.foldl_track, hStops] at hTags
  obtain ⟨front, last, rfl, _, hLast⟩ := List.map_eq_append_iff.mp hTags
  obtain ⟨⟨tag', c⟩, rfl, rfl⟩ := List.map_eq_singleton_iff.mp hLast
  rw [hFold] at hSorted ⊢
  have hContent : c.cleared = tag'.content := hSorted (tag', c) (by simp)
  rw [List.append_assoc, List.singleton_append]
  exact finish_append_of_splicesInlines hTag hContent root front opened

theorem finish_foldl_heard (es : List Event) {b : Builder} (h : b.Sorted) :
    ((Event.heard es).foldl step b).finish = (es.foldl step b).finish := by
  fun_induction Event.heard es generalizing b with
  | case1 => rfl
  | case2 tag rest hLost =>
    obtain ⟨hTag, hStops⟩ := Bool.and_eq_true_iff.mp hLost
    exact (finish_foldl_start hTag (eq_of_beq hStops) h).symm
  | case3 tag rest _ ih => exact ih (h.step (.start tag))
  | case4 e rest _ ih => exact ih (h.step e)

end Builder

/-- At the end of a stream the open tags behave as if they had been closed, after everything from the start of an
open superscript, subscript or table cell on has been lost. -/
theorem Block.ofEvents_eq_ofEvents_closed (es : List Event) :
    ofEvents es = ofEvents (Event.closed (Event.heard es)) ∧
      (Event.heard es = es ↔ ∀ tag ∈ Event.unclosed es, tag.splicesInlines = false) := by
  refine ⟨?_, Event.heard_eq_self_iff es⟩
  have hInitial : Builder.initial.Sorted := fun x hx => by cases hx
  have hTags : ∀ tag ∈ ((Event.heard es).foldl Builder.step .initial).tags,
      tag.splicesInlines = false := by
    intro tag hTag
    rw [Builder.tags_foldl] at hTag
    exact Event.splicesInlines_of_mem_unclosed_heard hTag
  calc ofEvents es
      = ((Event.heard es).foldl Builder.step .initial).finish :=
        (Builder.finish_foldl_heard es hInitial).symm
    _ = ofEvents (Event.closed (Event.heard es)) := by
        rw [ofEvents, Event.closed, List.foldl_append]
        exact (Builder.finish_stops (hInitial.foldl _) hTags _).symm

/-- The text of a superscript that is left open is lost. -/
theorem Block.not_ofEvents_eq_ofEvents_closed : ¬ ∀ es, ofEvents es = ofEvents (Event.closed es) := by
  intro h
  have hSuperscript := congrArg List.length (h [.start .superscript, .text ['a']])
  exact absurd hSuperscript (by decide)

end MarkdownLists
