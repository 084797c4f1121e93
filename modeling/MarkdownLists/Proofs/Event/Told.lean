import MarkdownLists.Proofs.Document.Normal
import MarkdownLists.Proofs.Event.Canonical

/-! # Telling a document and building it again

A document can be told by many streams of events, since the content of a code or HTML block may come in any
pieces. From each of them the builder makes the document again, if it is in normal form.
-/

namespace MarkdownLists
set_option autoImplicit false

mutual
/-- The streams that tell a block: its natural events, with raw content cut in any way. -/
inductive Block.Told : Block → List Event → Prop
  | hidden (content : List Inline) : Told (.paragraph true content) (Inline.eventsAll content)
  | paragraph (content : List Inline) :
    Told (.paragraph false content) (.start .paragraph :: (Inline.eventsAll content ++ [.stop]))
  | heading (level : Fin 6) (content : List Inline) :
    Told (.heading level content) (.start (.heading level) :: (Inline.eventsAll content ++ [.stop]))
  | quote {children : List Block} {es : List Event} (h : ToldAll children es) :
    Told (.quote children) (.start .quote :: (es ++ [.stop]))
  | code (info : Option Text) (pieces : List Text) :
    Told (.code info pieces.flatten) (.start (.code info) :: (pieces.map .text ++ [.stop]))
  | html (pieces : List Text) :
    Told (.html pieces.flatten) (.start .html :: (pieces.map .html ++ [.stop]))
  | list {kind : ListKind} {items : List (List Block)} {es : List Event} (h : ToldItems items es) :
    Told (.list kind items) (.start kind.tag :: (es ++ [.stop]))
  | rule : Told .rule [.rule]

inductive Block.ToldAll : List Block → List Event → Prop
  | nil : ToldAll [] []
  | cons {b : Block} {rest : List Block} {es fs : List Event} (h : Told b es) (hRest : ToldAll rest fs) :
    ToldAll (b :: rest) (es ++ fs)

inductive Block.ToldItems : List (List Block) → List Event → Prop
  | nil : ToldItems [] []
  | cons {children : List Block} {rest : List (List Block)} {es fs : List Event}
    (h : ToldAll children es) (hRest : ToldItems rest fs) :
    ToldItems (children :: rest) (.start .item :: (es ++ .stop :: fs))
end

mutual
theorem Block.told_events (b : Block) : Told b b.events := by
  cases b with
  | paragraph hidden content =>
    cases hidden with
    | true => exact .hidden content
    | false => exact .paragraph content
  | heading level content => exact .heading level content
  | quote children => exact .quote (toldAll_eventsAll children)
  | code info content => simpa [Block.events] using Told.code info [content]
  | html content => simpa [Block.events] using Told.html [content]
  | list kind items => exact .list (toldItems_eventsItems items)
  | rule => exact .rule

theorem Block.toldAll_eventsAll (blocks : List Block) : ToldAll blocks (eventsAll blocks) := by
  cases blocks with
  | nil => exact .nil
  | cons b rest => exact .cons (told_events b) (toldAll_eventsAll rest)

theorem Block.toldItems_eventsItems (items : List (List Block)) :
    ToldItems items (eventsItems items) := by
  cases items with
  | nil => exact .nil
  | cons children rest => exact .cons (toldAll_eventsAll children) (toldItems_eventsItems rest)
end

/-! ## Contents -/

namespace Content

def isRaw : Content → Bool
  | raw _ => true
  | _ => false

theorem pushHtml_of_not_raw {c : Content} (h : c.isRaw = false) (t : Text) :
    c.pushHtml t = c.pushInline (.html t) := by
  cases c with
  | raw s => cases h
  | _ => rfl

@[simp] theorem isRaw_pushInline (c : Content) (i : Inline) : (c.pushInline i).isRaw = c.isRaw := by
  cases c with
  | raw t => cases i <;> rfl
  | _ => rfl

theorem foldl_pushInline_inlines (xs ys : List Inline) :
    ys.foldl (fun c i => c.pushInline i) (inlines xs) = inlines (xs ++ ys) := by
  induction ys generalizing xs with
  | nil => rw [List.foldl_nil, List.append_nil]
  | cons i rest ih => rw [List.foldl_cons, pushInline, ih, List.append_assoc, List.singleton_append]

theorem extendHidden_append_hidden (i : Inline) (bs : List Block) (content : List Inline) :
    extendHidden i (bs ++ [.paragraph true content]) = bs ++ [.paragraph true (content ++ [i])] := by
  induction bs with
  | nil => rfl
  | cons b rest ih => rw [List.cons_append, extendHidden_cons i b (by simp), ih, List.cons_append]

theorem extendHidden_of_getLast? (i : Inline) {bs : List Block}
    (h : ∀ b ∈ bs.getLast?, b.isHidden = false) : extendHidden i bs = bs ++ [.paragraph true [i]] := by
  rcases List.eq_nil_or_concat bs with rfl | ⟨front, b, rfl⟩
  · rfl
  · have hShown : b.isHidden = false := h b (by simp)
    clear h
    induction front with
    | nil =>
      cases b with
      | paragraph hidden content => cases hShown; rfl
      | _ => rfl
    | cons c rest ih =>
      simp only [List.concat_eq_append, List.cons_append] at ih ⊢
      rw [extendHidden_cons i c (by simp), ih]

/-- The first of some inlines opens a hidden paragraph, and the others extend it. -/
theorem foldl_pushInline_blocks {content : List Inline} (hContent : content ≠ []) {bs : List Block}
    (h : ∀ b ∈ bs.getLast?, b.isHidden = false) :
    content.foldl (fun c i => c.pushInline i) (blocks bs) = blocks (bs ++ [.paragraph true content]) := by
  have hExtend (xs ys : List Inline) :
      ys.foldl (fun c i => c.pushInline i) (blocks (bs ++ [.paragraph true xs])) =
        blocks (bs ++ [.paragraph true (xs ++ ys)]) := by
    induction ys generalizing xs with
    | nil => rw [List.foldl_nil, List.append_nil]
    | cons i rest ih =>
      rw [List.foldl_cons, pushInline, extendHidden_append_hidden, ih, List.append_assoc,
        List.singleton_append]
  obtain ⟨i, rest, rfl⟩ := List.exists_cons_of_ne_nil hContent
  rw [List.foldl_cons, pushInline, extendHidden_of_getLast? i h, hExtend, List.singleton_append]

end Content

/-! ## The innermost tag -/

namespace Builder

/-- What the innermost tag has collected. -/
def top : Builder → Content
  | ⟨root, []⟩ => root
  | ⟨_, (_, c) :: _⟩ => c

def put (c : Content) (b : Builder) : Builder := b.modify fun _ => c

def push (tag : Tag) (c : Content) (b : Builder) : Builder := ⟨b.root, (tag, c) :: b.opened⟩

theorem modify_eq_put {f : Content → Content} {b : Builder} {c : Content} (h : f b.top = c) :
    b.modify f = b.put c := by
  subst h
  obtain ⟨root, opened⟩ := b
  cases opened <;> rfl

@[simp] theorem top_modify (f : Content → Content) (b : Builder) : (b.modify f).top = f b.top := by
  obtain ⟨root, opened⟩ := b
  cases opened <;> rfl

@[simp] theorem top_put (c : Content) (b : Builder) : (b.put c).top = c := top_modify _ b

@[simp] theorem top_push (tag : Tag) (c : Content) (b : Builder) : (b.push tag c).top = c := rfl

@[simp] theorem modify_modify (f g : Content → Content) (b : Builder) :
    (b.modify f).modify g = b.modify fun c => g (f c) := by
  obtain ⟨root, opened⟩ := b
  cases opened <;> rfl

@[simp] theorem put_put (c c' : Content) (b : Builder) : (b.put c).put c' = b.put c' :=
  modify_modify _ _ b

theorem put_top (b : Builder) : b.put b.top = b := by
  obtain ⟨root, opened⟩ := b
  cases opened <;> rfl

@[simp] theorem put_push (tag : Tag) (c c' : Content) (b : Builder) :
    (b.push tag c).put c' = b.push tag c' := rfl

theorem stop_push (tag : Tag) (c : Content) (b : Builder) :
    (b.push tag c).stop = b.modify (Part.close tag c).deliver := rfl

/-- The events between a tag and its stop work on what the tag collects, and on nothing else. -/
theorem foldl_tagged {tag : Tag} {es : List Event} {c : Content} {b : Builder}
    (h : es.foldl step (b.push tag tag.content) = b.push tag c) :
    (.start tag :: (es ++ [.stop])).foldl step b = b.modify (Part.close tag c).deliver := by
  calc (.start tag :: (es ++ [.stop])).foldl step b
      = (es.foldl step (b.push tag tag.content)).stop := by
        rw [List.foldl_cons, List.foldl_append]
        rfl
    _ = b.modify (Part.close tag c).deliver := by rw [h, stop_push]

/-! ## Events of inlines -/

mutual
theorem foldl_events_inline (i : Inline) (b : Builder) (h : b.top.isRaw = false) :
    i.events.foldl step b = b.modify (·.pushInline i) := by
  cases i with
  | html t =>
    rw [modify_eq_put (Content.pushHtml_of_not_raw h t).symm]
    exact modify_eq_put rfl
  | span s children =>
    have hInner := foldl_eventsAll_inline children (b.push (.span s) (.inlines [])) rfl
    rw [modify_eq_put (Content.foldl_pushInline_inlines [] children), put_push] at hInner
    exact foldl_tagged hInner
  | _ => rfl

theorem foldl_eventsAll_inline (xs : List Inline) (b : Builder) (h : b.top.isRaw = false) :
    (Inline.eventsAll xs).foldl step b = b.modify fun c => xs.foldl (fun c i => c.pushInline i) c := by
  cases xs with
  | nil =>
    rw [modify_eq_put rfl]
    exact (put_top b).symm
  | cons i rest =>
    have hFirst := foldl_events_inline i b h
    have hRest := foldl_eventsAll_inline rest (b.modify (·.pushInline i)) (by simpa using h)
    rw [Inline.eventsAll, List.foldl_append, hFirst, hRest, modify_modify]
    rfl
end

theorem foldl_eventsAll_push (content : List Inline) (tag : Tag) (b : Builder) :
    (Inline.eventsAll content).foldl step (b.push tag (.inlines [])) = b.push tag (.inlines content) := by
  rw [foldl_eventsAll_inline content _ rfl, modify_eq_put (Content.foldl_pushInline_inlines [] content)]
  rfl

theorem foldl_pieces (e : Text → Event) (tag : Tag) (b : Builder)
    (hStep : ∀ t u, (b.push tag (.raw t)).step (e u) = b.push tag (.raw (t ++ u))) (pieces : List Text) :
    (pieces.map e).foldl step (b.push tag (.raw [])) = b.push tag (.raw pieces.flatten) := by
  have hPieces (t : Text) : (pieces.map e).foldl step (b.push tag (.raw t)) =
      b.push tag (.raw (t ++ pieces.flatten)) := by
    induction pieces generalizing t with
    | nil => simp
    | cons u rest ih =>
      rw [List.map_cons, List.foldl_cons, hStep, ih, List.flatten_cons, List.append_assoc]
  exact hPieces []

/-! ## Events of blocks -/

theorem modify_pushBlock {b : Builder} {bs : List Block} (h : b.top = .blocks bs) (block : Block) :
    b.modify (·.pushBlock block) = b.put (.blocks (bs ++ [block])) := by
  apply modify_eq_put
  rw [h]
  rfl

theorem close_list {kind : ListKind} (h : kind.isNormal = true) (items : List (List Block)) :
    Part.close kind.tag (.items items) = .block (.list kind items) := by
  cases kind with
  | bullet => rfl
  | ordered start =>
    obtain ⟨n, rfl⟩ := Option.isSome_iff_exists.mp h
    rfl

-- The induction is on how the blocks are told. A block is added to the innermost content whatever stands
-- around it there; only a hidden paragraph has to know that it does not continue the block before it.
mutual
theorem foldl_told {block : Block} {es : List Event} (hTold : Block.Told block es)
    (hNormal : block.isNormal = true) (b : Builder) (bs : List Block) (hTop : b.top = .blocks bs)
    (hApart : ∀ c ∈ bs.getLast?, c.isApart block = true) :
    es.foldl step b = b.put (.blocks (bs ++ [block])) := by
  cases hTold with
  | hidden content =>
    have hContent : content ≠ [] := by simpa [Block.isNormal] using hNormal
    have hShown : ∀ c ∈ bs.getLast?, c.isHidden = false := by
      simpa [Block.isApart, Block.isHidden] using hApart
    have hNotRaw : b.top.isRaw = false := by
      rw [hTop]
      rfl
    rw [foldl_eventsAll_inline content b hNotRaw]
    apply modify_eq_put
    rw [hTop, Content.foldl_pushInline_blocks hContent hShown]
  | paragraph content =>
    rw [← modify_pushBlock hTop]
    exact foldl_tagged (foldl_eventsAll_push content .paragraph b)
  | heading level content =>
    rw [← modify_pushBlock hTop]
    exact foldl_tagged (foldl_eventsAll_push content (.heading level) b)
  | quote hChildren =>
    rw [Block.isNormal] at hNormal
    have hInner := foldl_toldAll hChildren hNormal (b.push .quote (.blocks [])) [] rfl (by simp)
    rw [← modify_pushBlock hTop]
    exact foldl_tagged hInner
  | code info pieces =>
    have hInner := foldl_pieces .text (.code info) b (fun _ _ => rfl) pieces
    rw [← modify_pushBlock hTop]
    exact foldl_tagged hInner
  | html pieces =>
    have hInner := foldl_pieces .html .html b (fun _ _ => rfl) pieces
    rw [← modify_pushBlock hTop]
    exact foldl_tagged hInner
  | @list kind items _ hItems =>
    rw [Block.isNormal, Bool.and_eq_true] at hNormal
    have hContent : kind.tag.content = .items [] := by cases kind <;> rfl
    have hInner := foldl_toldItems hItems hNormal.2 (b.push kind.tag (.items [])) [] rfl
    rw [← hContent] at hInner
    rw [foldl_tagged hInner, List.nil_append, close_list hNormal.1]
    exact modify_pushBlock hTop _
  | rule => exact modify_pushBlock hTop .rule

theorem foldl_toldAll {children : List Block} {es : List Event} (hTold : Block.ToldAll children es)
    (hNormal : Block.isNormalAll children = true) (b : Builder) (bs : List Block)
    (hTop : b.top = .blocks bs)
    (hApart : ∀ c ∈ bs.getLast?, ∀ d ∈ children.head?, c.isApart d = true) :
    es.foldl step b = b.put (.blocks (bs ++ children)) := by
  cases hTold with
  | nil => rw [List.append_nil, ← hTop, put_top, List.foldl_nil]
  | @cons block rest _ _ hBlock hRest =>
    obtain ⟨hFirst, hNeighbour, hNormal⟩ := Block.isNormalAll_cons_iff.mp hNormal
    have hEvents := foldl_told hBlock hFirst b bs hTop fun c hc => hApart c hc block rfl
    have hFollowing := foldl_toldAll hRest hNormal (b.put (.blocks (bs ++ [block]))) (bs ++ [block])
      (top_put _ b) (by simpa using hNeighbour)
    rw [List.foldl_append, hEvents, hFollowing, put_put, List.append_assoc, List.singleton_append]

theorem foldl_toldItems {items : List (List Block)} {es : List Event}
    (hTold : Block.ToldItems items es) (hNormal : Block.isNormalItems items = true) (b : Builder)
    (xs : List (List Block)) (hTop : b.top = .items xs) :
    es.foldl step b = b.put (.items (xs ++ items)) := by
  cases hTold with
  | nil => rw [List.append_nil, ← hTop, put_top, List.foldl_nil]
  | @cons children rest es fs hChildren hRest =>
    rw [Block.isNormalItems, Bool.and_eq_true] at hNormal
    have hInner := foldl_toldAll hChildren hNormal.1 (b.push .item (.blocks [])) [] rfl (by simp)
    have hItem : (.start .item :: (es ++ [.stop])).foldl step b = b.put (.items (xs ++ [children])) := by
      rw [foldl_tagged hInner]
      apply modify_eq_put
      rw [hTop]
      rfl
    have hFollowing := foldl_toldItems hRest hNormal.2 (b.put (.items (xs ++ [children])))
      (xs ++ [children]) (top_put _ b)
    have hSplit : .start .item :: (es ++ .stop :: fs) = (.start .item :: (es ++ [.stop])) ++ fs := by simp
    rw [hSplit, List.foldl_append, hItem, hFollowing, put_put, List.append_assoc,
      List.singleton_append]
end

end Builder

/-- A document in normal form can be told, and however it is told, the builder makes it again. -/
theorem Block.ofEvents_told {blocks : List Block} (h : isNormalAll blocks = true) :
    ToldAll blocks (eventsAll blocks) ∧ ∀ es, ToldAll blocks es → ofEvents es = blocks := by
  refine ⟨toldAll_eventsAll blocks, ?_⟩
  intro es hTold
  have hEvents := Builder.foldl_toldAll hTold h .initial [] rfl (by simp)
  rw [ofEvents, hEvents]
  rfl

/-- A hidden paragraph before and after a list, one in an item before a quote, and code in three pieces. -/
def Block.interleaved : List Block :=
  [.paragraph true [.text ['a'], .span .emphasis [.text ['b'], .html ['c']]],
    .list (.ordered (some 7)) [[.paragraph true [.text ['d'], .text ['e']], .quote []], []],
    .paragraph true [.softBreak],
    .code none ['f', '\n', 'g']]

def Block.interleavedEvents : List Event :=
  [.text ['a'], .start (.span .emphasis), .text ['b'], .inlineHtml ['c'], .stop,
    .start (.list (some 7)), .start .item, .text ['d'], .text ['e'], .start .quote, .stop, .stop,
    .start .item, .stop, .stop,
    .softBreak,
    .start (.code none), .text ['f', '\n'], .text [], .text ['g'], .stop]

theorem Block.ofEvents_told_interleaved : isNormalAll interleaved = true ∧
    ToldAll interleaved interleavedEvents ∧ ofEvents interleavedEvents = interleaved := by
  have hNormal : isNormalAll interleaved = true := by decide
  have hItem := ToldAll.cons (.hidden [.text ['d'], .text ['e']]) (.cons (.quote .nil) .nil)
  have hList := ToldItems.cons hItem (.cons .nil .nil)
  have hTold : ToldAll interleaved interleavedEvents :=
    ToldAll.cons (.hidden [.text ['a'], .span .emphasis [.text ['b'], .html ['c']]])
      (.cons (.list hList) (.cons (.hidden [.softBreak]) (.cons (.code none [['f', '\n'], [], ['g']]) .nil)))
  exact ⟨hNormal, hTold, (ofEvents_told hNormal).2 interleavedEvents hTold⟩

end MarkdownLists
