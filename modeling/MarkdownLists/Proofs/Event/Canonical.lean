import MarkdownLists.Event.Builder
import MarkdownLists.Proofs.Document.Canonical

/-! # Building canonical documents

Streams of events that differ in how texts are cut, and in how links are spelled, describe documents with
the same canonical form.
-/

namespace MarkdownLists
set_option autoImplicit false

def Tag.respell (f : LinkKind → LinkKind) : Tag → Tag
  | span s => span (s.respell f)
  | tag => tag

@[simp] theorem Tag.respell_canonical (tag : Tag) :
    (tag.respell LinkKind.canonical).respell LinkKind.canonical = tag.respell LinkKind.canonical := by
  cases tag <;> simp [respell]

@[simp] theorem Tag.content_respell (f : LinkKind → LinkKind) (tag : Tag) :
    (tag.respell f).content = tag.content := by
  cases tag <;> rfl

def Event.respell (f : LinkKind → LinkKind) : Event → Event
  | start tag => start (tag.respell f)
  | e => e

@[simp] theorem Event.respell_canonical (e : Event) :
    (e.respell LinkKind.canonical).respell LinkKind.canonical = e.respell LinkKind.canonical := by
  cases e <;> simp [respell]

def Event.merge : List Event → List Event
  | [] => []
  | .text t :: rest =>
    match Event.merge rest with
    | .text u :: rest => .text (t ++ u) :: rest
    | rest => .text t :: rest
  | e :: rest => e :: Event.merge rest

/-- Equality under `κ` is kept by a fold if each step keeps it. -/
theorem foldl_congr {σ τ α : Type} (κ : σ → τ) {g : σ → α → σ}
    (hStep : ∀ x s s', κ s = κ s' → κ (g s x) = κ (g s' x)) (xs : List α) {s s' : σ} (h : κ s = κ s') :
    κ (xs.foldl g s) = κ (xs.foldl g s') := by
  induction xs generalizing s s' with
  | nil => exact h
  | cons x rest ih => exact ih (hStep x s s' h)

namespace Content

def canonical : Content → Content
  | inlines xs => inlines (Inline.canonicalAll xs)
  | blocks xs => blocks (Block.canonicalAll xs)
  | items xs => items (Block.canonicalItems xs)
  | raw t => raw t

@[simp] theorem canonical_canonical (c : Content) : c.canonical.canonical = c.canonical := by
  cases c <;> simp [canonical]

@[simp] theorem toBlocks_canonical (c : Content) :
    c.canonical.toBlocks = Block.canonicalAll c.toBlocks := by
  cases c <;> rfl

theorem canonicalAll_extendHidden (i : Inline) (bs : List Block) :
    Block.canonicalAll (extendHidden i bs) =
      Block.canonicalAll (extendHidden i.canonical (Block.canonicalAll bs)) := by
  have hSingle : Inline.canonicalAll [i.canonical] = Inline.canonicalAll [i] := by
    simp [Inline.canonicalAll]
  fun_induction extendHidden i bs with
  | case1 => simp [Block.canonicalAll, extendHidden, Block.canonical, hSingle]
  | case2 content =>
    simp [Block.canonicalAll, extendHidden, Block.canonical, Inline.canonicalAll_append, hSingle]
  | case3 b hVisible =>
    cases b with
    | paragraph hidden content =>
      cases hidden with
      | true => exact absurd rfl (hVisible content)
      | false => simp [Block.canonicalAll, extendHidden, Block.canonical, hSingle]
    | _ => simp [Block.canonicalAll, extendHidden, Block.canonical, hSingle]
  | case4 b c rest ih =>
    simp only [Block.canonicalAll] at ih ⊢
    rw [extendHidden, Block.canonicalAll, ih]
    simp

theorem canonical_pushInline (i : Inline) (c : Content) :
    (c.pushInline i).canonical = (c.canonical.pushInline i.canonical).canonical := by
  cases c with
  | inlines xs => simp [pushInline, canonical, Inline.canonicalAll_append, Inline.canonicalAll]
  | blocks bs => exact congrArg blocks (canonicalAll_extendHidden i bs)
  | items xs => simp [pushInline, canonical]
  | raw t => cases i <;> rfl

theorem canonical_pushHtml (s : Text) (c : Content) :
    (c.pushHtml s).canonical = (c.canonical.pushHtml s).canonical := by
  cases c with
  | inlines xs => exact canonical_pushInline (.html s) (.inlines xs)
  | blocks bs => exact canonical_pushInline (.html s) (.blocks bs)
  | items xs => exact canonical_pushInline (.html s) (.items xs)
  | raw t => rfl

theorem canonical_pushBlock (b : Block) (c : Content) :
    (c.pushBlock b).canonical = (c.canonical.pushBlock b.canonical).canonical := by
  cases c with
  | inlines xs =>
    cases b with
    | paragraph hidden content =>
      exact congrArg inlines (Inline.canonicalAll_append_canonicalAll xs content).symm
    | _ => simp [pushBlock, canonical, Block.canonical]
  | blocks bs => simp [pushBlock, canonical, Block.canonicalAll_eq_map]
  | _ => simp [pushBlock, canonical]

theorem canonical_pushItem (children : List Block) (c : Content) :
    (c.pushItem children).canonical =
      (c.canonical.pushItem (Block.canonicalAll children)).canonical := by
  cases c with
  | items xs => simp [pushItem, canonical, Block.canonicalItems_eq_map]
  | _ => simp [pushItem, canonical]

theorem extendHidden_ne_nil (i : Inline) (bs : List Block) : extendHidden i bs ≠ [] := by
  fun_cases extendHidden i bs <;> simp

theorem extendHidden_cons (i : Inline) (b : Block) {rest : List Block} (h : rest ≠ []) :
    extendHidden i (b :: rest) = b :: extendHidden i rest := by
  obtain ⟨c, rest, rfl⟩ := List.exists_cons_of_ne_nil h
  rw [extendHidden]

theorem canonicalAll_extendHidden_text (t u : Text) (bs : List Block) :
    Block.canonicalAll (extendHidden (.text u) (extendHidden (.text t) bs)) =
      Block.canonicalAll (extendHidden (.text (t ++ u)) bs) := by
  have hTexts (content : List Inline) : Inline.canonicalAll (content ++ [.text t, .text u]) =
      Inline.canonicalAll (content ++ [.text (t ++ u)]) := by
    simp [Inline.canonicalAll_append, Inline.canonicalAll, Inline.canonical, Inline.consJoined]
  fun_induction extendHidden (.text t) bs with
  | case1 => simpa [Block.canonicalAll, extendHidden, Block.canonical] using hTexts []
  | case2 content => simp [Block.canonicalAll, extendHidden, Block.canonical, hTexts]
  | case3 b hVisible =>
    have hParagraph := hTexts []
    simp_all [Block.canonicalAll, extendHidden, Block.canonical]
  | case4 b c rest ih =>
    rw [extendHidden_cons _ b (extendHidden_ne_nil _ _), extendHidden_cons _ b (by simp),
      Block.canonicalAll, ih, Block.canonicalAll]

/-- Pushing two texts is like pushing them as one. -/
theorem canonical_pushInline_text (t u : Text) (c : Content) :
    ((c.pushInline (.text t)).pushInline (.text u)).canonical =
      (c.pushInline (.text (t ++ u))).canonical := by
  cases c with
  | inlines xs =>
    simp [pushInline, canonical, Inline.canonicalAll_append, Inline.canonicalAll, Inline.canonical,
      Inline.consJoined]
  | blocks bs => exact congrArg blocks (canonicalAll_extendHidden_text t u bs)
  | items xs => rfl
  | raw s => simp [pushInline, canonical]

theorem foldl_pushInline_congr (xs : List Inline) {c c' : Content} (h : c.canonical = c'.canonical) :
    (xs.foldl (fun c i => c.pushInline i) c).canonical =
      (xs.foldl (fun c i => c.pushInline i) c').canonical := by
  refine foldl_congr canonical (fun i c c' h => ?_) xs h
  rw [canonical_pushInline, h, ← canonical_pushInline]

theorem foldl_pushBlock_congr (bs : List Block) {c c' : Content} (h : c.canonical = c'.canonical) :
    (bs.foldl (fun c b => c.pushBlock b) c).canonical =
      (bs.foldl (fun c b => c.pushBlock b) c').canonical := by
  refine foldl_congr canonical (fun b c c' h => ?_) bs h
  rw [canonical_pushBlock, h, ← canonical_pushBlock]

theorem foldl_pushInline_consJoined (i : Inline) (xs : List Inline) (c : Content) :
    ((Inline.consJoined i xs).foldl (fun c i => c.pushInline i) c).canonical =
      (xs.foldl (fun c i => c.pushInline i) (c.pushInline i)).canonical := by
  cases i with
  | text t =>
    cases xs with
    | nil => rfl
    | cons j rest =>
      cases j with
      | text u => exact foldl_pushInline_congr rest (canonical_pushInline_text t u c).symm
      | _ => rfl
  | _ => rfl

theorem canonical_foldl_pushInline (xs : List Inline) (c : Content) :
    (xs.foldl (fun c i => c.pushInline i) c).canonical =
      ((Inline.canonicalAll xs).foldl (fun c i => c.pushInline i) c.canonical).canonical := by
  induction xs generalizing c with
  | nil => exact c.canonical_canonical.symm
  | cons i rest ih =>
    rw [List.foldl_cons, ih, Inline.canonicalAll, foldl_pushInline_consJoined]
    apply foldl_pushInline_congr
    rw [canonical_canonical, canonical_pushInline]

theorem canonical_foldl_pushBlock (bs : List Block) (c : Content) :
    (bs.foldl (fun c b => c.pushBlock b) c).canonical =
      ((Block.canonicalAll bs).foldl (fun c b => c.pushBlock b) c.canonical).canonical := by
  induction bs generalizing c with
  | nil => exact c.canonical_canonical.symm
  | cons b rest ih =>
    rw [List.foldl_cons, ih, Block.canonicalAll, List.foldl_cons]
    apply foldl_pushBlock_congr
    rw [canonical_canonical, canonical_pushBlock]

end Content

namespace Part

def canonical : Part → Part
  | block b => block b.canonical
  | item children => item (Block.canonicalAll children)
  | inline i => inline i.canonical
  | splice bs xs => splice (Block.canonicalAll bs) (Inline.canonicalAll xs)

theorem canonical_close (tag : Tag) (c : Content) :
    (close tag c).canonical = close (tag.respell LinkKind.canonical) c.canonical := by
  cases tag with
  | list start => cases start <;> cases c <;> rfl
  | _ => cases c <;> rfl

theorem canonical_deliver (p : Part) (c : Content) :
    (p.deliver c).canonical = (p.canonical.deliver c.canonical).canonical := by
  cases p with
  | block b => exact c.canonical_pushBlock b
  | item children => exact c.canonical_pushItem children
  | inline i => exact c.canonical_pushInline i
  | splice bs xs =>
    rw [deliver, canonical, deliver, Content.canonical_foldl_pushInline]
    apply Content.foldl_pushInline_congr
    rw [Content.canonical_canonical, Content.canonical_foldl_pushBlock]

theorem canonical_deliverLast (p : Part) (c : Content) :
    (p.deliverLast c).canonical = (p.canonical.deliverLast c.canonical).canonical := by
  cases p with
  | block b => exact canonical_deliver (.block b) c
  | item children => exact canonical_deliver (.item children) c
  | inline i => exact canonical_deliver (.inline i) c
  | splice bs xs => exact Content.canonical_foldl_pushBlock bs c

end Part

namespace Builder

def canonicalOpened (x : Tag × Content) : Tag × Content :=
  (x.1.respell LinkKind.canonical, x.2.canonical)

def canonical (b : Builder) : Builder := ⟨b.root.canonical, b.opened.map canonicalOpened⟩

@[simp] theorem canonical_canonical (b : Builder) : b.canonical.canonical = b.canonical := by
  simp [canonical, canonicalOpened, Function.comp_def]

theorem canonical_modify {f g : Content → Content}
    (h : ∀ c, (f c).canonical = (g c.canonical).canonical) (b : Builder) :
    (b.modify f).canonical = (b.canonical.modify g).canonical := by
  obtain ⟨root, opened⟩ := b
  cases opened with
  | nil => simp [modify, canonical, h]
  | cons x rest => simp [modify, canonical, canonicalOpened, h, Function.comp_def]

theorem canonical_stop (b : Builder) : b.stop.canonical = b.canonical.stop.canonical := by
  obtain ⟨root, opened⟩ := b
  cases opened with
  | nil => simp [stop, canonical]
  | cons x rest =>
    rw [stop, canonical_modify (Part.canonical_deliver (Part.close x.1 x.2)), Part.canonical_close]
    rfl

theorem canonical_step (b : Builder) (e : Event) :
    (b.step e).canonical = (b.canonical.step (e.respell LinkKind.canonical)).canonical := by
  cases e with
  | start tag => simp [step, canonical, canonicalOpened, Event.respell, Function.comp_def]
  | stop => exact canonical_stop b
  | text t => exact canonical_modify (Content.canonical_pushInline _) b
  | html t => exact canonical_modify (Content.canonical_pushHtml t) b
  | inlineHtml t => exact canonical_modify (Content.canonical_pushHtml t) b
  | rule => exact canonical_modify (Content.canonical_pushBlock _) b
  | _ => exact canonical_modify (Content.canonical_pushInline _) b

theorem foldl_step_congr (es : List Event) {b b' : Builder} (h : b.canonical = b'.canonical) :
    (es.foldl step b).canonical = (es.foldl step b').canonical := by
  refine foldl_congr canonical (fun e b b' h => ?_) es h
  rw [canonical_step, h, ← canonical_step]

theorem canonical_foldl_respell (es : List Event) (b : Builder) :
    ((es.map (Event.respell LinkKind.canonical)).foldl step b).canonical =
      (es.foldl step b).canonical := by
  induction es generalizing b with
  | nil => rfl
  | cons e rest ih =>
    rw [List.map_cons, List.foldl_cons, ih, List.foldl_cons]
    apply foldl_step_congr
    rw [canonical_step, Event.respell_canonical, ← canonical_step]

theorem canonical_step_text (t u : Text) (b : Builder) :
    ((b.step (.text t)).step (.text u)).canonical = (b.step (.text (t ++ u))).canonical := by
  obtain ⟨root, opened⟩ := b
  cases opened with
  | nil => simp [step, modify, canonical, Content.canonical_pushInline_text]
  | cons x rest =>
    simp [step, modify, canonical, canonicalOpened, Content.canonical_pushInline_text]

theorem canonical_foldl_merge (es : List Event) (b : Builder) :
    ((Event.merge es).foldl step b).canonical = (es.foldl step b).canonical := by
  fun_induction Event.merge es generalizing b with
  | case1 => rfl
  | case2 t rest u tail hMerge ih =>
    calc ((.text (t ++ u) :: tail).foldl step b).canonical
        = (tail.foldl step ((b.step (.text t)).step (.text u))).canonical :=
          foldl_step_congr tail (canonical_step_text t u b).symm
      _ = ((Event.merge rest).foldl step (b.step (.text t))).canonical := by rw [hMerge]; rfl
      _ = (rest.foldl step (b.step (.text t))).canonical := ih _
  | case3 t rest hMerge ih => exact ih _
  | case4 e rest hText ih => exact ih _

theorem settle_congr {root root' : Content} {p p' : Part} {opened opened' : List (Tag × Content)}
    (hRoot : root.canonical = root'.canonical) (hPart : p.canonical = p'.canonical)
    (hOpened : opened.map canonicalOpened = opened'.map canonicalOpened) :
    (settle root p opened).canonical = (settle root' p' opened').canonical := by
  induction opened generalizing p p' opened' with
  | nil =>
    have hNil : opened' = [] := List.map_eq_nil_iff.mp hOpened.symm
    rw [hNil, settle, settle, Part.canonical_deliverLast, hRoot, hPart, ← Part.canonical_deliverLast]
  | cons x rest ih =>
    obtain ⟨x', rest', rfl, hTag, hRest⟩ := List.map_eq_cons_iff.mp hOpened.symm
    obtain ⟨hTag, hContent⟩ := Prod.mk.inj hTag
    rw [settle, settle]
    refine ih ?_ hRest.symm
    rw [Part.canonical_close, Part.canonical_close, Part.canonical_deliverLast, hPart, hTag, ← hContent,
      ← Part.canonical_deliverLast]

theorem canonicalAll_finish {b b' : Builder} (h : b.canonical = b'.canonical) :
    Block.canonicalAll b.finish = Block.canonicalAll b'.finish := by
  obtain ⟨root, opened⟩ := b
  obtain ⟨root', opened'⟩ := b'
  obtain ⟨hRoot, hOpened⟩ := Builder.mk.inj h
  cases opened with
  | nil =>
    have hNil : opened' = [] := List.map_eq_nil_iff.mp hOpened.symm
    rw [hNil, finish, finish, ← Content.toBlocks_canonical, hRoot, Content.toBlocks_canonical]
  | cons x rest =>
    obtain ⟨x', rest', rfl, hTag, hRest⟩ := List.map_eq_cons_iff.mp hOpened.symm
    obtain ⟨hTag, hContent⟩ := Prod.mk.inj hTag
    have hPart : (Part.close x.1 x.2).canonical = (Part.close x'.1 x'.2).canonical := by
      rw [Part.canonical_close, Part.canonical_close, hTag, hContent]
    rw [finish, finish, ← Content.toBlocks_canonical, settle_congr hRoot hPart hRest.symm,
      Content.toBlocks_canonical]

end Builder

/-- Cutting texts and spelling links in another way describes a document with the same canonical form. -/
theorem Block.canonicalAll_ofEvents (es : List Event) :
    canonicalAll (ofEvents (Event.merge (es.map (Event.respell LinkKind.canonical)))) =
      canonicalAll (ofEvents es) := by
  apply Builder.canonicalAll_finish
  rw [Builder.canonical_foldl_merge, Builder.canonical_foldl_respell]

end MarkdownLists
