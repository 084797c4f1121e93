import MarkdownLists.Listing.Placement
import MarkdownLists.Proofs.Listing.Numbering
import MarkdownLists.Proofs.Runs

/-! # What a list render gives

A list can always be rendered: it has a marker for each of its items, and all of them are as wide as the
first. When the bodies of the items succeed, the list does, its text is put together from theirs, and
they all see the same indented context.
-/

namespace MarkdownLists
set_option autoImplicit false

variable {ω ε ι : Type}

namespace Placement

def markers (p : Placement) (o : Options) : Listing.Markers :=
  match p.kind with
  | .bullet => .repeated (p.bullet o).text
  | .ordered start =>
    .perItem (Numbering.markers (start.getD 1).toNat p.items.length (p.suffix o) o.number)

def itemMarkers (p : Placement) (o : Options) : List Text := (p.markers o).forItems p.items.length

/-- The columns that a marker and the space after it take. -/
def width (p : Placement) (o : Options) : Nat := (p.markers o).first.length + 1

/-- The context that the bodies of the items see. -/
def inner (p : Placement) (c : Context) : Context := c.enter (p.width c.options)

def itemTexts (p : Placement) (o : Options) (bodies : List Text) : List Text :=
  List.zipWith (Listing.itemText (p.width o)) (p.itemMarkers o) bodies

def text (p : Placement) (o : Options) (bodies : List Text) : Text :=
  (Listing.separator p.items).intercalate (p.itemTexts o bodies)

theorem markers?_eq (p : Placement) (o : Options) : p.markers? o = some (p.markers o) := by
  obtain ⟨before, kind, items⟩ := p
  cases kind <;> rfl

theorem fits_markers (p : Placement) (o : Options) : (p.markers o).fits p.items.length = true := by
  obtain ⟨before, kind, items⟩ := p
  cases kind with
  | bullet => rfl
  | ordered start => simp [markers, Listing.Markers.fits]

@[simp] theorem length_itemMarkers (p : Placement) (o : Options) :
    (p.itemMarkers o).length = p.items.length :=
  Listing.Markers.length_forItems (p.fits_markers o)

/-- Every marker is as wide as the first one, which the indentation is measured by. -/
theorem length_of_mem_itemMarkers {p : Placement} {o : Options} {marker : Text}
    (h : marker ∈ p.itemMarkers o) : marker.length + 1 = p.width o := by
  obtain ⟨before, kind, items⟩ := p
  cases kind with
  | bullet => rw [List.eq_of_mem_replicate h]; rfl
  | ordered start =>
    replace h : marker ∈ Numbering.markers (start.getD 1).toNat items.length _ o.number := h
    obtain ⟨first, rest, hMarkers⟩ := List.exists_cons_of_ne_nil (List.ne_nil_of_mem h)
    have hFirst := Numbering.length_of_mem_markers (hMarkers ▸ List.mem_cons_self)
    change marker.length + 1 = ((Numbering.markers _ _ _ _).headD []).length + 1
    rw [hMarkers, List.headD_cons, hFirst, Numbering.length_of_mem_markers h]

end Placement

namespace Listing

theorem runs_itemTexts (width : Nat) {a : ι → Render ω ε Text} {f : ι → Context → Text}
    {g : ι → Context → List ω} {is : List ι} (h : ∀ i ∈ is, (a i).Runs (f i) (g i)) {ms : List Text}
    (hLength : ms.length = is.length) :
    (itemTexts width (ms.zip (is.map a))).Runs
      (fun c => List.zipWith (itemText width) ms (is.map (f · c))) fun c => is.flatMap (g · c) := by
  induction is generalizing ms with
  | nil => simpa [itemTexts] using Render.Runs.pure (ω := ω) (ε := ε) ([] : List Text)
  | cons i is ih =>
    cases ms with
    | nil => simp at hLength
    | cons m ms =>
      have hBody := h i List.mem_cons_self
      have hRest := ih (fun j hj => h j (List.mem_cons_of_mem _ hj)) (Nat.succ.inj hLength)
      exact hBody.bind fun body => hRest.map (itemText width m body :: ·)

end Listing

/-- Rendering a list renders the bodies in order, all in the context inside the list. -/
theorem Placement.runs_render (p : Placement) {a : ι → Render ω ε Text} {f : ι → Context → Text}
    {g : ι → Context → List ω} {is : List ι} (h : ∀ i ∈ is, (a i).Runs (f i) (g i))
    (hLength : is.length = p.items.length) :
    (p.render (is.map a)).Runs (fun c => p.text c.options (is.map (f · (p.inner c))))
      fun c => is.flatMap (g · (p.inner c)) := by
  have hCount : (is.map a).length = p.items.length := by rw [List.length_map, hLength]
  intro w
  have hMarkers : (p.itemMarkers w.context.options).length = is.length := by
    rw [hLength, length_itemMarkers]
  have hTexts := Listing.runs_itemTexts (p.width w.context.options) h hMarkers
  have hLayout := (hTexts.indented (p.width w.context.options)).map
    (Listing.separator p.items).intercalate
  rw [render, Render.context_bind_apply, p.markers?_eq]
  dsimp only
  rw [Listing.layout, hCount, if_pos (p.fits_markers w.context.options)]
  exact hLayout w

end MarkdownLists
