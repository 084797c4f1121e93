import MarkdownLists.Proofs.Listing.Heads
import Mathlib.Data.List.TakeWhile

/-! # Runs among siblings

A run begins at a list that no list of its family directly precedes. The position of a list is counted from there,
so nothing before the run shows in its marker, and of the lists in the run only their number.
-/

namespace MarkdownLists
set_option autoImplicit false

namespace Block

/-- Whether the second block, directly after the first, goes on with the run that the first one is in. -/
def joins : Block → Block → Bool
  | .list kind _, .list kind' _ => kind.sameFamily kind'
  | _, _ => false

/-- Both are lists of one family, or neither is a list. -/
def AlikeInFamily (a b : Block) : Prop := ∀ kind, a.isListLike kind = b.isListLike kind

theorem joins_of_isListLike {a b : Block} {kind : ListKind} (ha : a.isListLike kind = true)
    (hb : b.isListLike kind = true) : a.joins b = true := by
  cases a with
  | list k items =>
    cases b with
    | list l items' =>
      rw [isListLike, ListKind.sameFamily_comm] at hb
      rw [joins, ListKind.sameFamily_trans ha, hb]
    | _ => cases hb
  | _ => cases ha

theorem takeWhile_isListLike_eq_nil {blocks : List Block} {kind : ListKind}
    (h : ∀ b ∈ blocks.head?, b.isListLike kind = false) : blocks.takeWhile (isListLike kind) = [] := by
  cases blocks with
  | nil => rfl
  | cons b rest =>
    have hStops : b.isListLike kind = false := h b rfl
    rw [List.takeWhile_cons_of_neg (by simp [hStops])]

end Block

namespace Placement

open Listing

variable {siblings : List Block} {index first : Nat} {p : Placement}

theorem at?_eq_some_iff : at? siblings index = some p ↔
    siblings[index]? = some (.list p.kind p.items) ∧ p.before = (siblings.take index).reverse := by
  obtain ⟨before, kind, items⟩ := p
  unfold at?
  constructor
  · intro h
    split at h
    · rename_i hList
      cases h
      exact ⟨hList, rfl⟩
    · cases h
  · rintro ⟨hList, hBefore⟩
    dsimp only at hList hBefore
    rw [hList, hBefore]

/-- The list directly before in the same run. -/
def predecessor? (p : Placement) : Option Placement := p.previous?.filter (·.kind.sameFamily p.kind)

theorem previous?_zero (h : at? siblings 0 = some p) : p.previous? = none := by
  have hBefore : p.before = [] := (at?_eq_some_iff.mp h).2
  rw [previous?, hBefore]

theorem previous?_succ (h : at? siblings (index + 1) = some p) : p.previous? = at? siblings index := by
  obtain ⟨hList, hBefore⟩ := at?_eq_some_iff.mp h
  have hIndex : index < siblings.length := Nat.lt_of_succ_lt (List.getElem?_eq_some_iff.mp hList).1
  rw [List.take_succ_eq_append_getElem hIndex, List.reverse_append] at hBefore
  rw [previous?, hBefore, at?, List.getElem?_eq_getElem hIndex]
  cases siblings[index] <;> rfl

theorem predecessor?_eq_some_iff {q : Placement} : p.predecessor? = some q ↔
    p.before = .list q.kind q.items :: q.before ∧ q.kind.sameFamily p.kind = true := by
  rw [predecessor?, Option.filter_eq_some_iff]
  apply and_congr_left
  intro _
  obtain ⟨before, kind, items⟩ := p
  obtain ⟨before', kind', items'⟩ := q
  cases before with
  | nil => simp [previous?]
  | cons b rest => cases b <;> grind [previous?]

theorem runPosition_of_predecessor? {q : Placement} (h : p.predecessor? = some q) :
    p.runPosition = q.runPosition + 1 := by
  obtain ⟨hBefore, hFamily⟩ := predecessor?_eq_some_iff.mp h
  obtain ⟨before, kind, items⟩ := p
  dsimp only at hBefore
  rw [hBefore]
  exact runPosition_next hFamily

theorem runPosition_of_predecessor?_eq_none (h : p.predecessor? = none) : p.runPosition = 1 := by
  obtain ⟨before, kind, items⟩ := p
  cases before with
  | nil => rfl
  | cons b rest =>
    cases b with
    | list kind' items' =>
      have hFamily : kind'.sameFamily kind = false := by simpa [predecessor?, previous?] using h
      exact runPosition_of_not_sameFamily hFamily
    | _ => rfl

/-! ## The whole run -/

/-- The siblings from `first` up to `index` are lists like `kind`, and the one before them is not. -/
structure IsRun (siblings : List Block) (kind : ListKind) (first index : Nat) : Prop where
  le : first ≤ index
  alike : ∀ b ∈ (siblings.take index).drop first, b.isListLike kind = true
  starts : ∀ b ∈ (siblings.take first).getLast?, b.isListLike kind = false

theorem exists_isRun (siblings : List Block) (kind : ListKind) {index : Nat}
    (h : index ≤ siblings.length) : ∃ first, IsRun siblings kind first index := by
  induction index with
  | zero => exact ⟨0, Nat.le_refl 0, by simp, by simp⟩
  | succ index ih =>
    obtain ⟨first, hRun⟩ := ih (Nat.le_of_succ_le h)
    have hTake := List.take_succ_eq_append_getElem h
    -- The sibling at `index` goes on with the run that ends before it, or the next run can begin after it.
    by_cases hAlike : siblings[index].isListLike kind = true
    · refine ⟨first, Nat.le_succ_of_le hRun.le, ?_, hRun.starts⟩
      intro b hb
      have hReaches : first ≤ (siblings.take index).length := by
        rw [List.length_take_of_le (Nat.le_of_succ_le h)]
        exact hRun.le
      rw [hTake, List.drop_append_of_le_length hReaches] at hb
      rcases List.mem_append.mp hb with hb | hb
      · exact hRun.alike b hb
      · rw [List.mem_singleton.mp hb]
        exact hAlike
    · refine ⟨index + 1, Nat.le_refl _, by simp, ?_⟩
      intro b hb
      rw [hTake, List.getLast?_concat, Option.mem_some] at hb
      rw [← hb]
      exact Bool.not_eq_true _ ▸ hAlike

theorem takeWhile_before (h : at? siblings index = some p) (hRun : IsRun siblings p.kind first index) :
    p.before.takeWhile (Block.isListLike p.kind) = ((siblings.take index).drop first).reverse := by
  have hParts : p.before = ((siblings.take index).drop first).reverse ++ (siblings.take first).reverse := by
    rw [(at?_eq_some_iff.mp h).2, ← List.reverse_append, ← Nat.min_eq_left hRun.le, ← List.take_take,
      Nat.min_eq_left hRun.le, List.take_append_drop]
  have hStops : (siblings.take first).reverse.takeWhile (Block.isListLike p.kind) = [] :=
    Block.takeWhile_isListLike_eq_nil fun b hb => hRun.starts b (List.head?_reverse ▸ hb)
  rw [hParts, List.takeWhile_append_of_pos, hStops, List.append_nil]
  exact fun b hb => hRun.alike b (List.mem_reverse.mp hb)

theorem runPosition_of_isRun (h : at? siblings index = some p) (hRun : IsRun siblings p.kind first index) :
    p.runPosition = index - first + 1 := by
  have hIndex := (List.getElem?_eq_some_iff.mp (at?_eq_some_iff.mp h).1).1
  rw [runPosition, takeWhile_before h hRun, List.length_reverse, List.length_drop, List.length_take]
  omega

/-- Nothing beyond a place where two siblings belong to different runs shows in the position. -/
theorem runPosition_append {before outer : List Block} {kind : ListKind} {items : List (List Block)}
    (h : ∀ a ∈ outer.head?, ∀ b ∈ (.list kind items :: before).getLast?, a.joins b = false) :
    runPosition ⟨before ++ outer, kind, items⟩ = runPosition ⟨before, kind, items⟩ := by
  rw [runPosition, runPosition, List.takeWhile_append]
  dsimp only
  split
  · -- The walk back passes all of `before`, so the last of it is in the run and ends it.
    rename_i hLength
    have hWhole := (List.takeWhile_prefix (Block.isListLike kind)).eq_of_length hLength
    have hAlike : ∀ b ∈ Block.list kind items :: before, b.isListLike kind = true := by
      intro b hb
      rcases List.mem_cons.mp hb with rfl | hb
      · exact ListKind.sameFamily_self kind
      · exact List.takeWhile_eq_self_iff.mp hWhole b hb
    have hStops : ∀ a ∈ outer.head?, a.isListLike kind = false := by
      intro a ha
      have hLast := List.getLast?_eq_some_getLast (List.cons_ne_nil (Block.list kind items) before)
      have hApart := h a ha _ hLast
      rw [← Bool.not_eq_true] at hApart ⊢
      intro hKind
      exact hApart (Block.joins_of_isListLike hKind (hAlike _ (List.mem_of_getLast? hLast)))
    rw [Block.takeWhile_isListLike_eq_nil hStops, List.append_nil, hWhole]
  · rfl

/-! ## The markers along a run -/

theorem resolve_congr {q : Placement} (h : p.runPosition = q.runPosition) {α : Type}
    (primary secondary : α) : p.resolve primary secondary = q.resolve primary secondary := by
  rw [resolve, h, resolve]

theorem markers_congr {q : Placement} (hPosition : p.runPosition = q.runPosition) (hKind : p.kind = q.kind)
    (hLength : p.items.length = q.items.length) (o : Options) : p.markers o = q.markers o := by
  have hBullet : p.bullet o = q.bullet o := resolve_congr hPosition _ _
  have hSuffix : p.suffix o = q.suffix o := resolve_congr hPosition _ _
  rw [markers, markers, hKind, hLength, hBullet, hSuffix]

theorem text_congr {q : Placement} (hPosition : p.runPosition = q.runPosition) (hKind : p.kind = q.kind)
    (hLength : p.items.length = q.items.length) (hSeparator : separator p.items = separator q.items)
    (o : Options) (bodies : List Text) : p.text o bodies = q.text o bodies := by
  have hMarkers := markers_congr hPosition hKind hLength o
  rw [text, text, itemTexts, itemTexts, itemMarkers, itemMarkers, width, width, hMarkers, hLength, hSeparator]

theorem resolve_of_predecessor?_eq_none (h : p.predecessor? = none) {α : Type} (primary secondary : α) :
    p.resolve primary secondary = primary := by
  rw [resolve, runPosition_of_predecessor?_eq_none h]
  rfl

theorem markers_of_predecessor? {q : Placement} (h : p.predecessor? = some q) (o : Options) :
    p.bullet o ≠ q.bullet o ∧ p.suffix o ≠ q.suffix o := by
  have hNext := runPosition_of_predecessor? h
  exact ⟨resolve_next hNext (Bullet.alternate_ne o.bullet).symm,
    resolve_next hNext (OrderedMarker.alternate_ne o.orderedMarker).symm⟩

theorem getLast?_ne_of_predecessor? {q : Placement} (h : p.predecessor? = some q) {o : Options}
    {marker marker' : Text} (hMarker : marker ∈ p.itemMarkers o) (hMarker' : marker' ∈ q.itemMarkers o) :
    marker.getLast? ≠ marker'.getLast? := by
  obtain ⟨hBefore, -⟩ := predecessor?_eq_some_iff.mp h
  obtain ⟨before, kind, items⟩ := p
  obtain ⟨before', kind', items'⟩ := q
  dsimp only at hBefore
  subst hBefore
  obtain ⟨head, hHead, hShown⟩ := exists_mem_heads hMarker
  obtain ⟨head', hHead', hShown'⟩ := exists_mem_heads hMarker'
  rw [hShown.getLast?, hShown'.getLast?, Ne, Option.some.injEq]
  exact (Head.char_ne_of_sameMarker (sameMarker_next hHead' hHead)).symm

/-- The position of a list counts the lists of its family that directly precede it, and with the position the
marker alternates. Two lists with runs before them that agree in family get the same marker. -/
theorem alternates {kind : ListKind} {items : List (List Block)}
    (h : siblings[index]? = some (.list kind items)) {α : Type} (primary secondary : α) :
    ∃ p, at? siblings index = some p ∧ p.kind = kind ∧
      (p.previous? = match index with
        | 0 => none
        | i + 1 => at? siblings i) ∧
      (match p.predecessor? with
        | none => p.runPosition = 1 ∧ p.resolve primary secondary = primary
        | some q => p.runPosition = q.runPosition + 1 ∧
          (primary ≠ secondary → p.resolve primary secondary ≠ q.resolve primary secondary) ∧
          ∀ o : Options, (p.bullet o ≠ q.bullet o ∧ p.suffix o ≠ q.suffix o) ∧
            ∀ marker ∈ p.itemMarkers o, ∀ marker' ∈ q.itemMarkers o,
              marker.getLast? ≠ marker'.getLast?) ∧
      ∃ first, IsRun siblings kind first index ∧ p.runPosition = index - first + 1 ∧
        ∀ (siblings' : List Block) (index' first' : Nat) (q : Placement),
          at? siblings' index' = some q → IsRun siblings' q.kind first' index' →
          List.Forall₂ Block.AlikeInFamily ((siblings.take index).drop first)
            ((siblings'.take index').drop first') →
          p.resolve primary secondary = q.resolve primary secondary := by
  let p : Placement := ⟨(siblings.take index).reverse, kind, items⟩
  have hPlace : at? siblings index = some p := at?_eq_some_iff.mpr ⟨h, rfl⟩
  refine ⟨p, hPlace, rfl, ?_, ?_, ?_⟩
  · cases index with
    | zero => exact previous?_zero hPlace
    | succ index => exact previous?_succ hPlace
  · cases hBefore : p.predecessor? with
    | none =>
      exact ⟨runPosition_of_predecessor?_eq_none hBefore,
        resolve_of_predecessor?_eq_none hBefore primary secondary⟩
    | some q =>
      have hNext := runPosition_of_predecessor? hBefore
      refine ⟨hNext, resolve_next hNext, fun o => ⟨markers_of_predecessor? hBefore o, ?_⟩⟩
      intro marker hMarker marker' hMarker'
      exact getLast?_ne_of_predecessor? hBefore hMarker hMarker'
  · have hIndex := (List.getElem?_eq_some_iff.mp h).1
    obtain ⟨first, hRun⟩ := exists_isRun siblings kind (Nat.le_of_lt hIndex)
    refine ⟨first, hRun, runPosition_of_isRun hPlace hRun, ?_⟩
    intro siblings' index' first' q hPlace' hRun' hAlike
    apply resolve_congr
    rw [runPosition, runPosition, takeWhile_before hPlace hRun, takeWhile_before hPlace' hRun',
      List.length_reverse, List.length_reverse, hAlike.length_eq]

def numberedPair : List Block :=
  [.list .bullet [[]], .list (.ordered none) [[.rule]], .list (.ordered (some 4)) [[], [.rule]]]

theorem alternates_numberedPair :
    numberedPair[2]? = some (.list (.ordered (some 4)) [[], [.rule]]) ∧
      ∃ p q : Placement, at? numberedPair 2 = some p ∧ p.previous? = some q ∧
        p.runPosition = q.runPosition + 1 ∧ p.resolve 'a' 'b' ≠ q.resolve 'a' 'b' ∧
        ∃ first, IsRun numberedPair p.kind first 2 ∧ p.runPosition = 2 - first + 1 := by
  have hList : numberedPair[2]? = some (.list (.ordered (some 4)) [[], [.rule]]) := rfl
  obtain ⟨p, hPlace, -, -, hMarkers, first, hRun, hPosition, -⟩ := alternates hList 'a' 'b'
  have hPlain : p = ⟨(numberedPair.take 2).reverse, .ordered (some 4), [[], [.rule]]⟩ :=
    (Option.some.inj hPlace).symm
  subst hPlain
  obtain ⟨hNext, hResolve, -⟩ := hMarkers
  exact ⟨hList, _, _, hPlace, rfl, hNext, hResolve (by decide), first, hRun, hPosition⟩

end Placement

end MarkdownLists
