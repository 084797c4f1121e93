import MarkdownLists.Listing.Placement

/-! # Alternation along a run

A list that directly follows another one of its family stands one further in their run, so the two get
different markers.
-/

namespace MarkdownLists.Placement
set_option autoImplicit false

variable {before : List Block} {kind kind' : ListKind} {items items' : List (List Block)}

theorem isListLike_congr (h : kind.sameFamily kind' = true) (b : Block) :
    b.isListLike kind = b.isListLike kind' := by
  cases b with
  | list k items =>
    rw [Block.isListLike, Block.isListLike, ListKind.sameFamily_comm k, ListKind.sameFamily_comm k,
      ListKind.sameFamily_trans h]
  | _ => rfl

theorem runPosition_next (h : kind.sameFamily kind' = true) :
    runPosition ⟨.list kind items :: before, kind', items'⟩ = runPosition ⟨before, kind, items⟩ + 1 := by
  have hLike : Block.isListLike kind' = Block.isListLike kind :=
    funext fun b => (isListLike_congr h b).symm
  simp [runPosition, hLike, Block.isListLike]

theorem runPosition_of_not_sameFamily (h : kind.sameFamily kind' = false) :
    runPosition ⟨.list kind items :: before, kind', items'⟩ = 1 := by
  simp [runPosition, Block.isListLike, h]

theorem resolve_next {α : Type} {p q : Placement} (h : q.runPosition = p.runPosition + 1)
    {primary secondary : α} (hDifferent : primary ≠ secondary) :
    q.resolve primary secondary ≠ p.resolve primary secondary := by
  unfold resolve
  rw [h]
  by_cases hOdd : p.runPosition % 2 = 1
  · rw [if_neg (by omega), if_pos hOdd]
    exact hDifferent.symm
  · rw [if_pos (by omega), if_neg hOdd]
    exact hDifferent

end MarkdownLists.Placement
