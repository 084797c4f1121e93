import Mathlib.Data.List.Chain
import MarkdownLists.Document

/-! # Documents in normal form

A stream of events has no tags for a hidden paragraph, so an empty one leaves no trace in it and two
neighbouring ones cannot be told apart. A document is in normal form if it has neither, and if each of its
ordered lists carries the number that it starts with.
-/

namespace MarkdownLists
set_option autoImplicit false

def ListKind.isNormal : ListKind → Bool
  | bullet => true
  | ordered start => start.isSome

namespace Block

def isHidden : Block → Bool
  | paragraph hidden _ => hidden
  | _ => false

/-- Whether two neighbours stay apart in a stream of events. -/
def isApart (b c : Block) : Bool := !(b.isHidden && c.isHidden)

mutual
def isNormal : Block → Bool
  | .paragraph hidden content => !(hidden && content.isEmpty)
  | .quote children => isNormalAll children
  | .list kind items => kind.isNormal && isNormalItems items
  | _ => true

def isNormalAll : List Block → Bool
  | [] => true
  | b :: rest => b.isNormal && rest.head?.all b.isApart && isNormalAll rest

def isNormalItems : List (List Block) → Bool
  | [] => true
  | children :: rest => isNormalAll children && isNormalItems rest
end

theorem isNormalAll_cons_iff {b : Block} {rest : List Block} : isNormalAll (b :: rest) = true ↔
    b.isNormal = true ∧ (∀ c ∈ rest.head?, b.isApart c = true) ∧ isNormalAll rest = true := by
  rw [isNormalAll, Bool.and_eq_true, Bool.and_eq_true, Option.all_eq_true, and_assoc]
  rfl

theorem isNormalAll_iff {bs : List Block} : isNormalAll bs = true ↔
    (∀ b ∈ bs, b.isNormal = true) ∧ bs.IsChain fun b c => b.isApart c = true := by
  induction bs with
  | nil => simp [isNormalAll]
  | cons b rest ih =>
    rw [isNormalAll_cons_iff, ih, List.forall_mem_cons, List.isChain_cons]
    constructor
    · rintro ⟨hFirst, hApart, hNormal, hChain⟩
      exact ⟨⟨hFirst, hNormal⟩, hApart, hChain⟩
    · rintro ⟨⟨hFirst, hNormal⟩, hApart, hChain⟩
      exact ⟨hFirst, hApart, hNormal, hChain⟩

theorem isNormalAll_concat_iff {front : List Block} {b : Block} : isNormalAll (front ++ [b]) = true ↔
    isNormalAll front = true ∧ b.isNormal = true ∧ ∀ c ∈ front.getLast?, c.isApart b = true := by
  rw [isNormalAll_iff, isNormalAll_iff, List.isChain_append, List.forall_mem_append]
  simp only [List.forall_mem_singleton, List.isChain_singleton, List.head?_cons, true_and,
    Option.mem_some_iff, forall_eq']
  constructor
  · rintro ⟨⟨hFront, hLast⟩, hChain, hApart⟩
    exact ⟨⟨hFront, hChain⟩, hLast, hApart⟩
  · rintro ⟨⟨hFront, hChain⟩, hLast, hApart⟩
    exact ⟨⟨hFront, hLast⟩, hChain, hApart⟩

theorem isNormalItems_eq_all (items : List (List Block)) :
    isNormalItems items = items.all isNormalAll := by
  induction items with
  | nil => rfl
  | cons children rest ih => rw [isNormalItems, ih, List.all_cons]

end Block

end MarkdownLists
