import Mathlib.Order.Bounds.Basic
import MarkdownLists.Proofs.Text.Backtick

/-! # The shortest fence

A fence is made of at least as many backticks as asked for, and of more than stand in a row anywhere in what it
encloses. It cannot occur there, then, and the one that is written is the shortest.
-/

namespace MarkdownLists.Writer
set_option autoImplicit false

structure IsFence (least : Nat) (content t : Text) : Prop where
  backticks : ∀ c ∈ t, c = backtick
  least_le : least ≤ t.length
  longer : ∀ k, List.replicate k backtick <:+: content → k < t.length

variable {least : Nat} {content t : Text}

theorem IsFence.eq_replicate (h : IsFence least content t) : t = List.replicate t.length backtick :=
  List.eq_replicate_of_mem h.backticks

theorem IsFence.not_infix (h : IsFence least content t) : ¬ t <:+: content := by
  intro hInfix
  rw [h.eq_replicate] at hInfix
  exact Nat.lt_irrefl _ (h.longer t.length hInfix)

theorem isGreatest_longestBacktickRun (content : Text) :
    IsGreatest {k | List.replicate k backtick <:+: content} content.longestBacktickRun := by
  constructor
  · exact (Text.replicate_infix_iff content _).mpr (Nat.le_refl _)
  · intro k hk
    exact (Text.replicate_infix_iff content k).mp hk

theorem isFence_fence (least : Nat) (content : Text) : IsFence least content (fence least content) where
  backticks _ hc := List.eq_of_mem_replicate hc
  least_le := by
    rw [fence, List.length_replicate]
    exact Nat.le_max_left _ _
  longer k hk := by
    have hRun := (Text.replicate_infix_iff content k).mp hk
    rw [fence, List.length_replicate]
    exact Nat.lt_of_lt_of_le (Nat.lt_succ_of_le hRun) (Nat.le_max_right _ _)

theorem IsFence.length_fence_le (h : IsFence least content t) : (fence least content).length ≤ t.length := by
  have hRun := h.longer _ (isGreatest_longestBacktickRun content).1
  rw [fence, List.length_replicate]
  exact Nat.max_le.mpr ⟨h.least_le, hRun⟩

/-- The counted run is the longest one. The fence that is written does not occur in the content, and every fence around
it is at least as long. -/
theorem fence_shortest (least : Nat) (content : Text) :
    IsGreatest {k | List.replicate k backtick <:+: content} content.longestBacktickRun ∧
      IsFence least content (fence least content) ∧ ¬ fence least content <:+: content ∧
      ∀ t, IsFence least content t → (fence least content).length ≤ t.length := by
  have hFence := isFence_fence least content
  refine ⟨isGreatest_longestBacktickRun content, hFence, hFence.not_infix, ?_⟩
  intro t ht
  exact ht.length_fence_le

example : fence 3 ['a', backtick, backtick, backtick, backtick] =
    [backtick, backtick, backtick, backtick, backtick] := by decide

end MarkdownLists.Writer
