import MarkdownLists.Proofs.Listing.Alternation
import MarkdownLists.Proofs.Listing.Layout
import Mathlib.Data.List.Forall2

/-! # Heads of items

What a reader sees where an item begins: a bullet, or a number and a suffix. Every marker that a list is
written with shows the head that the list is meant to have there, and neighbouring lists never show heads
with the same bullet or suffix.
-/

namespace MarkdownLists
set_option autoImplicit false

theorem OrderedMarker.char_inj {m n : OrderedMarker} : m.char = n.char ↔ m = n := by
  cases m <;> cases n <;> decide

theorem Bullet.char_inj {b c : Bullet} : b.char = c.char ↔ b = c := by
  cases b <;> cases c <;> decide

theorem Bullet.char_ne (b : Bullet) (m : OrderedMarker) : b.char ≠ m.char := by
  cases b <;> cases m <;> decide

namespace Listing

inductive Head
  | bullet (b : Bullet)
  | ordered (number : Nat) (suffix : OrderedMarker)
  deriving DecidableEq, Repr

namespace Head

def endsMarker : Text → Bool
  | [] => true
  | c :: _ => c = ' '

/-- Reads a bullet, or digits and a suffix, followed by a space or the end of the line. -/
def read? (line : Text) : Option Head :=
  let digits := line.takeWhile Char.isDigit
  match line.dropWhile Char.isDigit with
  | [] => none
  | c :: rest =>
    if !endsMarker rest then none
    else if digits.isEmpty then (Bullet.ofText? [c]).map bullet
    else (OrderedMarker.ofText? [c]).map (ordered (Nat.ofDigitChars 10 digits 0))

/-- Whether a reader takes two neighbouring items as items of one list. -/
def sameMarker : Head → Head → Bool
  | bullet b, bullet c => b = c
  | ordered _ s, ordered _ t => s = t
  | _, _ => false

/-- The character that tells the markers of neighbouring lists apart. -/
def char : Head → Char
  | bullet b => b.char
  | ordered _ suffix => suffix.char

theorem char_ne_of_sameMarker {a b : Head} (h : a.sameMarker b = false) : a.char ≠ b.char := by
  cases a with
  | bullet m =>
    cases b with
    | bullet n => exact mt Bullet.char_inj.mp (of_decide_eq_false h)
    | ordered _ suffix => exact m.char_ne suffix
  | ordered _ suffix =>
    cases b with
    | bullet n => exact (n.char_ne suffix).symm
    | ordered _ suffix' => exact mt OrderedMarker.char_inj.mp (of_decide_eq_false h)

/-- Whether the marker shows the head. -/
def ShownBy (marker : Text) : Head → Prop
  | bullet b => marker = b.text
  | ordered n suffix => ∃ digits : Text, digits ≠ [] ∧ (∀ c ∈ digits, c.isDigit = true) ∧
      Nat.ofDigitChars 10 digits 0 = n ∧ marker = digits ++ suffix.text

theorem ShownBy.read? {marker rest : Text} {h : Head} (hShown : h.ShownBy marker)
    (hEnds : endsMarker rest = true) : read? (marker ++ rest) = some h := by
  cases h with
  | bullet b =>
    rw [show marker = b.text from hShown]
    cases b <;> simp [Head.read?, Bullet.text, Bullet.char, hEnds, Bullet.ofText?, Char.isDigit]
  | ordered n suffix =>
    obtain ⟨digits, hDigits, hAll, rfl, rfl⟩ := hShown
    have hSuffix : suffix.char.isDigit = false := by cases suffix <;> rfl
    have hSuffix? := OrderedMarker.ofText?_text suffix
    simp_all [Head.read?, OrderedMarker.text, List.takeWhile_append_of_pos,
      List.dropWhile_append_of_pos]

theorem ShownBy.cons {marker : Text} {h : Head} (hShown : h.ShownBy marker) :
    ∃ c rest, marker = c :: rest ∧ c ≠ ' ' := by
  cases h with
  | bullet b =>
    refine ⟨b.char, [], hShown, ?_⟩
    cases b <;> decide
  | ordered n suffix =>
    obtain ⟨digits, hDigits, hAll, -, rfl⟩ := hShown
    obtain ⟨c, rest, rfl⟩ := List.exists_cons_of_ne_nil hDigits
    refine ⟨c, rest ++ suffix.text, rfl, ?_⟩
    rintro rfl
    exact absurd (hAll ' ' List.mem_cons_self) (by decide)

theorem ShownBy.getLast? {marker : Text} {h : Head} (hShown : h.ShownBy marker) :
    marker.getLast? = some h.char := by
  cases h with
  | bullet b =>
    rw [show marker = b.text from hShown]
    rfl
  | ordered n suffix =>
    obtain ⟨digits, -, -, -, rfl⟩ := hShown
    exact List.getLast?_concat

theorem ShownBy.newline_not_mem {marker : Text} {h : Head} (hShown : h.ShownBy marker) :
    '\n' ∉ marker := by
  cases h with
  | bullet b =>
    rw [show marker = b.text from hShown]
    cases b <;> decide
  | ordered n suffix =>
    obtain ⟨digits, -, hAll, -, rfl⟩ := hShown
    intro hMem
    rcases List.mem_append.mp hMem with hMem | hMem
    · exact absurd (hAll _ hMem) (by decide)
    · cases suffix <;> exact absurd hMem (by decide)

end Head

end Listing

namespace Placement

open Listing

def heads (p : Placement) (o : Options) : List Head :=
  match p.kind with
  | .bullet => List.replicate p.items.length (.bullet (p.bullet o))
  | .ordered start =>
    (Numbering.numbers (start.getD 1).toNat p.items.length o.number).map (.ordered · (p.suffix o))

@[simp] theorem length_heads (p : Placement) (o : Options) : (p.heads o).length = p.items.length := by
  unfold heads
  split <;> simp

theorem heads_ne_nil {p : Placement} {o : Options} (h : p.items ≠ []) : p.heads o ≠ [] := by
  rw [← List.length_pos_iff, length_heads]
  exact List.length_pos_iff.mpr h

theorem shownBy_heads (p : Placement) (o : Options) :
    List.Forall₂ Head.ShownBy (p.itemMarkers o) (p.heads o) := by
  obtain ⟨before, kind, items⟩ := p
  cases kind with
  | bullet =>
    have hSame (b : Bullet) (n : Nat) : List.Forall₂ Head.ShownBy (List.replicate n b.text)
        (List.replicate n (.bullet b)) := by
      induction n with
      | zero => exact .nil
      | succ n ih => exact .cons rfl ih
    exact hSame _ items.length
  | ordered start =>
    change List.Forall₂ Head.ShownBy (List.map _ _) (List.map _ _)
    rw [List.forall₂_map_left_iff, List.forall₂_map_right_iff, List.forall₂_same]
    intro n hn
    exact ⟨_, Numbering.padded_ne_nil _ n, fun _ => Numbering.isDigit_of_mem_padded,
      Numbering.ofDigitChars_padded _ n, rfl⟩

theorem exists_mem_heads {p : Placement} {o : Options} {marker : Text} (h : marker ∈ p.itemMarkers o) :
    ∃ head ∈ p.heads o, head.ShownBy marker := by
  obtain ⟨i, hi, rfl⟩ := List.getElem_of_mem h
  have hHead : i < (p.heads o).length := by simpa using hi
  exact ⟨_, List.getElem_mem hHead, (p.shownBy_heads o).get hi hHead⟩

theorem exists_shownBy {p : Placement} {o : Options} {marker : Text} (h : marker ∈ p.itemMarkers o) :
    ∃ head : Head, head.ShownBy marker := by
  obtain ⟨head, -, hShown⟩ := exists_mem_heads h
  exact ⟨head, hShown⟩

theorem ne_nil_of_mem_itemMarkers {p : Placement} {o : Options} {marker : Text}
    (h : marker ∈ p.itemMarkers o) : marker ≠ [] := by
  obtain ⟨head, hHead⟩ := exists_shownBy h
  obtain ⟨c, rest, rfl, -⟩ := hHead.cons
  exact List.cons_ne_nil c rest

theorem newline_not_mem_of_mem_itemMarkers {p : Placement} {o : Options} {marker : Text}
    (h : marker ∈ p.itemMarkers o) : '\n' ∉ marker := by
  obtain ⟨head, hHead⟩ := exists_shownBy h
  exact hHead.newline_not_mem

theorem sameMarker_of_mem_heads {p : Placement} {o : Options} {a b : Head} (ha : a ∈ p.heads o)
    (hb : b ∈ p.heads o) : a.sameMarker b = true := by
  obtain ⟨before, kind, items⟩ := p
  cases kind with
  | bullet =>
    rw [List.eq_of_mem_replicate ha, List.eq_of_mem_replicate hb]
    exact decide_eq_true rfl
  | ordered start =>
    obtain ⟨m, -, rfl⟩ := List.mem_map.mp ha
    obtain ⟨n, -, rfl⟩ := List.mem_map.mp hb
    exact decide_eq_true rfl

/-- A list and the one directly after it never show heads with the same marker. -/
theorem sameMarker_next {before : List Block} {kind kind' : ListKind} {items items' : List (List Block)}
    {o : Options} {a b : Head} (ha : a ∈ heads ⟨before, kind, items⟩ o)
    (hb : b ∈ heads ⟨.list kind items :: before, kind', items'⟩ o) : a.sameMarker b = false := by
  cases kind with
  | bullet =>
    rw [List.eq_of_mem_replicate ha]
    cases kind' with
    | bullet =>
      rw [List.eq_of_mem_replicate hb]
      exact decide_eq_false
        (resolve_next (runPosition_next rfl) (Bullet.alternate_ne o.bullet).symm).symm
    | ordered start' =>
      obtain ⟨n, -, rfl⟩ := List.mem_map.mp hb
      rfl
  | ordered start =>
    obtain ⟨m, -, rfl⟩ := List.mem_map.mp ha
    cases kind' with
    | bullet =>
      rw [List.eq_of_mem_replicate hb]
      rfl
    | ordered start' =>
      obtain ⟨n, -, rfl⟩ := List.mem_map.mp hb
      exact decide_eq_false
        (resolve_next (runPosition_next rfl) (OrderedMarker.alternate_ne o.orderedMarker).symm).symm

end Placement

end MarkdownLists
