import MarkdownLists.Listing.Numbering

/-! # Widths and values of numbers

A number keeps its value when zeros are put in front of it. No number of a list has more digits than the
list's width, so all its markers are equally wide. What the markers of an ordered list say is put together at
the end.
-/

namespace MarkdownLists.Numbering
set_option autoImplicit false

theorem decimal_ne_nil (n : Nat) : decimal n ≠ [] := Nat.toDigits_ne_nil

theorem isDigit_of_mem_decimal {n : Nat} {c : Char} (h : c ∈ decimal n) : c.isDigit = true :=
  Nat.isDigit_of_mem_toDigits (by decide) (by decide) h

theorem length_decimal_mono {m n : Nat} (h : m ≤ n) : (decimal m).length ≤ (decimal n).length := by
  have hPositive : 0 < (decimal n).length := List.length_pos_iff.mpr (decimal_ne_nil n)
  have hBound : n < 10 ^ (decimal n).length :=
    (Nat.length_toDigits_le_iff (by decide) hPositive).mp (Nat.le_refl _)
  exact (Nat.length_toDigits_le_iff (by decide) hPositive).mpr (Nat.lt_of_le_of_lt h hBound)

/-! ## Padding -/

theorem padded_ne_nil (width n : Nat) : padded width n ≠ [] := by
  simp [padded, decimal_ne_nil]

theorem length_padded {width n : Nat} (h : (decimal n).length ≤ width) :
    (padded width n).length = width := by
  rw [padded, List.length_append, List.length_replicate]
  omega

@[simp] theorem padded_length_decimal (n : Nat) : padded (decimal n).length n = decimal n := by
  rw [padded, Nat.sub_self]
  rfl

theorem isDigit_of_mem_padded {width n : Nat} {c : Char} (h : c ∈ padded width n) :
    c.isDigit = true := by
  rcases List.mem_append.mp h with h | h
  · rw [List.eq_of_mem_replicate h]
    rfl
  · exact isDigit_of_mem_decimal h

@[simp] theorem ofDigitChars_padded (width n : Nat) : Nat.ofDigitChars 10 (padded width n) 0 = n := by
  rw [padded, Nat.ofDigitChars_append, Nat.ofDigitChars_replicate_zero, Nat.mul_zero]
  exact Nat.ofDigitChars_ten_toDigits

/-! ## The numbers of a list -/

theorem consecutive_mono {start i j : Nat} (h : i ≤ j) : consecutive start i ≤ consecutive start j := by
  unfold consecutive
  omega

theorem length_decimal_le_width {start count n : Nat} {number : Bool}
    (h : n ∈ numbers start count number) : (decimal n).length ≤ width start count number := by
  cases number with
  | true =>
    obtain ⟨i, hi, rfl⟩ := List.mem_map.mp h
    have hLast : i ≤ count - 1 := by
      have := List.mem_range.mp hi
      omega
    exact length_decimal_mono (consecutive_mono hLast)
  | false =>
    cases count with
    | zero => simp [numbers] at h
    | succ count =>
      rcases List.mem_cons.mp h with rfl | h
      · exact Nat.le_refl _
      · rw [List.eq_of_mem_replicate h]
        exact List.length_pos_iff.mpr (decimal_ne_nil start)

theorem length_of_mem_markers {start count : Nat} {suffix : OrderedMarker} {number : Bool}
    {marker : Text} (h : marker ∈ markers start count suffix number) :
    marker.length = width start count number + 1 := by
  obtain ⟨n, hn, rfl⟩ := List.mem_map.mp h
  rw [List.length_append, length_padded (length_decimal_le_width hn)]
  rfl

theorem head?_numbers {start count : Nat} (hStart : start ≤ greatest) (hCount : 0 < count)
    (number : Bool) : (numbers start count number).head? = some start := by
  obtain ⟨count, rfl⟩ := Nat.exists_eq_succ_of_ne_zero (Nat.pos_iff_ne_zero.mp hCount)
  cases number with
  | true => simp [numbers, List.range_succ_eq_map, consecutive, hStart]
  | false => rfl

theorem getElem?_numbers {start count i : Nat} {number : Bool} (h : i < count) :
    (numbers start count number)[i]? =
      some (if number then consecutive start i else if i = 0 then start else 1) := by
  cases number with
  | true => simp [numbers, h]
  | false =>
    obtain ⟨count, rfl⟩ := Nat.exists_eq_succ_of_ne_zero (Nat.ne_zero_of_lt h)
    cases i with
    | zero => rfl
    | succ i =>
      have hLater : i < count := Nat.lt_of_succ_lt_succ h
      simp [numbers, hLater]

theorem le_greatest_of_mem_numbers {start count n : Nat} {number : Bool} (hStart : start ≤ greatest)
    (h : n ∈ numbers start count number) : n ≤ greatest := by
  obtain ⟨i, hi, rfl⟩ := List.getElem_of_mem h
  rw [length_numbers] at hi
  have hNumber : (numbers start count number)[i]? = _ := getElem?_numbers hi
  rw [List.getElem?_eq_getElem (by simpa using hi), Option.some.injEq] at hNumber
  rw [hNumber]
  split
  · exact Nat.min_le_right _ _
  · split
    · exact hStart
    · decide

/-! ## The markers of an ordered list -/

/-- An ordered list has a marker for each item, all of them equally wide. Each is some digits and the suffix, and
the digits say the number of the item. Every number fits into 64 bits, and none is wider than the markers. -/
theorem markersFor?_ordered (start : Option UInt64) (count : Nat) (suffix : OrderedMarker)
    (number : Bool) :
    let first := (start.getD 1).toNat
    let last := if number then min (first + (count - 1)) (UInt64.size - 1) else first
    ∃ markers, markersFor? (.ordered start) count suffix number = some markers ∧
      markers.length = count ∧
      (∀ marker ∈ markers, marker.length = (Nat.toDigits 10 last).length + 1) ∧
      (∀ i, ∀ marker ∈ markers[i]?, ∃ digits, marker = digits ++ suffix.text ∧ digits ≠ [] ∧
        (∀ c ∈ digits, c.isDigit = true) ∧
        Nat.ofDigitChars 10 digits 0 =
          (if number then min (first + i) (UInt64.size - 1) else if i = 0 then first else 1) ∧
        (number = false → i = 0 → digits = Nat.toDigits 10 first)) ∧
      ∀ n ∈ numbers first count number, n < UInt64.size ∧ (decimal n).length ≤ width first count number := by
  intro first last
  have hStart : first ≤ greatest := Nat.le_sub_one_of_lt (start.getD 1).toNat_lt
  refine ⟨markers first count suffix number, rfl, length_markers first count suffix number, ?_, ?_, ?_⟩
  · intro marker hMarker
    exact length_of_mem_markers hMarker
  · intro i marker hMarker
    obtain ⟨n, hNumber, rfl⟩ := Option.map_eq_some_iff.mp (List.getElem?_map ▸ hMarker)
    have hCount : i < count := by
      simpa using (List.getElem?_eq_some_iff.mp hNumber).1
    rw [getElem?_numbers hCount, Option.some.injEq] at hNumber
    refine ⟨padded (width first count number) n, rfl, padded_ne_nil _ n,
      fun _ => isDigit_of_mem_padded, ?_, ?_⟩
    · rw [ofDigitChars_padded, ← hNumber]
      rfl
    · rintro rfl rfl
      subst hNumber
      exact padded_length_decimal first
  · intro n hn
    have hFits := le_greatest_of_mem_numbers hStart hn
    exact ⟨Nat.lt_of_le_of_lt hFits (by decide), length_decimal_le_width hn⟩

example : markersFor? (.ordered (some 8)) 3 .paren true =
    some [['0', '8', ')'], ['0', '9', ')'], ['1', '0', ')']] := by decide

end MarkdownLists.Numbering
