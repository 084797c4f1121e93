import MarkdownLists.Options
import MarkdownLists.Document

/-! # Ordered markers

An ordered list is numbered either by its start and then `1` for each later item, or consecutively. All
markers of a list are equally wide: shorter numbers get zeros in front, so that the texts of the items
line up. Numbers stay at the greatest 64-bit number once they reach it.
-/

namespace MarkdownLists.Numbering
set_option autoImplicit false

def greatest : Nat := UInt64.size - 1

def decimal (n : Nat) : Text := Nat.toDigits 10 n

/-- The decimal digits of `n`, with zeros in front up to `width` digits. -/
def padded (width n : Nat) : Text :=
  List.replicate (width - (decimal n).length) '0' ++ decimal n

def consecutive (start i : Nat) : Nat := min (start + i) greatest

def numbers (start count : Nat) (number : Bool) : List Nat :=
  if number then (List.range count).map (consecutive start)
  else match count with
    | 0 => []
    | n + 1 => start :: List.replicate n 1

def width (start count : Nat) (number : Bool) : Nat :=
  (decimal (if number then consecutive start (count - 1) else start)).length

def markers (start count : Nat) (suffix : OrderedMarker) (number : Bool) : List Text :=
  (numbers start count number).map fun n => padded (width start count number) n ++ suffix.text

/-- The markers of a list of some kind; bullet lists have none. -/
def markersFor? (kind : ListKind) (count : Nat) (suffix : OrderedMarker) (number : Bool) :
    Option (List Text) :=
  match kind with
  | .bullet => none
  | .ordered start => some (markers (start.getD 1).toNat count suffix number)

@[simp] theorem length_numbers (start count : Nat) (number : Bool) :
    (numbers start count number).length = count := by
  cases number <;> cases count <;> simp [numbers]

@[simp] theorem length_markers (start count : Nat) (suffix : OrderedMarker) (number : Bool) :
    (markers start count suffix number).length = count := by simp [markers]

end MarkdownLists.Numbering
