import MarkdownLists.Indentation
import MarkdownLists.Listing.Tightness
import MarkdownLists.Text.Region

/-! # Layout of a list

Given the markers and an action for the body of each item, the layout runs the actions in order, in a scope
as wide as the first marker and a space, and puts each marker before the text that its action gives.
-/

namespace MarkdownLists.Listing
set_option autoImplicit false

inductive Markers
  | repeated (marker : Text)
  | perItem (markers : List Text)
  deriving DecidableEq, Repr

namespace Markers

def first : Markers → Text
  | repeated m => m
  | perItem ms => ms.headD []

/-- Whether there is a marker for each of `count` items. -/
def fits (count : Nat) : Markers → Bool
  | repeated _ => true
  | perItem ms => ms.length = count

def forItems (count : Nat) : Markers → List Text
  | repeated m => List.replicate count m
  | perItem ms => ms

theorem length_forItems {count : Nat} {m : Markers} (h : m.fits count = true) :
    (m.forItems count).length = count := by
  cases m with
  | repeated m => simp [forItems]
  | perItem ms => simpa [fits, forItems] using h

end Markers

variable {ω ε : Type}

def itemText (width : Nat) (marker body : Text) : Text :=
  ((Region.ofText body).markFirst marker width).text

def itemTexts (width : Nat) : List (Text × Render ω ε Text) → Render ω ε (List Text)
  | [] => pure []
  | (marker, body) :: rest => do
    let text := itemText width marker (← body)
    let texts ← itemTexts width rest
    return text :: texts

def layout (separator : Text) (markers : Markers) (bodies : List (Render ω ε Text)) :
    Render ω ε Text := do
  if markers.fits bodies.length then
    let width := markers.first.length + 1
    let texts ← Render.indented width
      (itemTexts width ((markers.forItems bodies.length).zip bodies))
    return separator.intercalate texts
  else Render.panic .markerCount

end MarkdownLists.Listing
