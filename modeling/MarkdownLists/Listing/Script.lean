import MarkdownLists.Listing.Placement

/-! # Scripts of list renders

A script says what the body of each item does: give a text, fail, or render a further list. Each body first
logs the indentation and the depth that it reads. A body that is not given is the empty text.
-/

namespace MarkdownLists.Listing
set_option autoImplicit false

inductive Body
  | text (value : Text)
  | error (reason : Text)
  | panic
  | nested (items : List (List Block)) (markers : Markers) (bodies : List Body)

/-- The counters that a body read: the indentation and the depth. -/
abbrev Call := UInt64 × UInt64

def call : Render Call Text Unit := do
  let c ← Render.context
  Render.emit c.counters

/-- One action for each of `count` items; those without a body of their own give the empty text. -/
def fill (count : Nat) (actions : List (Render Call Text Text)) : List (Render Call Text Text) :=
  (actions ++ List.replicate count (do call; return [])).take count

mutual
def Body.action : Body → Render Call Text Text
  | .text value => do
    call
    return value
  | .error reason => do
    call
    Render.fail reason
  | .panic => do
    call
    Render.panic .requested
  | .nested items markers bodies => do
    call
    layout (separator items) markers (fill items.length (Body.actions bodies))

def Body.actions : List Body → List (Render Call Text Text)
  | [] => []
  | b :: rest => b.action :: Body.actions rest
end

def runScript (items : List (List Block)) (markers : Markers) (bodies : List Body) :
    Render Call Text Text :=
  layout (separator items) markers (fill items.length (Body.actions bodies))

@[simp] theorem length_fill (count : Nat) (actions : List (Render Call Text Text)) :
    (fill count actions).length = count := by simp [fill]

end MarkdownLists.Listing
