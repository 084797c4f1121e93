import MarkdownLists.Listing.Script
import MarkdownLists.Proofs.Runs

/-! # Visits of a script

A walk through a script meets the bodies of each list in order, each before the bodies inside it, and on the
way all that can end a rendering. Rendering a script takes this walk up to the first failure. It calls just the
bodies that it meets, ends with that failure or with a text, and leaves the context as it was. The walk counts
in words of 64 bits, whose sums wrap around, since these are what the bodies read of the context.
-/

namespace MarkdownLists.Listing
set_option autoImplicit false

inductive Visit
  | call (seen : Call)
  | failure (f : Failure Text)
  deriving DecidableEq, Repr

namespace Visit

/-- The calls before the first failure. -/
def calls : List Visit → List Call
  | [] => []
  | .call seen :: rest => seen :: calls rest
  | .failure _ :: _ => []

def failure? : List Visit → Option (Failure Text)
  | [] => none
  | .call _ :: rest => failure? rest
  | .failure f :: _ => some f

variable {α : Type}

def outcome (visits : List Visit) (x : α) : Except (Failure Text) α :=
  match failure? visits with
  | none => .ok x
  | some f => .error f

theorem failure?_append (us vs : List Visit) :
    failure? (us ++ vs) = (failure? us).or (failure? vs) := by
  induction us with
  | nil => rfl
  | cons u rest ih =>
    cases u with
    | call seen => exact ih
    | failure f => rfl

theorem calls_append_of_none {us : List Visit} (h : failure? us = none) (vs : List Visit) :
    calls (us ++ vs) = calls us ++ calls vs := by
  induction us with
  | nil => rfl
  | cons u rest ih =>
    cases u with
    | call seen => rw [List.cons_append, calls, ih h, calls, List.cons_append]
    | failure f => cases h

theorem calls_append_of_some {us : List Visit} {f : Failure Text} (h : failure? us = some f)
    (vs : List Visit) : calls (us ++ vs) = calls us := by
  induction us with
  | nil => cases h
  | cons u rest ih =>
    cases u with
    | call seen => rw [List.cons_append, calls, ih h, calls]
    | failure f => rfl

end Visit

/-! ## Walks -/

/-- The walk through a list, given the walk through its bodies from the counters inside it. With the wrong number of
markers no body is reached. -/
def listVisits (items : List (List Block)) (markers : Markers) (inner : Call → List Visit) :
    Call → List Visit
  | (indent, depth) =>
    if markers.fits items.length then inner (indent + .ofNat (markers.first.length + 1), depth + 1)
    else [.failure (.panic .markerCount)]

def listText (items : List (List Block)) (markers : Markers) (texts : List Text) : Text :=
  (separator items).intercalate
    (List.zipWith (itemText (markers.first.length + 1)) (markers.forItems items.length) texts)

mutual
def Body.visits : Body → Call → List Visit
  | .text _, seen => [.call seen]
  | .error reason, seen => [.call seen, .failure (.error reason)]
  | .panic, seen => [.call seen, .failure (.panic .requested)]
  | .nested items markers bodies, seen =>
    .call seen :: listVisits items markers (Body.visitsAll bodies items.length) seen

/-- The walk through the bodies of `count` items. -/
def Body.visitsAll : List Body → Nat → Call → List Visit
  | [], count, seen => List.replicate count (.call seen)
  | _ :: _, 0, _ => []
  | b :: rest, count + 1, seen => b.visits seen ++ Body.visitsAll rest count seen
end

mutual
/-- What the body gives if nothing in it fails. -/
def Body.rendered : Body → Text
  | .text value => value
  | .nested items markers bodies => listText items markers (Body.renderedAll bodies items.length)
  | _ => []

def Body.renderedAll : List Body → Nat → List Text
  | [], count => List.replicate count []
  | _ :: _, 0 => []
  | b :: rest, count + 1 => b.rendered :: Body.renderedAll rest count
end

/-! ## Actions along a walk -/

variable {α β : Type}

/-- The action takes the walk up to the first failure, gives that failure or `x`, and leaves the context as
it was. -/
def Walks (a : Render Call Text α) (visits : Call → List Visit) (x : α) : Prop :=
  ∀ w : World Call, a w = (Visit.outcome (visits w.context.counters) x,
    ⟨w.context, w.log ++ Visit.calls (visits w.context.counters)⟩)

namespace Walks

theorem pure (x : α) : Walks (Pure.pure x) (fun _ => []) x := by
  intro w
  rw [Visit.calls, List.append_nil]
  rfl

theorem call : Walks Listing.call (fun seen => [.call seen]) () := fun _ => rfl

theorem fail (e : Text) (x : α) : Walks (Render.fail e) (fun _ => [.failure (.error e)]) x := by
  intro w
  rw [Visit.calls, List.append_nil]
  rfl

theorem panic (p : Panic) (x : α) : Walks (Render.panic p) (fun _ => [.failure (.panic p)]) x := by
  intro w
  rw [Visit.calls, List.append_nil]
  rfl

theorem bind {a : Render Call Text α} {k : α → Render Call Text β} {us vs : Call → List Visit} {x : α}
    {y : β} (ha : Walks a us x) (hk : Walks (k x) vs y) :
    Walks (a >>= k) (fun seen => us seen ++ vs seen) y := by
  intro w
  have hFirst := ha w
  rw [Visit.outcome] at hFirst ⊢
  rw [Visit.failure?_append]
  cases hFailure : Visit.failure? (us w.context.counters) with
  | none =>
    rw [hFailure] at hFirst
    rw [Render.bind_apply_ok hFirst, hk, Visit.calls_append_of_none hFailure, List.append_assoc]
    rfl
  | some f =>
    rw [hFailure] at hFirst
    rw [Render.bind_apply_error hFirst, Visit.calls_append_of_some hFailure]
    rfl

theorem map {a : Render Call Text α} {us : Call → List Visit} {x : α} (ha : Walks a us x) (h : α → β) :
    Walks (do return h (← a)) us (h x) := by
  have hBind : Walks (a >>= fun y => Pure.pure (h y)) (fun seen => us seen ++ []) (h x) :=
    ha.bind (pure (h x))
  simpa only [List.append_nil] using hBind

/-- On every way out of the scope, the width that it took is given back. -/
theorem indented {a : Render Call Text α} {us : Call → List Visit} {x : α} (ha : Walks a us x)
    (width : Nat) :
    Walks (Render.indented width a) (fun seen => us (seen.1 + .ofNat width, seen.2 + 1)) x := by
  intro w
  rw [Render.indented, ha]
  simp only [Context.counters_enter, Context.leave?_enter]

end Walks

/-! ## Rendering a script -/

def missing : Render Call Text Text := do
  call
  return []

theorem fill_nil (count : Nat) : fill count [] = List.replicate count missing := by
  rw [fill, List.nil_append, List.take_replicate, Nat.min_self]
  rfl

theorem fill_cons (count : Nat) (a : Render Call Text Text) (as : List (Render Call Text Text)) :
    fill (count + 1) (a :: as) = a :: fill count as := by
  rw [fill, fill, List.cons_append, List.take_succ_cons, List.take_append, List.take_append,
    List.take_replicate, List.take_replicate]
  congr 3
  omega

theorem walks_item {width : Nat} {a : Render Call Text Text} {us vs : Call → List Visit} {x m : Text}
    {rest : List (Text × Render Call Text Text)} {xs : List Text} (ha : Walks a us x)
    (hRest : Walks (itemTexts width rest) vs xs) :
    Walks (itemTexts width ((m, a) :: rest)) (fun seen => us seen ++ vs seen)
      (itemText width m x :: xs) :=
  ha.bind (hRest.map (itemText width m x :: ·))

theorem walks_missing (width : Nat) (ms : List Text) :
    Walks (itemTexts width (ms.zip (List.replicate ms.length missing)))
      (fun seen => List.replicate ms.length (.call seen))
      (List.zipWith (itemText width) ms (List.replicate ms.length [])) := by
  have hMissing : Walks missing (fun seen => [.call seen]) [] := Walks.call.bind (.pure [])
  induction ms with
  | nil => exact .pure []
  | cons m rest ih => exact walks_item hMissing ih

theorem walks_list (items : List (List Block)) (markers : Markers) {as : List (Render Call Text Text)}
    {inner : Call → List Visit} {texts : List Text} (hCount : as.length = items.length)
    (h : markers.fits items.length = true →
      Walks (itemTexts (markers.first.length + 1) ((markers.forItems items.length).zip as)) inner
        (List.zipWith (itemText (markers.first.length + 1)) (markers.forItems items.length) texts)) :
    Walks (layout (separator items) markers as) (listVisits items markers inner)
      (listText items markers texts) := by
  unfold layout listVisits
  rw [hCount]
  by_cases hFits : markers.fits items.length = true
  · simp only [if_pos hFits]
    exact ((h hFits).indented _).map (separator items).intercalate
  · simp only [if_neg hFits]
    exact .panic .markerCount _

-- The induction is on the script. A list is walked with as many bodies as it has items; those that are not
-- given are called and have nothing inside them.
mutual
theorem walks_action (b : Body) : Walks b.action b.visits b.rendered := by
  cases b with
  | text value => exact Walks.call.bind (.pure value)
  | error reason => exact Walks.call.bind (.fail reason [])
  | panic => exact Walks.call.bind (.panic .requested [])
  | nested items markers bodies =>
    have hList := walks_list items markers (length_fill _ _) fun hFits =>
      walks_itemTexts bodies (markers.first.length + 1) (Markers.length_forItems hFits)
    exact Walks.call.bind hList

theorem walks_itemTexts (bodies : List Body) (width : Nat) {ms : List Text} {count : Nat}
    (h : ms.length = count) :
    Walks (itemTexts width (ms.zip (fill count (Body.actions bodies)))) (Body.visitsAll bodies count)
      (List.zipWith (itemText width) ms (Body.renderedAll bodies count)) := by
  subst h
  cases bodies with
  | nil =>
    rw [Body.actions, fill_nil]
    exact walks_missing width ms
  | cons b rest =>
    cases ms with
    | nil => exact .pure []
    | cons m ms =>
      have hRest := walks_itemTexts rest width (Eq.refl ms.length)
      rw [Body.actions, List.length_cons, fill_cons]
      exact walks_item (walks_action b) hRest
end

/-- Rendering a script takes its walk up to the first failure, calls the bodies met before it with the counters
of the walk, gives the failure or the text, and leaves the context as it was. -/
theorem runScript_eq (items : List (List Block)) (markers : Markers) (bodies : List Body)
    (w : World Call) :
    let visits := listVisits items markers (Body.visitsAll bodies items.length) w.context.counters
    let text := listText items markers (Body.renderedAll bodies items.length)
    runScript items markers bodies w =
      (match Visit.failure? visits with
        | none => .ok text
        | some f => .error f,
      ⟨w.context, w.log ++ Visit.calls visits⟩) := by
  have hWalk := walks_list items markers (length_fill _ _) fun hFits =>
    walks_itemTexts bodies (markers.first.length + 1) (Markers.length_forItems hFits)
  exact hWalk w

example : (runScript [[], [], []] (.repeated ['*']) [.text ['a'],
    .nested [[]] (.perItem [['7', '.']]) [.error ['b']], .text ['c']] ⟨{}, []⟩).2.log =
      [(2, 1), (2, 1), (5, 2)] := by decide

-- From the last column that a word can hold, the column of the body wraps around to one less than its width.
example : runScript [[]] (.repeated ['*']) [.text ['a']] ⟨{ indent := UInt64.size - 1, depth := 1 }, []⟩ =
    (.ok ['*', ' ', 'a'], ⟨{ indent := UInt64.size - 1, depth := 1 }, [(1, 2)]⟩) := by rfl

end MarkdownLists.Listing
