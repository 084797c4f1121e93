import MarkdownLists.Document
import Mathlib.Data.List.Chain

/-! # What delimiters tell of emphasis

Written between delimiters that are the same at both ends, emphasis does not show whether a delimiter opens or
closes it. Two sequences have the same delimiters between the same inlines just if one can be regrouped into the
other: a span that directly holds another of its kind becomes two neighbours with what was in the inner one between
them, and a strong emphasis is an emphasis within an emphasis.
-/

namespace MarkdownLists
set_option autoImplicit false

inductive Delimiter
  | star
  | waves
  deriving DecidableEq

def Delimiter.span : Delimiter → Span
  | star => .emphasis
  | waves => .strikethrough

def Span.delimiters : Span → List Delimiter
  | emphasis => [.star]
  | strong => [.star, .star]
  | strikethrough => [.waves]
  | link _ | image _ => []

inductive Mark
  | inline (i : Inline)
  | delimiter (d : Delimiter)

mutual
def Inline.marks : Inline → List Mark
  | .span s children =>
    if s.delimiters.isEmpty then [.inline (.span s children)]
    else s.delimiters.map .delimiter ++ (Inline.marksAll children ++ s.delimiters.map .delimiter)
  | i => [.inline i]

/-- The delimiters of a sequence and the inlines between them, from left to right. -/
def Inline.marksAll : List Inline → List Mark
  | [] => []
  | i :: rest => i.marks ++ Inline.marksAll rest
end

inductive Regrouped : List Inline → List Inline → Prop
  | refl (xs : List Inline) : Regrouped xs xs
  | symm {xs ys : List Inline} (h : Regrouped xs ys) : Regrouped ys xs
  | trans {xs ys zs : List Inline} (h : Regrouped xs ys) (h' : Regrouped ys zs) : Regrouped xs zs
  | append {xs ys xs' ys' : List Inline} (h : Regrouped xs ys) (h' : Regrouped xs' ys') :
      Regrouped (xs ++ xs') (ys ++ ys')
  | span (d : Delimiter) {xs ys : List Inline} (h : Regrouped xs ys) :
      Regrouped [.span d.span xs] [.span d.span ys]
  | nested (d : Delimiter) (xs ys zs : List Inline) :
      Regrouped [.span d.span (xs ++ .span d.span ys :: zs)] (.span d.span xs :: ys ++ [.span d.span zs])
  | double (xs : List Inline) : Regrouped [.span .strong xs] [.span .emphasis [.span .emphasis xs]]

namespace Inline

theorem marksAll_append (xs ys : List Inline) : marksAll (xs ++ ys) = marksAll xs ++ marksAll ys := by
  induction xs with
  | nil => rfl
  | cons i rest ih => rw [List.cons_append, marksAll, ih, marksAll, List.append_assoc]

theorem marksAll_singleton (i : Inline) : marksAll [i] = i.marks := List.append_nil _

theorem marks_span (d : Delimiter) (xs : List Inline) :
    (span d.span xs).marks = .delimiter d :: (marksAll xs ++ [.delimiter d]) := by
  cases d <;> rfl

theorem marksAll_eq_of_regrouped {xs ys : List Inline} (h : Regrouped xs ys) : marksAll xs = marksAll ys := by
  induction h with
  | refl => rfl
  | symm _ ih => exact ih.symm
  | trans _ _ ih ih' => exact ih.trans ih'
  | append _ _ ih ih' => rw [marksAll_append, marksAll_append, ih, ih']
  | span d _ ih => rw [marksAll_singleton, marksAll_singleton, marks_span, marks_span, ih]
  | nested d xs ys zs => simp [marksAll_append, marksAll, marks_span]
  | double xs => simp [marksAll, marks, Span.delimiters]

end Inline

/-! ## Reading marks -/

structure Reading where
  /-- The delimiters that are still open, the innermost first, each with what stands before it. -/
  frames : List (Delimiter × List Inline)
  current : List Inline

namespace Reading

def delimiters (r : Reading) : List Delimiter := r.frames.map Prod.fst

/-- Closes the innermost open delimiter if it is equal to `d`, and opens `d` if not. -/
def toggle (r : Reading) (d : Delimiter) : Reading :=
  match r.frames with
  | [] => ⟨[(d, r.current)], []⟩
  | (e, before) :: frames =>
    if e = d then ⟨frames, before ++ [.span d.span r.current]⟩ else ⟨(d, r.current) :: (e, before) :: frames, []⟩

def step (r : Reading) : Mark → Reading
  | .inline i => ⟨r.frames, r.current ++ [i]⟩
  | .delimiter d => r.toggle d

def read (r : Reading) (marks : List Mark) : Reading := marks.foldl step r

/-- Closes all frames. After each of them follows one of the `tails`. -/
def finish : List (Delimiter × List Inline) → List Inline → List (List Inline) → List Inline
  | [], current, _ => current
  | (d, before) :: frames, current, tails =>
    finish frames (before ++ .span d.span current :: tails.headD []) tails.tail

theorem finish_congr (frames : List (Delimiter × List Inline)) {xs ys : List Inline} (h : Regrouped xs ys)
    (tails : List (List Inline)) : Regrouped (finish frames xs tails) (finish frames ys tails) := by
  induction frames generalizing xs ys tails with
  | nil => exact h
  | cons frame frames ih =>
    obtain ⟨d, before⟩ := frame
    apply ih
    exact .append (.refl before) (.append (.span d h) (.refl (tails.headD [])))

def Alternates (r : Reading) : Prop := r.delimiters.IsChain (· ≠ ·)

theorem toggle_of_ne {r : Reading} {d : Delimiter} (h : ∀ e ∈ r.delimiters.head?, d ≠ e) :
    r.toggle d = ⟨(d, r.current) :: r.frames, []⟩ := by
  obtain ⟨frames, current⟩ := r
  cases frames with
  | nil => rfl
  | cons frame frames => exact if_neg (h frame.1 rfl).symm

theorem toggle_of_eq (d : Delimiter) (before : List Inline) (frames : List (Delimiter × List Inline))
    (current : List Inline) :
    toggle ⟨(d, before) :: frames, current⟩ d = ⟨frames, before ++ [.span d.span current]⟩ := if_pos rfl

theorem read_append (r : Reading) (marks marks' : List Mark) : r.read (marks ++ marks') = (r.read marks).read marks' :=
  List.foldl_append

theorem read_between (r : Reading) (d : Delimiter) (marks : List Mark) :
    r.read (.delimiter d :: (marks ++ [.delimiter d])) = ((r.toggle d).read marks).toggle d :=
  read_append (r.toggle d) marks [.delimiter d]

/-- From one reading to the other `xs` were read, whatever may follow: up to regrouping the two end alike. -/
structure Reads (r r' : Reading) (xs : List Inline) : Prop where
  delimiters : r'.delimiters = r.delimiters
  regrouped : ∀ (following : List Inline) (tails : List (List Inline)),
    Regrouped (finish r.frames (r.current ++ (xs ++ following)) tails)
      (finish r'.frames (r'.current ++ following) tails)

namespace Reads

variable {r r' r'' : Reading} {xs ys : List Inline}

theorem trans (h : r.Reads r' xs) (h' : r'.Reads r'' ys) : r.Reads r'' (xs ++ ys) where
  delimiters := h'.delimiters.trans h.delimiters
  regrouped following tails := by
    rw [List.append_assoc]
    exact (h.regrouped (ys ++ following) tails).trans (h'.regrouped following tails)

theorem of_regrouped (hSame : Regrouped xs ys) (h : r.Reads r' ys) : r.Reads r' xs where
  delimiters := h.delimiters
  regrouped following tails := by
    have hAll := (Regrouped.refl r.current).append (hSame.append (.refl following))
    exact (finish_congr r.frames hAll tails).trans (h.regrouped following tails)

theorem reopen {d : Delimiter} {before : List Inline} {frames : List (Delimiter × List Inline)}
    {current : List Inline} (hFrames : ∀ e ∈ (frames.map Prod.fst).head?, d ≠ e)
    (h : Reads ⟨frames, before ++ [.span d.span current]⟩ r xs) :
    Reads ⟨(d, before) :: frames, current⟩ (r.toggle d) [.span d.span xs] := by
  have hOpen : r.toggle d = ⟨(d, r.current) :: r.frames, []⟩ := by
    apply toggle_of_ne
    rw [h.delimiters]
    exact hFrames
  rw [hOpen]
  constructor
  · exact congrArg (d :: ·) h.delimiters
  · intro following tails
    have hNested := (Regrouped.nested d current xs following).append (.refl (tails.headD []))
    have hOuter := finish_congr frames ((Regrouped.refl before).append hNested) tails.tail
    have hRead := h.regrouped (.span d.span following :: tails.headD []) tails.tail
    simp only [List.append_assoc, List.cons_append, List.nil_append] at hOuter hRead
    exact hOuter.trans hRead

theorem enclose {d : Delimiter} (h : Reads ⟨(d, r.current) :: r.frames, []⟩ r' xs) :
    r.Reads (r'.toggle d) [.span d.span xs] := by
  obtain ⟨_ | ⟨⟨e, before⟩, frames⟩, current⟩ := r'
  · cases h.delimiters
  · obtain ⟨rfl, hFrames⟩ := List.cons.inj h.delimiters
    rw [toggle_of_eq]
    constructor
    · exact hFrames
    · intro following tails
      have hRead := h.regrouped [] (following :: tails)
      simp only [List.append_nil] at hRead
      rw [List.append_assoc]
      exact hRead

end Reads

def ReadAs (marks : List Mark) (xs : List Inline) : Prop := ∀ r : Reading, r.Alternates → r.Reads (r.read marks) xs

namespace ReadAs

variable {marks marks' : List Mark} {xs ys : List Inline}

theorem nil : ReadAs [] [] := fun _ _ => ⟨rfl, fun _ _ => .refl _⟩

theorem inline (i : Inline) : ReadAs [.inline i] [i] := by
  intro r _
  refine ⟨rfl, fun following tails => ?_⟩
  rw [← List.append_assoc]
  exact .refl _

theorem append (h : ReadAs marks xs) (h' : ReadAs marks' ys) : ReadAs (marks ++ marks') (xs ++ ys) := by
  intro r hr
  have hFirst := h r hr
  have hAlternates : (r.read marks).Alternates := by
    rw [Alternates, hFirst.delimiters]
    exact hr
  rw [read_append]
  exact hFirst.trans (h' _ hAlternates)

theorem span (d : Delimiter) (h : ReadAs marks xs) :
    ReadAs (.delimiter d :: (marks ++ [.delimiter d])) [.span d.span xs] := by
  intro r hr
  rw [read_between]
  by_cases hEqual : r.delimiters.head? = some d
  · obtain ⟨_ | ⟨⟨e, before⟩, frames⟩, current⟩ := r
    · cases hEqual
    · -- The first delimiter closes the innermost open one, and the second one opens it again.
      obtain rfl := Option.some.inj hEqual
      have hChain := List.isChain_cons.mp hr
      rw [toggle_of_eq]
      exact .reopen hChain.1 (h ⟨frames, _⟩ hChain.2)
  · -- The first delimiter is itself open until the second one.
    have hNe : ∀ e ∈ r.delimiters.head?, d ≠ e := by
      rintro e he rfl
      exact hEqual he
    rw [toggle_of_ne hNe]
    exact .enclose (h ⟨(d, r.current) :: r.frames, []⟩ (List.isChain_cons.mpr ⟨hNe, hr⟩))

theorem of_regrouped (hSame : Regrouped xs ys) (h : ReadAs marks ys) : ReadAs marks xs :=
  fun r hr => .of_regrouped hSame (h r hr)

end ReadAs

end Reading

namespace Inline

open Reading

mutual
theorem readAs_marks (i : Inline) : ReadAs i.marks [i] := by
  cases i with
  | span s children =>
    have hChildren := readAs_marksAll children
    cases s with
    | emphasis => exact hChildren.span .star
    | strong =>
      have hTwice := (hChildren.span .star).span .star
      have hMarks : (span .strong children).marks = .delimiter .star ::
          (.delimiter .star :: (marksAll children ++ [.delimiter .star]) ++ [.delimiter .star]) := by
        simp [marks, Span.delimiters]
      rw [hMarks]
      exact hTwice.of_regrouped (.double children)
    | strikethrough => exact hChildren.span .waves
    | link t | image t => exact .inline _
  | _ => exact .inline _

theorem readAs_marksAll (content : List Inline) : ReadAs (marksAll content) content := by
  cases content with
  | nil => exact .nil
  | cons i rest => exact (readAs_marks i).append (readAs_marksAll rest)
end

theorem regrouped_read_marksAll (content : List Inline) :
    Regrouped content (Reading.read ⟨[], []⟩ (marksAll content)).current := by
  have hRead := readAs_marksAll content ⟨[], []⟩ .nil
  have hClosed : (Reading.read ⟨[], []⟩ (marksAll content)).frames = [] := List.map_eq_nil_iff.mp hRead.delimiters
  have hSame := hRead.regrouped [] []
  rw [hClosed] at hSame
  simpa [finish] using hSame

theorem marksAll_eq_iff_regrouped {xs ys : List Inline} : marksAll xs = marksAll ys ↔ Regrouped xs ys := by
  constructor
  · intro h
    have hRead := regrouped_read_marksAll xs
    rw [h] at hRead
    exact hRead.trans (regrouped_read_marksAll ys).symm
  · exact marksAll_eq_of_regrouped

end Inline

end MarkdownLists
