import MarkdownLists.Proofs.Listing.ItemLines
import MarkdownLists.Proofs.Writer.Inlines

/-! # Thematic breaks among the lines of items

A bullet stands alone on the line of an empty item, and the line of an item shows one marker after the other while
items begin with lists. Three equal bullets on a line are read as a thematic break. This happens just where bullet
lists are nested in each other without text, or with a text that begins with a space and goes on in dashes.
-/

namespace MarkdownLists
set_option autoImplicit false

open Listing

namespace Text

/-- Three or more of one of the three characters of a thematic break, and otherwise spaces. -/
def isThematicBreak (line : Text) : Bool :=
  ['-', '*', '_'].any fun c => (line.all fun d => d = c || d = ' ') && 3 ≤ line.count c

/-- The line is made of spaces and of `c`, with `n` or more of the latter. -/
def Fills (c : Char) (n : Nat) (line : Text) : Prop := (∀ d ∈ line, d = c ∨ d = ' ') ∧ n ≤ line.count c

theorem isThematicBreak_iff (line : Text) :
    line.isThematicBreak = true ↔ ∃ c ∈ ['-', '*', '_'], line.Fills c 3 := by
  simp [isThematicBreak, Fills]

theorem ne_space_of_mem {c : Char} (h : c ∈ ['-', '*', '_']) : c ≠ ' ' := by
  rintro rfl
  exact absurd h (by decide)

section
variable {c : Char} {n : Nat}

theorem fills_space_cons_iff (hc : c ≠ ' ') (line : Text) : Fills c n (' ' :: line) ↔ Fills c n line := by
  rw [Fills, Fills, List.forall_mem_cons, List.count_cons_of_ne (Ne.symm hc)]
  simp

theorem fills_spaces_append_iff (hc : c ≠ ' ') (k : Nat) (line : Text) :
    Fills c n (spaces k ++ line) ↔ Fills c n line := by
  induction k with
  | zero => rfl
  | succ k ih =>
    rw [spaces, List.replicate_succ, List.cons_append, fills_space_cons_iff hc]
    exact ih

theorem fills_cons_iff (line : Text) : Fills c n (c :: line) ↔ Fills c (n - 1) line := by
  rw [Fills, Fills, List.forall_mem_cons, List.count_cons_self]
  simp only [true_or, true_and]
  apply and_congr_right
  intro _
  omega

theorem fills_markedLine_singleton_iff (hc : c ≠ ' ') (line : Text) :
    Fills c n (markedLine [c] line) ↔ Fills c (n - 1) line := by
  cases line with
  | nil => exact fills_cons_iff []
  | cons d line => exact (fills_cons_iff (' ' :: d :: line)).trans (fills_space_cons_iff hc (d :: line))

/-- Of all markers only a bullet can be part of a thematic break. -/
theorem eq_singleton_of_shownBy {marker : Text} {head : Head} (hShown : head.ShownBy marker)
    (hc : c ∈ ['-', '*', '_']) (hAll : ∀ d ∈ marker, d = c ∨ d = ' ') : marker = [c] := by
  cases head with
  | bullet b =>
    rw [show marker = b.text from hShown] at hAll ⊢
    rcases hAll b.char List.mem_cons_self with rfl | hChar
    · rfl
    · cases b <;> cases hChar
  | ordered number suffix =>
    obtain ⟨digits, hDigits, hDigit, -, rfl⟩ := hShown
    obtain ⟨d, rest, rfl⟩ := List.exists_cons_of_ne_nil hDigits
    have hNoDigit : ∀ d ∈ ' ' :: ['-', '*', '_'], d.isDigit = false :=
      List.all_iff_forall_prop.mp (by decide)
    have hd : d ∈ ' ' :: ['-', '*', '_'] := by
      rcases hAll d List.mem_cons_self with rfl | rfl
      · exact List.mem_cons_of_mem _ hc
      · exact List.mem_cons_self
    exact absurd hd (Text.not_mem_of_holds (hDigit d List.mem_cons_self) hNoDigit)

theorem fills_markedLine_iff {marker : Text} {head : Head} (hShown : head.ShownBy marker)
    (hc : c ∈ ['-', '*', '_']) (line : Text) :
    Fills c n (markedLine marker line) ↔ marker = [c] ∧ Fills c (n - 1) line := by
  have hSelf := fills_markedLine_singleton_iff (n := n) (ne_space_of_mem hc) line
  constructor
  · intro h
    have hMarker : marker = [c] := by
      refine eq_singleton_of_shownBy hShown hc fun d hd => h.1 d ?_
      unfold markedLine
      split
      · exact hd
      · exact List.mem_append_left _ hd
    subst hMarker
    exact ⟨rfl, hSelf.mp h⟩
  · rintro ⟨rfl, h⟩
    exact hSelf.mpr h

end

/-! ## First lines -/

theorem exists_eq_firstLine_append (t : Text) :
    ∃ after, t = t.firstLine ++ after ∧ ∀ c ∈ after.head?, c = '\n' := by
  obtain ⟨first, rest, hLines⟩ := List.exists_cons_of_ne_nil (splitLines_ne_nil t)
  have hText := joinLines_splitLines t
  rw [firstLine, hLines, List.headD_cons]
  rw [hLines] at hText
  cases rest with
  | nil => exact ⟨[], by simpa [joinLines] using hText.symm, fun c hc => absurd hc (Option.not_mem_none c)⟩
  | cons second rest =>
    refine ⟨'\n' :: joinLines (second :: rest), ?_, ?_⟩
    · rw [← hText, joinLines, List.intercalate_cons_cons, List.append_assoc]
      rfl
    · rintro c ⟨⟩
      rfl

theorem firstLine_append {line after : Text} (hLine : '\n' ∉ line) (hAfter : ∀ c ∈ after.head?, c = '\n') :
    firstLine (line ++ after) = line := by
  cases after with
  | nil =>
    rw [List.append_nil, firstLine, splitLines_of_not_mem hLine]
    rfl
  | cons c after =>
    obtain rfl := hAfter c rfl
    rw [firstLine, splitLines_append_newline, splitLines_of_not_mem hLine]
    rfl

end Text

/-! ## Text -/

namespace Writer

theorem head?_escapeInline {t : Text} (h : ∀ c ∈ t.head?, c = '\n') :
    ∀ c ∈ (escapeInline t).head?, c = '\n' := by
  cases t with
  | nil => exact h
  | cons c rest =>
    obtain rfl := h c rfl
    rintro c ⟨⟩
    rfl

theorem Spells.head_of_head {escapes : Char → Prop} {w t : Text} (hSpells : Spells escapes w t)
    (h : ∀ c ∈ w.head?, c = '\n') : ∀ c ∈ t.head?, c = '\n' := by
  cases hSpells with
  | nil => exact nofun
  | escaped => exact absurd (h _ rfl) (by decide)
  | plain => exact h

/-- A first line that is written without backslashes is that of the text. It has no star then, and no dash at its
front. -/
theorem firstLine_of_backslash_not_mem {t : Text} (h : '\\' ∉ (escape true t).firstLine) :
    t.firstLine = (escape true t).firstLine ∧ '*' ∉ t.firstLine ∧ t.firstLine.head? ≠ some '-' := by
  obtain ⟨after, hWritten, hAfter⟩ := Text.exists_eq_firstLine_append (escape true t)
  have hSpells := spells_escape true t
  rw [hWritten] at hSpells
  obtain ⟨hSyntax, rest, hText, hRest⟩ := hSpells.exists_of_append h
  have hLine : t.firstLine = (escape true t).firstLine := by
    conv_lhs => rw [hText]
    exact Text.firstLine_append (Text.newline_not_mem_firstLine _) (hRest.head_of_head hAfter)
  rw [hLine]
  refine ⟨rfl, fun hStar => hSyntax _ hStar (by decide), fun hDash => ?_⟩
  -- A dash at the front of the text would be written behind a backslash.
  obtain ⟨line, hFirst⟩ := List.head?_eq_some_iff.mp hDash
  rw [hFirst] at hText hWritten
  rw [hText] at hWritten
  exact absurd (List.cons.inj hWritten).1 (by decide)

theorem firstLine_escape_of_forall {t : Text} (hAll : ∀ c ∈ t.firstLine, c ∈ ['-', ' '])
    (hDash : t.firstLine.head? ≠ some '-') : (escape true t).firstLine = t.firstLine := by
  obtain ⟨after, hText, hAfter⟩ := Text.exists_eq_firstLine_append t
  have hHead : ∀ c ∈ t.head?, c ∈ [' ', '\n'] := by
    intro c hc
    rw [hText] at hc
    cases hFirst : t.firstLine with
    | nil =>
      rw [hFirst] at hc
      exact List.mem_cons_of_mem _ (List.mem_singleton.mpr (hAfter c hc))
    | cons d line =>
      rw [hFirst] at hc hAll hDash
      have hc : c = d := (Option.some.inj hc).symm
      have hNoDash : d ≠ '-' := fun hEq => hDash (congrArg some hEq)
      have hBoth := hAll d List.mem_cons_self
      rw [List.mem_cons, or_iff_right hNoDash] at hBoth
      rw [hc, List.mem_singleton.mp hBoth]
      exact List.mem_cons_self
  have hStart : ∀ c ∈ t.head?, c.isDigit = false ∧ c ∉ blockStart := by
    have hBoth : ∀ c ∈ [' ', '\n'], c.isDigit = false ∧ c ∉ blockStart :=
      List.all_iff_forall_prop.mp (by decide)
    exact fun c hc => hBoth c (hHead c hc)
  have hPlain : ∀ c ∈ t.firstLine, c ∉ '&' :: '<' :: inlineSyntax := by
    have hBoth : ∀ c ∈ ['-', ' '], c ∉ '&' :: '<' :: inlineSyntax :=
      List.all_iff_forall_prop.mp (by decide)
    exact fun c hc => hBoth c (hAll c hc)
  have hEscape : escape true t = t.firstLine ++ escapeInline after := by
    conv_lhs => rw [escape, if_pos rfl, escapeLineStart_of_head hStart, hText]
    exact escapeInline_append hPlain after
  rw [hEscape]
  exact Text.firstLine_append (Text.newline_not_mem_firstLine t) (head?_escapeInline hAfter)

/-- A text is written as bullets if it consists of them already and none of them is escaped. Stars always are, and
dashes only at the front. -/
theorem fills_firstLine_escape_iff {c : Char} (hc : c ∈ ['-', '*']) (n : Nat) (t : Text) :
    Text.Fills c n (escape true t).firstLine ↔
      t.firstLine.Fills c n ∧ '*' ∉ t.firstLine ∧ t.firstLine.head? ≠ some '-' := by
  constructor
  · intro h
    have hBackslash : '\\' ∉ (escape true t).firstLine := by
      intro hMem
      rcases h.1 _ hMem with rfl | hSpace
      · exact absurd hc (by decide)
      · exact absurd hSpace (by decide)
    obtain ⟨hLine, hPlain⟩ := firstLine_of_backslash_not_mem hBackslash
    exact ⟨hLine ▸ h, hPlain⟩
  · rintro ⟨h, hStar, hDash⟩
    have hAll : ∀ d ∈ t.firstLine, d ∈ ['-', ' '] := by
      intro d hd
      rcases h.1 d hd with rfl | rfl
      · rcases List.mem_cons.mp hc with rfl | hc
        · exact List.mem_cons_self
        · exact absurd (List.mem_singleton.mp hc ▸ hd) hStar
      · exact List.mem_cons_of_mem _ List.mem_cons_self
    rwa [firstLine_escape_of_forall hAll hDash]

end Writer

theorem Bullet.char_mem {b : Bullet} (h : b ≠ .plus) : b.char ∈ ['-', '*'] := by
  cases b with
  | plus => exact absurd rfl h
  | _ => decide

namespace Inline

/-- Whether the first line of a paragraph is written as `n` or more of the bullet. In plain text this is so if the
line spells them out and none of them is escaped. -/
def SpellsBullets (b : Bullet) (n : Nat) (content : List Inline) : Prop :=
  if content.all isPlain then
    (leadText content).firstLine.Fills b.char n ∧ '*' ∉ (leadText content).firstLine ∧
      (leadText content).firstLine.head? ≠ some '-'
  else (region content).text.firstLine.Fills b.char n

theorem firstLine_region_of_isPlain {content : List Inline} (h : ∀ i ∈ content, i.isPlain = true) :
    (region content).text.firstLine = (Writer.escape true (leadText content)).firstLine := by
  obtain ⟨first, rest, hLines⟩ :=
    List.exists_cons_of_ne_nil (Text.splitLines_ne_nil (Writer.escape true (leadText content)))
  obtain ⟨after, hRegion⟩ := prefix_region_of_isPlain h
  rw [hLines, List.cons_append] at hRegion
  have hFirst := Text.splitLines_of_not_mem (Text.not_mem_of_mem_splitLines (hLines ▸ List.mem_cons_self))
  rw [Region.text, ← hRegion, Text.firstLine, Text.splitLines_joinLines (List.cons_ne_nil _ _),
    List.flatMap_cons, hFirst, Text.firstLine, hLines]
  rfl

theorem fills_firstLine_region_iff {b : Bullet} (hb : b ≠ .plus) (n : Nat) (content : List Inline) :
    (region content).text.firstLine.Fills b.char n ↔ SpellsBullets b n content := by
  unfold SpellsBullets
  split
  · rename_i hPlain
    rw [firstLine_region_of_isPlain (List.all_eq_true.mp hPlain)]
    exact Writer.fills_firstLine_escape_iff (Bullet.char_mem hb) n (leadText content)
  · exact Iff.rfl

end Inline

/-! ## Lists at the front of items -/

namespace Placement

theorem eq_text_iff {p : Placement} {o : Options} {marker : Text} (h : marker ∈ p.itemMarkers o) (b : Bullet) :
    marker = b.text ↔ p.kind = .bullet ∧ p.bullet o = b := by
  obtain ⟨head, hHead, hShown⟩ := exists_mem_heads h
  obtain ⟨before, kind, items⟩ := p
  cases kind with
  | bullet =>
    rw [List.eq_of_mem_replicate h]
    simp [Bullet.text, Bullet.char_inj]
  | ordered start =>
    obtain ⟨n, -, rfl⟩ := List.mem_map.mp hHead
    constructor
    · rintro rfl
      have hLast : some b.char = some (Placement.suffix _ o).char := hShown.getLast?
      exact absurd (Option.some.inj hLast) (b.char_ne _)
    · rintro ⟨⟨⟩, -⟩

/-- The first line of a list is that of its first item. -/
theorem firstLine_text (p : Placement) (o : Options) {body : Text} {bodies : List Text}
    (hLength : (body :: bodies).length = p.items.length) :
    ∃ marker ∈ p.itemMarkers o, (p.text o (body :: bodies)).firstLine = markedLine marker body.firstLine := by
  have hItems : p.items ≠ [] := by
    rw [← List.length_pos_iff, ← hLength]
    exact Nat.succ_pos _
  have hMarkers : p.itemMarkers o ≠ [] := by
    rw [← List.length_pos_iff, length_itemMarkers]
    exact List.length_pos_iff.mpr hItems
  obtain ⟨marker, rest, hMarker⟩ := List.exists_cons_of_ne_nil hMarkers
  have hMem : marker ∈ p.itemMarkers o := hMarker ▸ List.mem_cons_self
  refine ⟨marker, hMem, ?_⟩
  obtain ⟨first, after, hBody⟩ := List.exists_cons_of_ne_nil (Text.splitLines_ne_nil body)
  rw [Text.firstLine, List.headD_eq_head?_getD, p.splitLines_text o hLength hItems, itemTexts, hMarker,
    List.zipWith_cons_cons, List.map_cons, Text.head?_intercalate (Text.splitLines_ne_nil _),
    splitLines_itemText (newline_not_mem_of_mem_itemMarkers hMem), Text.firstLine, hBody]
  rfl

end Placement

namespace Block

variable (o : Options)

/-- Whether the first line of the blocks is written as `n` or more of the bullet: lists with this bullet are nested
in each other at the front, and the innermost item holds nothing else on that line but the rest of the bullets. -/
def BeginsWithBullets (b : Bullet) (n : Nat) (tight : Bool) : List Block → Prop
  | .list kind (first :: rest) :: _ =>
    kind = .bullet ∧ o.bullet = b ∧ BeginsWithBullets b (n - 1) (isTight (first :: rest)) first
  | .paragraph _ content :: _ => Inline.SpellsBullets b n content
  | blocks => (regionAll o [] tight blocks).text.firstLine.Fills b.char n

theorem firstLine_regionAll (tight : Bool) {b : Block} (h : (b.region o []).lines ≠ []) (rest : List Block) :
    (regionAll o [] tight (b :: rest)).text.firstLine = (b.region o []).text.firstLine := by
  have hAll : (regionAll o [] tight (b :: rest)).lines =
      (b.region o []).lines ++ (regionAll o [b] tight rest).lines := rfl
  obtain ⟨l, lines, hLines⟩ := List.exists_cons_of_ne_nil h
  obtain ⟨first, after, hFirst⟩ := List.exists_cons_of_ne_nil (Text.splitLines_ne_nil l.text)
  rw [Text.firstLine, Text.firstLine, Region.splitLines_text h, Region.splitLines_text (by simp [hAll, h]), hAll,
    hLines, List.cons_append, List.flatMap_cons, List.flatMap_cons, hFirst]
  rfl

theorem fills_firstLine_regionAll_iff {b : Bullet} (hb : b ≠ .plus) (n : Nat) (tight : Bool)
    (blocks : List Block) :
    (regionAll o [] tight blocks).text.firstLine.Fills b.char n ↔ BeginsWithBullets o b n tight blocks := by
  fun_induction BeginsWithBullets o b n tight blocks with
  | case1 n tight kind first rest back ih =>
    have hLines : ((list kind (first :: rest)).region o []).lines ≠ [] := by
      simp [region, Text.splitLines_ne_nil]
    have hLength : (bodies o (isTight (first :: rest)) (first :: rest)).length = (first :: rest).length := by
      rw [bodies_eq_map, List.length_map]
    obtain ⟨marker, hMarker, hFirst⟩ := Placement.firstLine_text ⟨[], kind, first :: rest⟩ o hLength
    obtain ⟨head, hShown⟩ := Placement.exists_shownBy hMarker
    rw [firstLine_regionAll o tight hLines, region, Region.text_ofText, bodies, hFirst,
      Text.fills_markedLine_iff hShown (List.mem_append_left ['_'] (Bullet.char_mem hb)), ih, ← and_assoc]
    -- A list at the front of an item is the first of its run, so its bullet is the primary one.
    exact and_congr_left fun _ => Placement.eq_text_iff hMarker b
  | case2 n tight hidden content back =>
    have hLines : ((paragraph hidden content).region o []).lines ≠ [] := by
      simp [region, Inline.region, Draft.breakLine]
    rw [firstLine_regionAll o tight hLines]
    exact Inline.fills_firstLine_region_iff hb n content
  | case3 n tight blocks => exact Iff.rfl

end Block

/-- Whether the line of the item is a thematic break: its marker is a dash or a star, and its blocks begin with two
more of this bullet. -/
def ItemStart.Breaks (o : Options) (s : ItemStart) : Prop :=
  ∃ b : Bullet, b ≠ .plus ∧ s.marker = b.text ∧ Block.BeginsWithBullets o b 2 s.tight s.children

theorem ItemStart.isThematicBreak_iff {o : Options} {s : ItemStart} {line : Text} (h : s.BeginsOn o line)
    {head : Head} (hShown : head.ShownBy s.marker) : line.isThematicBreak = true ↔ s.Breaks o := by
  obtain ⟨n, rfl⟩ := h
  rw [Text.isThematicBreak_iff]
  constructor
  · rintro ⟨c, hc, hFills⟩
    rw [Text.fills_spaces_append_iff (Text.ne_space_of_mem hc), Text.fills_markedLine_iff hShown hc] at hFills
    obtain ⟨hMarker, hFills⟩ := hFills
    have hLast := hShown.getLast?
    rw [hMarker] at hLast
    obtain rfl : c = head.char := Option.some.inj hLast
    cases head with
    | bullet b =>
      have hb : b ≠ .plus := by
        rintro rfl
        exact absurd hc (by decide)
      exact ⟨b, hb, hMarker, (Block.fills_firstLine_regionAll_iff o hb 2 s.tight s.children).mp hFills⟩
    | ordered number suffix =>
      have hSuffix : suffix.char ∈ ['-', '*', '_'] := hc
      cases suffix <;> exact absurd hSuffix (by decide)
  · rintro ⟨b, hb, hMarker, hBullets⟩
    have hc := List.mem_append_left ['_'] (Bullet.char_mem hb)
    refine ⟨b.char, hc, ?_⟩
    rw [Text.fills_spaces_append_iff (Text.ne_space_of_mem hc), Text.fills_markedLine_iff hShown hc]
    exact ⟨hMarker, (Block.fills_firstLine_regionAll_iff o hb 2 s.tight s.children).mpr hBullets⟩

namespace Block

variable {ω ε : Type}

/-- The line on which an item begins is a thematic break exactly if the marker is a dash or a star and the item
begins with two more of it: with lists of this bullet that are nested in each other without text, or with a text
that goes on with dashes behind a space. -/
theorem isThematicBreak_starts_iff (w : World ω) (before : List Block) (kind : ListKind)
    (items : List (List Block)) :
    ∃ r : Region, ((list kind items).render before : Render ω ε Region) w = (.ok r, w) ∧
      List.Forall₂ (fun line start => ∀ s ∈ start, s.BeginsOn w.context.options line ∧
          (line.isThematicBreak = true ↔ s.Breaks w.context.options))
        r.text.splitLines ((list kind items).starts w.context.options before) := by
  let o := w.context.options
  refine ⟨(list kind items).region o before, by simpa using runs_render before (list kind items) w, ?_⟩
  have hBegins := forall₂_begins_region o before (list kind items)
  rw [region, flatMap_splitLines_ofText] at hBegins
  rw [region, Region.text_ofText]
  refine hBegins.imp fun line start h s hs => ?_
  obtain ⟨hLine, head, hShown⟩ := h s hs
  exact ⟨hLine, ItemStart.isThematicBreak_iff hLine hShown⟩

example : ((list .bullet [[.paragraph true [.text [' ', '-', ' ', '-']]]]).region {} []).text.isThematicBreak =
    true := by
  decide

def nestedItem : List Block := [.list .bullet [[.list .bullet [[]]]]]

/-- Three lists nested in each other without text are written as three equal bullets on one line. -/
theorem not_isThematicBreak_starts : ¬ ∀ (w : World Unit) (kind : ListKind) (items : List (List Block))
    (r : Region), ((list kind items).render [] : Render Unit Empty Region) w = (.ok r, w) →
      List.Forall₂ (fun line start => start ≠ none → line.isThematicBreak = false)
        r.text.splitLines ((list kind items).starts w.context.options []) := by
  intro h
  have hRun : ((list .bullet [nestedItem]).render [] : Render Unit Empty Region) ⟨{}, []⟩ =
      (.ok ((list .bullet [nestedItem]).region {} []), ⟨{}, []⟩) := by
    simpa using runs_render [] (list .bullet [nestedItem]) ⟨{}, []⟩
  cases h ⟨{}, []⟩ .bullet [nestedItem] _ hRun with
  | cons hFirst _ => exact absurd (hFirst (Option.some_ne_none _)) (by decide)

end Block

end MarkdownLists
