import MarkdownLists.Proofs.Writer.Canonical

/-! # Cutting texts into pieces

The text of a paragraph may come in one piece or in many, some of them empty. Since neighbouring texts are escaped
as one, the places of the cuts do not show in what is written, at any depth of a document.
-/

namespace MarkdownLists
set_option autoImplicit false

mutual
def Inline.joined : Inline → Inline
  | .span s children => .span s (Inline.joinedAll children)
  | i => i

/-- Joins neighbouring texts and leaves out empty ones, at every depth. -/
def Inline.joinedAll : List Inline → List Inline
  | [] => []
  | .text [] :: rest => Inline.joinedAll rest
  | i :: rest => Inline.consJoined i.joined (Inline.joinedAll rest)
end

def Block.joinedAll (blocks : List Block) : List Block := mapContentAll Inline.joinedAll blocks

namespace Inline

theorem opensBracket_joined (i : Inline) : i.joined.opensBracket = i.opensBracket := by
  cases i with
  | span s children => cases s <;> simp [joined, opensBracket]
  | _ => rfl

mutual
theorem write_joined (i : Inline) (d : Draft) : i.joined.write d = i.write d := by
  cases i with
  | span s children => simp [joined, write, writeAll_joinedAll children]
  | _ => rfl

theorem writeAll_joinedAll (xs : List Inline) (run : Text) (d : Draft) :
    writeAll (joinedAll xs) run d = writeAll xs run d := by
  cases xs with
  | nil => rfl
  | cons i rest =>
    cases i with
    | text t =>
      cases t with
      | nil =>
        rw [joinedAll, writeAll, List.append_nil]
        exact writeAll_joinedAll rest run d
      | cons c t =>
        rw [joinedAll, writeAll_consJoined]
        · exact writeAll_joinedAll rest (run ++ c :: t) d
        · exact nofun
    | span s children =>
      have hBracket := opensBracket_joined (.span s children)
      have hWrite := write_joined (.span s children)
      rw [joinedAll, writeAll_consJoined]
      · rw [joined] at hBracket hWrite ⊢
        rw [writeAll_span_cons, writeAll_span_cons, hBracket, hWrite, writeAll_joinedAll rest]
      · exact nofun
    | _ => exact writeAll_joinedAll rest [] _
end

theorem keepsRegion_joinedAll : KeepsRegion joinedAll := by
  intro content
  rw [region, writeAll_joinedAll, region]

end Inline

namespace Block

theorem regionAt_joinedAll (o : Options) (siblings : List Block) (index : Nat) :
    regionAt o (joinedAll siblings) index = regionAt o siblings index := by
  have hBefore : ((joinedAll siblings).take index).reverse =
      mapContentAll Inline.joinedAll (siblings.take index).reverse := by
    simp [joinedAll, mapContentAll_eq_map]
  have hBlock : (joinedAll siblings)[index]? = siblings[index]?.map (mapContent Inline.joinedAll) := by
    simp [joinedAll, mapContentAll_eq_map]
  rw [regionAt, regionAt, hBefore, hBlock]
  cases siblings[index]? with
  | some b => exact region_mapContent o Inline.keepsRegion_joinedAll _ b
  | none => rfl

variable {ω ε : Type}

/-- Inlines that are the same once neighbouring texts are joined and empty ones left out have the same lines. So have
the blocks at one place of two documents that differ only by this, wherever they are rendered. -/
theorem renderAt_eq_of_joinedAll_eq :
    (∀ xs ys : List Inline, Inline.joinedAll xs = Inline.joinedAll ys → Inline.region xs = Inline.region ys) ∧
    ∀ as bs : List Block, joinedAll as = joinedAll bs →
      ∀ index, (renderAt as index : Render ω ε Region) = renderAt bs index := by
  constructor
  · intro xs ys h
    rw [← Inline.keepsRegion_joinedAll xs, h, Inline.keepsRegion_joinedAll ys]
  · intro as bs h index
    have hRuns := runs_renderAt (ω := ω) (ε := ε) as index
    have hRegion : (fun c : Context => regionAt c.options as index) = fun c => regionAt c.options bs index := by
      funext c
      rw [← regionAt_joinedAll, h, regionAt_joinedAll]
    rw [hRegion] at hRuns
    funext w
    rw [hRuns w, runs_renderAt bs index w]

/-- A number and its suffix in an item, cut before the suffix and beside an emphasis. -/
def cutItem : List Block :=
  [.list .bullet [[.paragraph true [.text ['1'], .text [], .text ['.', ' '],
    .span .emphasis [.text ['a'], .text ['b']], .text []]]]]

def uncutItem : List Block :=
  [.list .bullet [[.paragraph true [.text ['1', '.', ' '], .span .emphasis [.text ['a', 'b']]]]]]

theorem renderAt_cutItem : joinedAll cutItem = joinedAll uncutItem ∧
    (renderAt cutItem 0 : Render Empty Empty Region) = renderAt uncutItem 0 :=
  ⟨rfl, renderAt_eq_of_joinedAll_eq.2 cutItem uncutItem rfl 0⟩

end Block

end MarkdownLists
