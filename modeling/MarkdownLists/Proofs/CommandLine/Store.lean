import Mathlib.Data.List.Dedup
import MarkdownLists.CommandLine.Files

/-! # Reading and writing a store

Where a name leads to depends only on which files and directories there are. Writing to a file changes
its content and nothing else, so that files which are rewritten one after the other do not disturb each other.
-/

namespace MarkdownLists.CommandLine.Store
set_option autoImplicit false

/-- The text of the file that a name leads to. -/
def text? (s : Store) (name : Text) : Except FileFault Text := (s.read name).bind FileContent.text?

/-- The same files and directories, with any contents. -/
structure SamePaths (before after : Store) : Prop where
  files : after.files.map Prod.fst = before.files.map Prod.fst
  directories : after.directories = before.directories

theorem SamePaths.refl (s : Store) : SamePaths s s := ⟨rfl, rfl⟩

theorem SamePaths.trans {s t u : Store} (h : SamePaths s t) (h' : SamePaths t u) : SamePaths s u :=
  ⟨h'.files.trans h.files, h'.directories.trans h.directories⟩

theorem isSome_find?_iff {s : Store} {path : List Text} :
    (s.find? path).isSome = true ↔ path ∈ s.files.map Prod.fst := by
  simp [find?]

theorem SamePaths.isSome_find? {before after : Store} (h : SamePaths before after) (path : List Text) :
    (after.find? path).isSome = (before.find? path).isSome := by
  rw [Bool.eq_iff_iff, isSome_find?_iff, isSome_find?_iff, h.files]

theorem SamePaths.isDirectory {before after : Store} (h : SamePaths before after) (path : List Text) :
    after.isDirectory path = before.isDirectory path := by
  have hFiles (s : Store) : s.files.any (fun f => path.isPrefixOf f.1) =
      (s.files.map Prod.fst).any fun p => path.isPrefixOf p := by
    rw [List.any_map]
    rfl
  rw [Store.isDirectory, Store.isDirectory, h.directories, hFiles, hFiles, h.files]

theorem SamePaths.walk {before after : Store} (h : SamePaths before after) (directory names : List Text) :
    after.walk directory names = before.walk directory names := by
  induction names generalizing directory with
  | nil => rfl
  | cons name rest ih => simp only [Store.walk, ih, h.isSome_find?, h.isDirectory]

theorem SamePaths.locate {before after : Store} (h : SamePaths before after) (name : Text) :
    after.locate name = before.locate name := by
  rw [Store.locate, Store.locate, h.walk]

theorem isSome_find?_of_walk {s : Store} {directory names path : List Text}
    (h : s.walk directory names = .ok path) : (s.find? path).isSome = true := by
  induction names generalizing directory with
  | nil => cases h
  | cons name rest ih =>
    rw [Store.walk] at h
    split at h
    · exact ih h
    · split at h
      · split at h
        · cases h
        · exact ih h
      · dsimp only at h
        split at h
        next hFile =>
          split at h
          · cases h
            exact hFile
          · cases h
        next =>
          split at h
          · exact ih h
          · cases h

theorem isSome_find?_of_locate {s : Store} {name : Text} {path : List Text}
    (h : s.locate name = .ok path) : (s.find? path).isSome = true := by
  rw [Store.locate] at h
  split at h
  · split at h <;> cases h
  · exact isSome_find?_of_walk h

theorem text?_of_locate {s : Store} {name : Text} {path : List Text} {content : FileContent}
    (h : s.locate name = .ok path) (hContent : s.find? path = some content) :
    s.text? name = content.text? := by
  simp [text?, Store.read, h, hContent, bind, Except.bind, pure, Except.pure]

theorem text?_of_locate_error {s : Store} {name : Text} {fault : FileFault}
    (h : s.locate name = .error fault) : s.text? name = .error fault := by
  simp [text?, Store.read, h, bind, Except.bind]

theorem text?_eq_ok_iff {s : Store} {name t : Text} : s.text? name = .ok t ↔
    ∃ path, s.locate name = .ok path ∧ s.find? path = some (.text t) := by
  constructor
  · intro h
    cases hLocate : s.locate name with
    | error fault =>
      rw [text?_of_locate_error hLocate] at h
      cases h
    | ok path =>
      obtain ⟨content, hContent⟩ := Option.isSome_iff_exists.mp (isSome_find?_of_locate hLocate)
      rw [text?_of_locate hLocate hContent] at h
      cases content with
      | text u =>
        cases h
        exact ⟨path, rfl, hContent⟩
      | binary bytes => cases h
  · rintro ⟨path, hLocate, hContent⟩
    rw [text?_of_locate hLocate hContent]
    rfl

/-- Why the file that a name leads to cannot be read, if it cannot. -/
def fault? (s : Store) (name : Text) : Option FileFault :=
  match s.text? name with
  | .error fault => some fault
  | .ok _ => none

theorem fault?_eq_none_iff {s : Store} {name : Text} : s.fault? name = none ↔ ∃ t, s.text? name = .ok t := by
  rw [fault?]
  cases s.text? name with
  | error fault => simp
  | ok t => simp

theorem fault?_eq_some_iff {s : Store} {name : Text} {fault : FileFault} :
    s.fault? name = some fault ↔ s.text? name = .error fault := by
  rw [fault?]
  cases s.text? name with
  | error fault' => simp
  | ok t => simp

/-! ## Writing -/

theorem samePaths_put (s : Store) (path : List Text) (content : FileContent) :
    SamePaths s (s.put path content) := by
  refine ⟨?_, rfl⟩
  rw [put, List.map_map]
  apply List.map_congr_left
  intro f _
  by_cases hPath : f.1 = path
  · simp [hPath]
  · simp [hPath]

theorem find?_cons (f : List Text × FileContent) (rest : List (List Text × FileContent))
    (directories : List (List Text)) (path : List Text) :
    find? ⟨f :: rest, directories⟩ path =
      if f.1 = path then some f.2 else find? ⟨rest, directories⟩ path := by
  rw [find?, find?, List.find?_cons]
  by_cases hPath : f.1 = path
  · simp [hPath]
  · simp [hPath]

theorem put_cons (f : List Text × FileContent) (rest : List (List Text × FileContent))
    (directories : List (List Text)) (path : List Text) (content : FileContent) :
    put ⟨f :: rest, directories⟩ path content =
      ⟨(if f.1 = path then (path, content) else f) :: (put ⟨rest, directories⟩ path content).files,
        directories⟩ := rfl

theorem find?_put_of_ne {s : Store} {path path' : List Text} (h : path' ≠ path) (content : FileContent) :
    (s.put path content).find? path' = s.find? path' := by
  obtain ⟨files, directories⟩ := s
  induction files with
  | nil => rfl
  | cons f rest ih =>
    have hRest : find? ⟨(put ⟨rest, directories⟩ path content).files, directories⟩ path' =
        find? ⟨rest, directories⟩ path' := ih
    rw [put_cons, find?_cons, find?_cons, hRest]
    by_cases hPath : f.1 = path
    · rw [if_pos hPath, hPath, if_neg h.symm, if_neg h.symm]
    · rw [if_neg hPath]

theorem find?_put_self {s : Store} {path : List Text} (h : (s.find? path).isSome = true)
    (content : FileContent) : (s.put path content).find? path = some content := by
  obtain ⟨files, directories⟩ := s
  induction files with
  | nil => cases h
  | cons f rest ih =>
    rw [find?_cons] at h
    rw [put_cons, find?_cons]
    by_cases hPath : f.1 = path
    · rw [if_pos hPath, if_pos rfl]
    · rw [if_neg hPath] at h
      rw [if_neg hPath, if_neg hPath]
      exact ih h

/-! ## Rewriting files -/

/-- No two of the names lead to the same file. -/
def Distinct (s : Store) (names : List Text) : Prop :=
  names.Pairwise fun name name' => ∀ path, s.locate name = .ok path → s.locate name' ≠ .ok path

theorem distinct_iff {s : Store} {names : List Text} : s.Distinct names ↔
    names.Pairwise fun name name' => ∀ path ∈ (s.locate name).toOption, s.locate name' ≠ .ok path := by
  have hMem (name : Text) (path : List Text) :
      path ∈ (s.locate name).toOption ↔ s.locate name = .ok path := by
    cases s.locate name <;> simp [Except.toOption]
  simp only [Distinct, hMem]

instance (s : Store) (names : List Text) : Decidable (s.Distinct names) := decidable_of_iff' _ distinct_iff

theorem SamePaths.distinct {before after : Store} (h : SamePaths before after) {names : List Text}
    (hDistinct : before.Distinct names) : after.Distinct names := by
  have hLocate : after.locate = before.locate := funext h.locate
  rw [Distinct, hLocate]
  exact hDistinct

/-- The files that the names lead to hold their formatted text, and all else is as before. -/
structure Rewritten (f : Text → Text) (names : List Text) (before after : Store) : Prop where
  paths : SamePaths before after
  listed : ∀ name ∈ names, ∀ t, before.text? name = .ok t → after.text? name = .ok (f t)
  others : ∀ path, (∀ name ∈ names, before.locate name ≠ .ok path) → after.find? path = before.find? path

variable {f : Text → Text} {names : List Text} {before middle after : Store}

theorem Rewritten.nil (f : Text → Text) (s : Store) : Rewritten f [] s s where
  paths := .refl s
  listed _ h := by cases h
  others _ _ := rfl

theorem Rewritten.text?_of_not_listed (h : Rewritten f names before after) {name : Text}
    (hName : ∀ listed ∈ names, ∀ path, before.locate listed = .ok path → before.locate name ≠ .ok path) :
    after.text? name = before.text? name := by
  cases hLocate : before.locate name with
  | error fault =>
    have hAfter : after.locate name = .error fault := by rw [h.paths.locate, hLocate]
    rw [text?_of_locate_error hLocate, text?_of_locate_error hAfter]
  | ok path =>
    have hAfter : after.locate name = .ok path := by rw [h.paths.locate, hLocate]
    obtain ⟨content, hContent⟩ := Option.isSome_iff_exists.mp (isSome_find?_of_locate hLocate)
    have hSame : after.find? path = some content := by
      rw [h.others path fun listed hListed hPath => hName listed hListed path hPath hLocate, hContent]
    rw [text?_of_locate hLocate hContent, text?_of_locate hAfter hSame]

theorem Rewritten.fault?_eq (h : Rewritten f names before after)
    (hReadable : ∀ name ∈ names, before.fault? name = none) (name : Text) :
    after.fault? name = before.fault? name := by
  -- Several names may lead to one file, so what matters is whether a listed name leads to the same one.
  by_cases hListed : ∃ listed ∈ names, ∃ path, before.locate listed = .ok path ∧ before.locate name = .ok path
  · obtain ⟨listed, hMem, path, hPath, hName⟩ := hListed
    obtain ⟨t, hText⟩ := fault?_eq_none_iff.mp (hReadable listed hMem)
    have hBefore : before.text? name = .ok t := by
      rw [← hText, text?, text?, Store.read, Store.read, hName, hPath]
    have hAfter : after.text? name = .ok (f t) := by
      rw [← h.listed listed hMem t hText, text?, text?, Store.read, Store.read, h.paths.locate,
        h.paths.locate, hName, hPath]
    rw [fault?_eq_none_iff.mpr ⟨t, hBefore⟩, fault?_eq_none_iff.mpr ⟨f t, hAfter⟩]
  · have hText : after.text? name = before.text? name := by
      apply h.text?_of_not_listed
      intro listed hMem path hPath hName
      exact hListed ⟨listed, hMem, path, hPath, hName⟩
    rw [fault?, fault?, hText]

theorem Rewritten.singleton_of_eq {s : Store} {name t : Text} (h : s.text? name = .ok t) (hf : f t = t) :
    Rewritten f [name] s s where
  paths := .refl s
  listed name' hName u hText := by
    cases List.mem_singleton.mp hName
    rw [h] at hText
    cases hText
    rw [h, hf]
  others _ _ := rfl

theorem Rewritten.singleton_put {s : Store} {name t : Text} {path : List Text}
    (hLocate : s.locate name = .ok path) (h : s.text? name = .ok t) :
    Rewritten f [name] s (s.put path (.text (f t))) where
  paths := samePaths_put s path _
  listed name' hName u hText := by
    cases List.mem_singleton.mp hName
    rw [h] at hText
    cases hText
    have hAfter : (s.put path (.text (f t))).locate name = .ok path := by
      rw [(samePaths_put s path _).locate, hLocate]
    exact text?_of_locate hAfter (find?_put_self (isSome_find?_of_locate hLocate) _)
  others path' hOther := by
    apply find?_put_of_ne
    rintro rfl
    exact hOther name (List.mem_singleton_self name) hLocate

theorem Rewritten.cons {name : Text} (hFirst : Rewritten f [name] before middle)
    (hRest : Rewritten f names middle after) (hDistinct : before.Distinct (name :: names)) :
    Rewritten f (name :: names) before after := by
  obtain ⟨hName, _⟩ := List.pairwise_cons.mp hDistinct
  refine ⟨hFirst.paths.trans hRest.paths, ?_, ?_⟩
  · intro listed hListed t hText
    rcases List.mem_cons.mp hListed with rfl | hLater
    · have hMiddle := hFirst.listed listed (List.mem_singleton_self listed) t hText
      rw [hRest.text?_of_not_listed, hMiddle]
      intro later hLater path hPath hSame
      rw [hFirst.paths.locate] at hPath hSame
      exact hName later hLater path hSame hPath
    · apply hRest.listed listed hLater
      rw [hFirst.text?_of_not_listed, hText]
      intro first hSingle path hPath
      cases List.mem_singleton.mp hSingle
      exact hName listed hLater path hPath
  · intro path hOther
    obtain ⟨hNotFirst, hNotLater⟩ := List.forall_mem_cons.mp hOther
    rw [hRest.others path, hFirst.others path]
    · exact List.forall_mem_singleton.mpr hNotFirst
    · intro later hLater
      rw [hFirst.paths.locate]
      exact hNotLater later hLater

/-! ## Changed files -/

/-- The file that a name leads to, if formatting changes it. -/
def stale? (s : Store) (f : Text → Text) (name : Text) : Option (List Text) :=
  match s.locate name, s.text? name with
  | .ok path, .ok t => if f t = t then none else some path
  | _, _ => none

/-- The files whose content is not the same in two stores. -/
def changed (before after : Store) : List (List Text) :=
  (before.files.map Prod.fst).dedup.filter fun path => before.find? path ≠ after.find? path

theorem stale?_eq_some_iff {s : Store} {name : Text} {path : List Text} : s.stale? f name = some path ↔
    ∃ t, s.locate name = .ok path ∧ s.find? path = some (.text t) ∧ f t ≠ t := by
  rw [stale?]
  constructor
  · intro h
    split at h
    next path' t hLocate hText =>
      split at h
      · cases h
      next hStale =>
        cases h
        obtain ⟨path', hPath, hContent⟩ := text?_eq_ok_iff.mp hText
        cases hLocate.symm.trans hPath
        exact ⟨t, hLocate, hContent, hStale⟩
    · cases h
  · rintro ⟨t, hLocate, hContent, hStale⟩
    have hText : s.text? name = .ok t := text?_eq_ok_iff.mpr ⟨path, hLocate, hContent⟩
    rw [hLocate, hText]
    exact if_neg hStale

theorem nodup_filterMap_stale? {s : Store} (h : s.Distinct names) : (names.filterMap (s.stale? f)).Nodup := by
  apply List.pairwise_filterMap.mpr
  refine List.Pairwise.imp ?_ h
  intro name name' hApart path hPath path' hPath' hSame
  obtain ⟨t, hLocate, _⟩ := stale?_eq_some_iff.mp hPath
  obtain ⟨t', hLocate', _⟩ := stale?_eq_some_iff.mp hPath'
  rw [← hSame] at hLocate'
  exact hApart path hLocate hLocate'

theorem Rewritten.changed_perm (h : Rewritten f names before after)
    (hReadable : ∀ name ∈ names, before.fault? name = none) (hDistinct : before.Distinct names) :
    (before.changed after).Perm (names.filterMap (before.stale? f)) := by
  have hListed {name t path} (hName : name ∈ names) (hText : before.text? name = .ok t)
      (hLocate : before.locate name = .ok path) : after.find? path = some (.text (f t)) := by
    obtain ⟨path', hPath, hContent⟩ := text?_eq_ok_iff.mp (h.listed name hName t hText)
    rw [h.paths.locate, hLocate] at hPath
    cases hPath
    exact hContent
  refine (List.perm_ext_iff_of_nodup ((List.nodup_dedup _).filter _) (nodup_filterMap_stale? hDistinct)).mpr ?_
  intro path
  rw [List.mem_filter, List.mem_dedup, List.mem_filterMap, decide_eq_true_iff, ← isSome_find?_iff]
  constructor
  · rintro ⟨_, hChanged⟩
    have hSome : ∃ name ∈ names, before.locate name = .ok path := by
      by_contra hNone
      have hNotListed : ∀ name ∈ names, before.locate name ≠ .ok path :=
        fun name hName hLocate => hNone ⟨name, hName, hLocate⟩
      exact hChanged (h.others path hNotListed).symm
    obtain ⟨name, hName, hLocate⟩ := hSome
    obtain ⟨t, hText⟩ := fault?_eq_none_iff.mp (hReadable name hName)
    obtain ⟨path', hPath, hContent⟩ := text?_eq_ok_iff.mp hText
    cases hLocate.symm.trans hPath
    refine ⟨name, hName, stale?_eq_some_iff.mpr ⟨t, hLocate, hContent, ?_⟩⟩
    intro hFormatted
    rw [hListed hName hText hLocate, hContent, hFormatted] at hChanged
    exact hChanged rfl
  · rintro ⟨name, hName, hStale⟩
    obtain ⟨t, hLocate, hContent, hNe⟩ := stale?_eq_some_iff.mp hStale
    have hText : before.text? name = .ok t := text?_eq_ok_iff.mpr ⟨path, hLocate, hContent⟩
    refine ⟨by rw [hContent]; rfl, ?_⟩
    rw [hListed hName hText hLocate, hContent]
    intro hSame
    exact hNe (FileContent.text.inj (Option.some.inj hSame)).symm

end MarkdownLists.CommandLine.Store
