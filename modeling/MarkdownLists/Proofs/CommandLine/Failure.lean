import MarkdownLists.Proofs.CommandLine.Run

/-! # Runs that fail

A run stops at the first thing that it cannot read or use, and tells of nothing else. What it has rewritten before
stays rewritten, and all other files are as before.
-/

namespace MarkdownLists.CommandLine
set_option autoImplicit false

namespace Store

/-- The first thing that a command cannot read or use. -/
def failure? (s : Store) (notices : Notices) (input : FileContent) (c : Command) : Option RunError :=
  match s.options notices c with
  | .error e => some e
  | .ok _ =>
    if c.files.isEmpty then
      match input.text? with
      | .error fault => some (.readingInput fault)
      | .ok _ => none
    else c.files.findSome? fun name => (s.fault? name).map (.reading name)

/-- The names before the first one whose file cannot be read. -/
def readable (s : Store) (names : List Text) : List Text :=
  names.takeWhile fun name => (s.fault? name).isNone

variable {s : Store} {notices : Notices} {input : FileContent} {c : Command} {e : RunError}

theorem failure?_cases (h : s.failure? notices input c = some e) : s.options notices c = .error e ∨
    ∃ o, s.options notices c = .ok o ∧
      ((c.files = [] ∧ ∃ fault, input.text? = .error fault ∧ e = .readingInput fault) ∨
        ∃ front name rest fault, c.files = front ++ name :: rest ∧ (∀ other ∈ front, s.fault? other = none) ∧
          s.fault? name = some fault ∧ e = .reading name fault) := by
  rw [failure?] at h
  cases hOptions : s.options notices c with
  | error e' =>
    rw [hOptions] at h
    cases h
    exact .inl rfl
  | ok o =>
    refine .inr ⟨o, rfl, ?_⟩
    rw [hOptions] at h
    dsimp only at h
    split at h
    next hEmpty =>
      left
      refine ⟨List.isEmpty_iff.mp hEmpty, ?_⟩
      cases hInput : input.text? with
      | error fault =>
        rw [hInput] at h
        cases h
        exact ⟨fault, rfl, rfl⟩
      | ok t =>
        rw [hInput] at h
        cases h
    next =>
      right
      obtain ⟨front, name, rest, hSplit, hName, hFront⟩ := List.findSome?_eq_some_iff.mp h
      obtain ⟨fault, hFault, rfl⟩ := Option.map_eq_some_iff.mp hName
      refine ⟨front, name, rest, fault, hSplit, ?_, hFault, rfl⟩
      intro other hOther
      exact Option.map_eq_none_iff.mp (hFront other hOther)

theorem readable_append {front rest : List Text} {name : Text} {fault : FileFault}
    (hFront : ∀ other ∈ front, s.fault? other = none) (hName : s.fault? name = some fault) :
    s.readable (front ++ name :: rest) = front := by
  have hReadable : ∀ other ∈ front, (s.fault? other).isNone = true := by
    intro other hOther
    rw [hFront other hOther]
    rfl
  rw [readable, List.takeWhile_append_of_pos hReadable, List.takeWhile_cons_of_neg (by simp [hName]),
    List.append_nil]

theorem run_formatInput_of_error {fault : FileFault} (h : input.text? = .error fault) (f : Text → Text)
    (check : Bool) (s : Store) :
    (formatInput (environment input) f check).run s = (.failed (.readingInput fault), s) := by
  have hInput : ((environment input).input).run s = (input, s) := rfl
  rw [formatInput, run_bind_of hInput, h]
  rfl

end Store

variable {s : Store} {notices : Notices} {input : FileContent} {c : Command} {e : RunError}

theorem Command.runIn_of_failure (format : Options → Text → Text)
    (hFailure : s.failure? notices input c = some e) :
    ∃ after, c.runIn notices format input s = (.failed e, after) ∧
      (c.check = true ∨ c.files = [] ∨ (∃ e', s.options notices c = .error e') → after = s) ∧
      ∀ o, s.options notices c = .ok o → c.check = false → s.Distinct c.files →
        s.Rewritten (format o) (s.readable c.files) after := by
  obtain hOptions | ⟨o, hOptions, hInput | hName⟩ := Store.failure?_cases hFailure
  · refine ⟨s, runIn_of_options_error hOptions format input, fun _ => rfl, ?_⟩
    intro o hUsed
    rw [hOptions] at hUsed
    cases hUsed
  · obtain ⟨hFiles, fault, hFault, rfl⟩ := hInput
    refine ⟨s, ?_, fun _ => rfl, ?_⟩
    · rw [runIn_input hOptions hFiles, Store.run_formatInput_of_error hFault]
    · intro o' _ _ _
      rw [hFiles]
      exact .nil (format o') s
  · obtain ⟨front, name, rest, fault, hFiles, hFront, hFault, rfl⟩ := hName
    have hSome : c.files ≠ [] := by simp [hFiles]
    rw [runIn_files hOptions hSome, hFiles, Store.readable_append hFront hFault]
    cases hCheck : c.check with
    | true =>
      refine ⟨s, ?_, fun _ => rfl, fun _ _ hRewrite => nomatch hRewrite⟩
      have hName : s.text? name = .error fault := Store.fault?_eq_some_iff.mp hFault
      rw [Store.run_formatFiles_check input (format o) hFront, Store.run_formatFiles_of_error hName]
    | false =>
      obtain ⟨after, changed, hRewritten, hFaults, hRun⟩ :=
        Store.run_formatFiles_rewrite input (format o) hFront 0 (name :: rest)
      have hAfter : after.text? name = .error fault := by
        rw [← Store.fault?_eq_some_iff, hFaults, hFault]
      refine ⟨after, ?_, ?_, ?_⟩
      · rw [hRun, Store.run_formatFiles_of_error hAfter]
      · rintro (hTrue | hNone | ⟨e', hError⟩)
        · cases hTrue
        · cases front <;> cases hNone
        · rw [hOptions] at hError
          cases hError
      · intro o' hUsed _ hDistinct
        rw [hOptions] at hUsed
        cases hUsed
        exact hRewritten (List.pairwise_append.mp hDistinct).1

/-- What a command line shows on a store, and the store after it. -/
def runIn (args : List Text) (notices : Notices) (format : Options → Text → Text) (input : FileContent)
    (s : Store) : Outcome × Store :=
  (run (Store.environment input) notices format args).run s

theorem runIn_of_parse? {args : List Text} (h : Request.parse? args = some (.run c))
    (format : Options → Text → Text) :
    runIn args notices format input s = c.runIn notices format input s := by
  rw [runIn, run, h]
  rfl

/-- A run that cannot read or use something ends with status one and tells of the first such thing only. Nothing
is rewritten by a check, from standard input or without options, and else only what comes before that thing. -/
theorem runIn_failed {args : List Text} (hArgs : Request.parse? args = some (.run c))
    (format : Options → Text → Text) (hFailure : s.failure? notices input c = some e) :
    ∃ after, runIn args notices format input s =
        (⟨1, [], "Error: ".toList ++ e.message ++ ['\n']⟩, after) ∧
      (c.check = true ∨ c.files = [] ∨ (∃ e', s.options notices c = .error e') → after = s) ∧
      ∀ o, s.options notices c = .ok o → c.check = false → s.Distinct c.files →
        s.Rewritten (format o) (s.readable c.files) after := by
  rw [runIn_of_parse? hArgs]
  exact Command.runIn_of_failure format hFailure

/-- Two texts of stars, and a directory. -/
def Store.starsAndDirectory : Store :=
  ⟨[([['a']], .text ['*']), ([['b']], .text ['*', '*']), ([['d'], ['x']], .binary [255])], []⟩

/-- The directory comes between the two texts. -/
theorem runIn_failed_directory :
    Request.parse? [['a'], ['d'], "--number".toList, ['b']] =
        some (.run { files := [['a'], ['d'], ['b']], number := true }) ∧
      Store.starsAndDirectory.failure? default (.text [])
          { files := [['a'], ['d'], ['b']], number := true } =
        some (.reading ['d'] .isDirectory) ∧
      ∃ after, runIn [['a'], ['d'], "--number".toList, ['b']] default (fun _ t => t.drop 1) (.text [])
          Store.starsAndDirectory =
          (⟨1, [], "Error: reading d: Is a directory (os error 21)\n".toList⟩, after) ∧
        after.text? ['a'] = .ok [] ∧ after.text? ['b'] = .ok ['*', '*'] := by
  have hArgs : Request.parse? [['a'], ['d'], "--number".toList, ['b']] =
      some (.run { files := [['a'], ['d'], ['b']], number := true }) := by decide
  have hFailure : Store.starsAndDirectory.failure? default (.text [])
      { files := [['a'], ['d'], ['b']], number := true } = some (.reading ['d'] .isDirectory) := by decide
  obtain ⟨after, hRun, _, hFiles⟩ := runIn_failed hArgs (fun _ t => t.drop 1) hFailure
  have hReadable : Store.starsAndDirectory.readable [['a'], ['d'], ['b']] = [['a']] := by decide
  have hRewritten := hFiles { number := true } rfl rfl (by decide)
  rw [hReadable] at hRewritten
  refine ⟨hArgs, hFailure, after, hRun, hRewritten.listed ['a'] (by decide) ['*'] (by decide), ?_⟩
  rw [hRewritten.text?_of_not_listed]
  · decide
  · intro name hName path hPath hSame
    cases List.mem_singleton.mp hName
    exact absurd (hPath.trans hSame.symm) (by decide)

end MarkdownLists.CommandLine
