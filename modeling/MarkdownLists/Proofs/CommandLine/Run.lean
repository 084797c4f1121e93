import MarkdownLists.CommandLine.Run
import MarkdownLists.Proofs.CommandLine.Store

/-! # Runs on a store

A run on a store first reads its options and then goes through the files in order. A check leaves the store as it
is; without one, the files that come before the first failure are rewritten.
-/

namespace MarkdownLists.CommandLine
set_option autoImplicit false

section
variable {α β : Type} {s s' : Store}

theorem run_bind_of {a : StateM Store α} {k : α → StateM Store β} {x : α} (h : a.run s = (x, s')) :
    (a >>= k).run s = (k x).run s' := by
  change (k (a.run s).1).run (a.run s).2 = _
  rw [h]

end

namespace Store

def options (s : Store) (notices : Notices) (c : Command) : Except RunError Options :=
  match c.optionsFile with
  | none => .ok (c.override {})
  | some path =>
    match s.text? path with
    | .error fault => .error (.readingOptions path fault)
    | .ok t =>
      match Options.ofToml notices.refusal t with
      | .error e => .error (.loadingOptions path e)
      | .ok o => .ok (c.override o)

variable {s : Store} {input : FileContent} {f : Text → Text}

theorem run_readText (s : Store) (input : FileContent) (name : Text) :
    (readText (environment input) name).run s = (s.text? name, s) := rfl

theorem run_resolveOptions (s : Store) (notices : Notices) (input : FileContent) (c : Command) :
    (resolveOptions (environment input) notices c).run s = (s.options notices c, s) := by
  unfold resolveOptions options
  cases c.optionsFile with
  | none => rfl
  | some path =>
    dsimp only
    rw [run_bind_of (run_readText s input path)]
    cases s.text? path with
    | error fault => rfl
    | ok t =>
      dsimp only
      cases Options.ofToml notices.refusal t <;> rfl

theorem run_write {name : Text} {path : List Text} (h : s.locate name = .ok path) (t : Text) :
    ((environment input).write name t).run s = (.ok (), s.put path (.text t)) := by
  have hGet : (get : StateM Store Store).run s = (s, s) := rfl
  simp only [environment]
  rw [run_bind_of hGet, h]
  rfl

variable {name t : Text} {check : Bool}

theorem run_formatFiles_of_error {fault : FileFault} (h : s.text? name = .error fault) (changed : Nat)
    (rest : List Text) : (formatFiles (environment input) f check changed (name :: rest)).run s =
      (.failed (.reading name fault), s) := by
  rw [formatFiles, run_bind_of (run_readText s input name), h]
  rfl

theorem run_formatFiles_of_eq (h : s.text? name = .ok t) (hf : f t = t) (changed : Nat) (rest : List Text) :
    (formatFiles (environment input) f check changed (name :: rest)).run s =
      (formatFiles (environment input) f check changed rest).run s := by
  rw [formatFiles, run_bind_of (run_readText s input name), h]
  dsimp only
  rw [if_pos hf]

theorem run_formatFiles_check_of_ne (h : s.text? name = .ok t) (hf : f t ≠ t) (changed : Nat)
    (rest : List Text) : (formatFiles (environment input) f true changed (name :: rest)).run s =
      (formatFiles (environment input) f true (changed + 1) rest).run s := by
  rw [formatFiles, run_bind_of (run_readText s input name), h]
  dsimp only
  rw [if_neg hf, if_pos rfl]

theorem run_formatFiles_of_ne {path : List Text} (hLocate : s.locate name = .ok path)
    (h : s.text? name = .ok t) (hf : f t ≠ t) (changed : Nat) (rest : List Text) :
    (formatFiles (environment input) f false changed (name :: rest)).run s =
      (formatFiles (environment input) f false (changed + 1) rest).run (s.put path (.text (f t))) := by
  rw [formatFiles, run_bind_of (run_readText s input name), h]
  dsimp only
  rw [if_neg hf, if_neg Bool.false_ne_true, run_bind_of (run_write hLocate (f t))]

theorem run_formatFiles_check (input : FileContent) (f : Text → Text) {names : List Text}
    (hReadable : ∀ name ∈ names, s.fault? name = none) (changed : Nat) (rest : List Text) :
    (formatFiles (environment input) f true changed (names ++ rest)).run s =
      (formatFiles (environment input) f true
        (changed + (names.filterMap (s.stale? f)).length) rest).run s := by
  induction names generalizing changed with
  | nil => rfl
  | cons name names ih =>
    obtain ⟨hName, hNames⟩ := List.forall_mem_cons.mp hReadable
    obtain ⟨t, hText⟩ := fault?_eq_none_iff.mp hName
    obtain ⟨path, hLocate, hContent⟩ := text?_eq_ok_iff.mp hText
    rw [List.cons_append]
    by_cases hf : f t = t
    · have hFresh : s.stale? f name = none := by
        rw [stale?, hLocate, hText]
        exact if_pos hf
      rw [run_formatFiles_of_eq hText hf, ih hNames, List.filterMap_cons_none hFresh]
    · have hStale : s.stale? f name = some path := stale?_eq_some_iff.mpr ⟨t, hLocate, hContent, hf⟩
      rw [run_formatFiles_check_of_ne hText hf, ih hNames, List.filterMap_cons_some hStale,
        List.length_cons, Nat.add_right_comm, Nat.add_assoc]

theorem run_formatFiles_step (input : FileContent) (f : Text → Text) (hText : s.text? name = .ok t)
    (changed : Nat) (rest : List Text) :
    ∃ middle changed', Rewritten f [name] s middle ∧
      (formatFiles (environment input) f false changed (name :: rest)).run s =
        (formatFiles (environment input) f false changed' rest).run middle := by
  by_cases hf : f t = t
  · exact ⟨s, changed, .singleton_of_eq hText hf, run_formatFiles_of_eq hText hf changed rest⟩
  · obtain ⟨path, hLocate, _⟩ := text?_eq_ok_iff.mp hText
    exact ⟨_, changed + 1, .singleton_put hLocate hText, run_formatFiles_of_ne hLocate hText hf changed rest⟩

-- That the files are distinct matters only for what they hold in the end, not for which of them can be read.
theorem run_formatFiles_rewrite (input : FileContent) (f : Text → Text) {names : List Text}
    (hReadable : ∀ name ∈ names, s.fault? name = none) (changed : Nat) (rest : List Text) :
    ∃ after changed', (s.Distinct names → Rewritten f names s after) ∧
      (∀ name, after.fault? name = s.fault? name) ∧
      (formatFiles (environment input) f false changed (names ++ rest)).run s =
        (formatFiles (environment input) f false changed' rest).run after := by
  induction names generalizing s changed with
  | nil => exact ⟨s, changed, fun _ => .nil f s, fun _ => rfl, rfl⟩
  | cons name names ih =>
    obtain ⟨hName, hNames⟩ := List.forall_mem_cons.mp hReadable
    obtain ⟨t, hText⟩ := fault?_eq_none_iff.mp hName
    obtain ⟨middle, changed₁, hFirst, hStep⟩ :=
      run_formatFiles_step input f hText changed (names ++ rest)
    have hFaults := hFirst.fault?_eq (List.forall_mem_singleton.mpr hName)
    obtain ⟨after, changed₂, hRest, hFaultsRest, hRun⟩ :=
      ih (fun later hLater => (hFaults later).trans (hNames later hLater)) changed₁
    refine ⟨after, changed₂, ?_, fun other => (hFaultsRest other).trans (hFaults other), hStep.trans hRun⟩
    intro hDistinct
    exact hFirst.cons (hRest (hFirst.paths.distinct (List.pairwise_cons.mp hDistinct).2)) hDistinct

end Store

/-! ## Runs of a command -/

namespace Command

/-- What a command shows on a store, and the store after it. -/
def runIn (c : Command) (notices : Notices) (format : Options → Text → Text) (input : FileContent)
    (s : Store) : Outcome × Store :=
  (c.run (Store.environment input) notices format).run s

variable {c : Command} {s : Store} {o : Options} {notices : Notices}

theorem runIn_of_options_error {e : RunError} (h : s.options notices c = .error e)
    (format : Options → Text → Text) (input : FileContent) :
    c.runIn notices format input s = (.failed e, s) := by
  rw [runIn, Command.run, run_bind_of (Store.run_resolveOptions s notices input c), h]
  rfl

theorem runIn_input (h : s.options notices c = .ok o) (hFiles : c.files = [])
    (format : Options → Text → Text) (input : FileContent) : c.runIn notices format input s =
      (formatInput (Store.environment input) (format o) c.check).run s := by
  rw [runIn, Command.run, run_bind_of (Store.run_resolveOptions s notices input c), h, hFiles]
  rfl

theorem runIn_files (h : s.options notices c = .ok o) (hFiles : c.files ≠ [])
    (format : Options → Text → Text) (input : FileContent) : c.runIn notices format input s =
      (formatFiles (Store.environment input) (format o) c.check 0 c.files).run s := by
  rw [runIn, Command.run, run_bind_of (Store.run_resolveOptions s notices input c), h]
  dsimp only
  rw [if_neg (by simpa using hFiles)]

end Command

end MarkdownLists.CommandLine
