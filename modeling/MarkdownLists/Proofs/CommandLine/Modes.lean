import MarkdownLists.Proofs.CommandLine.Run

/-! # Agreement of the modes

The same options can be used to rewrite files, to check them, or to format standard input. A check announces just
the files that a run without it would change, and these then hold what standard input would have been formatted to.
-/

namespace MarkdownLists.CommandLine
set_option autoImplicit false

/-- The number of files in a report; no report stands for none. -/
def Outcome.reported (r : Outcome) : Nat := Nat.ofDigitChars 10 (r.errors.takeWhile Char.isDigit) 0

theorem Outcome.checked_of_ne_zero {n : Nat} (h : n ≠ 0) : checked n =
    ⟨1, [], Nat.toDigits 10 n ++ " file(s) would be reformatted\n".toList⟩ := if_neg h

theorem Outcome.exit_checked (n : Nat) : (checked n).exit = if n = 0 then 0 else 1 := by
  by_cases h : n = 0
  · rw [if_pos h, h]
    rfl
  · rw [if_neg h, checked_of_ne_zero h]

theorem Outcome.output_checked (n : Nat) : (checked n).output = [] := by
  by_cases h : n = 0
  · rw [h]
    rfl
  · rw [checked_of_ne_zero h]

theorem Outcome.errors_checked_eq_nil_iff (n : Nat) : (checked n).errors = [] ↔ n = 0 := by
  constructor
  · intro hErrors
    by_contra h
    rw [checked_of_ne_zero h, List.append_eq_nil_iff] at hErrors
    exact Nat.toDigits_ne_nil hErrors.1
  · rintro rfl
    rfl

theorem Outcome.reported_checked (n : Nat) : (checked n).reported = n := by
  by_cases h : n = 0
  · subst h
    rfl
  · have hDigits : ∀ c ∈ Nat.toDigits 10 n, c.isDigit = true := by
      intro c hc
      exact Nat.isDigit_of_mem_toDigits (by decide) (by decide) hc
    have hRest : (" file(s) would be reformatted\n".toList).takeWhile Char.isDigit = [] := by decide
    rw [checked_of_ne_zero h, reported, List.takeWhile_append_of_pos hDigits, hRest, List.append_nil]
    exact Nat.ofDigitChars_toDigits (by decide) (by decide)

namespace Command

/-- What a run of a command and its check on the same store have to do with each other, and with standard input.
A command without files formats standard input, so that only the others rewrite and check files. -/
structure Agrees (c : Command) (notices : Notices) (format : Options → Text → Text) (o : Options) (input : FileContent)
    (before after : Store) (report : Outcome) : Prop where
  rewrite : c.files ≠ [] → { c with check := false }.runIn notices format input before = (⟨0, [], []⟩, after)
  check : c.files ≠ [] → { c with check := true }.runIn notices format input before = (report, before)
  output : report.output = []
  exit : report.exit = if before.changed after = [] then 0 else 1
  reported : report.reported = (before.changed after).length
  silent : report.errors = [] ↔ before.changed after = []
  stdin : ∀ t, { c with files := [], check := false }.runIn notices format (.text t) before =
    (⟨0, format o t, []⟩, before)
  stdinCheck : ∀ t, { c with files := [], check := true }.runIn notices format (.text t) before =
    (⟨if format o t = t then 0 else 1, [], []⟩, before)
  files : before.Rewritten (format o) c.files after

variable {c : Command} {s : Store} {o : Options} {notices : Notices}

theorem runIn_stdin (format : Options → Text → Text) (h : s.options notices c = .ok o) (t : Text) :
    { c with files := [], check := false }.runIn notices format (.text t) s = (⟨0, format o t, []⟩, s) := by
  have hOptions : s.options notices { c with files := [], check := false } = .ok o := h
  rw [runIn_input hOptions rfl]
  rfl

theorem runIn_stdin_check (format : Options → Text → Text) (h : s.options notices c = .ok o) (t : Text) :
    { c with files := [], check := true }.runIn notices format (.text t) s =
      (⟨if format o t = t then 0 else 1, [], []⟩, s) := by
  have hOptions : s.options notices { c with files := [], check := true } = .ok o := h
  rw [runIn_input hOptions rfl]
  by_cases hText : format o t = t
  · rw [if_pos hText]
    change ((if format o t = t then Outcome.success else _), s) = _
    rw [if_pos hText]
    rfl
  · rw [if_neg hText]
    change ((if format o t = t then _ else Outcome.mk 1 [] []), s) = _
    rw [if_neg hText]

theorem agrees (format : Options → Text → Text) (input : FileContent) (hOptions : s.options notices c = .ok o)
    (hReadable : ∀ name ∈ c.files, s.fault? name = none) (hDistinct : s.Distinct c.files) :
    ∃ after report, c.Agrees notices format o input s after report := by
  have hRewriteOptions : s.options notices { c with check := false } = .ok o := hOptions
  have hCheckOptions : s.options notices { c with check := true } = .ok o := hOptions
  obtain ⟨after, changed, hRewritten, _, hRewrite⟩ :=
    Store.run_formatFiles_rewrite input (format o) hReadable 0 []
  have hCheck := Store.run_formatFiles_check input (format o) hReadable 0 []
  have hFilesRewritten := hRewritten hDistinct
  have hCount := (hFilesRewritten.changed_perm hReadable hDistinct).length_eq
  rw [List.append_nil] at hRewrite hCheck
  rw [Nat.zero_add, ← hCount] at hCheck
  refine ⟨after, .checked (s.changed after).length, ?_, ?_, ?_, ?_, ?_, ?_, ?_, ?_, ?_⟩
  · intro hFiles
    rw [runIn_files hRewriteOptions hFiles]
    exact hRewrite
  · intro hFiles
    rw [runIn_files hCheckOptions hFiles]
    exact hCheck
  · exact Outcome.output_checked _
  · simp only [Outcome.exit_checked, List.length_eq_zero_iff]
  · exact Outcome.reported_checked _
  · rw [Outcome.errors_checked_eq_nil_iff, List.length_eq_zero_iff]
  · exact runIn_stdin format hOptions
  · exact runIn_stdin_check format hOptions
  · exact hFilesRewritten

end Command

/-- Replaces the stars of a text by the bullet. -/
def starsToBullets (o : Options) (t : Text) : Text := t.map fun c => if c = '*' then o.bullet.char else c

/-- Two files, of which the first has a star, and a third one that is not text. -/
def Store.oneStar : Store :=
  ⟨[([['a']], .text ['*', ' ', 'x']), ([['d'], ['b']], .text ['+', '\n']), ([['c']], .binary [255])], []⟩

def Command.plus : Command := { files := [['a'], ['d', '/', 'b']], bullet := some .plus }

theorem Command.agrees_plus : Store.oneStar.options default plus = .ok { bullet := .plus } ∧
    (∀ name ∈ plus.files, Store.oneStar.fault? name = none) ∧ Store.oneStar.Distinct plus.files ∧
    ∃ after report, plus.Agrees default starsToBullets { bullet := .plus } (.text []) Store.oneStar after report := by
  have hReadable : ∀ name ∈ plus.files, Store.oneStar.fault? name = none := by decide
  have hDistinct : Store.oneStar.Distinct plus.files := by decide
  exact ⟨rfl, hReadable, hDistinct, agrees starsToBullets (.text []) rfl hReadable hDistinct⟩

end MarkdownLists.CommandLine
