import LetScript.Cli.Session
import LetScript.Proofs.Program
import LetScript.Proofs.Text.Fields
import Mathlib.Data.List.Forall2

/-!
# The verdict on several files

The command `test` goes through its files one after another.  What it prints about a file is laid
down here without the report that the program makes (`FilePrints`): an entry that tells why the file
could not be read or compiled, or one for each line that declares a requirement.

The main result, `perform_test`, says that a file prints the same whether it is tested alone or with
others, and that the exit status and the message count the entries which announce a failure.
-/

namespace LetScript

/-! ### Declared requirements -/

/-- The word by which a line declares a requirement. -/
def Requirement.status : Requirement → Text
  | pass => "Pass"
  | fail => "Fail"

/-- A script with these type errors is as a requirement expects: no error was expected and there is
none, or one was expected and there is one. -/
def Requirement.HoldsFor (r : Requirement) (errors : List TypeError) : Prop :=
  r = .pass ∧ errors = [] ∨ r = .fail ∧ errors ≠ []

/-- A line declares a requirement: behind `##`, its first two words are `Typechecker:` and the
status. -/
def Annotates (line : Text) (r : Requirement) : Prop :=
  ∃ rest more, line = "##" ++ rest ∧ rest.words = ("Typechecker:" : Text) :: r.status :: more

/-- The requirements that some lines declare, in the order of the lines. -/
inductive Annotations : List Text → List Requirement → Prop
  | nil : Annotations [] []
  | declared {line : Text} {r : Requirement} {lines : List Text} {rs : List Requirement}
      (hline : Annotates line r) (hlines : Annotations lines rs) :
      Annotations (line :: lines) (r :: rs)
  | other {line : Text} {lines : List Text} {rs : List Requirement}
      (hline : ∀ r, ¬ Annotates line r) (hlines : Annotations lines rs) :
      Annotations (line :: lines) rs

namespace Directive

lemma ofWords?_eq_requirement_iff {words : List Text} {r : Requirement} :
    ofWords? words = some (.requirement r) ↔
      ∃ more, words = ("Typechecker:" : Text) :: r.status :: more := by
  constructor
  · intro h
    rcases words with _ | ⟨keyword, _ | ⟨status, more⟩⟩
    · cases h
    · simp only [ofWords?] at h
      split_ifs at h <;> cases h
    · simp only [ofWords?] at h
      split_ifs at h with hkeyword hpass hfail
      · cases h
      · cases h
        exact ⟨more, by rw [not_not.1 hkeyword, hpass, Requirement.status]⟩
      · cases h
        exact ⟨more, by rw [not_not.1 hkeyword, hfail, Requirement.status]⟩
      · cases h
  · rintro ⟨more, rfl⟩
    cases r <;> rfl

lemma ofLine?_eq_requirement_iff {line : Text} {r : Requirement} :
    ofLine? line = some (.requirement r) ↔ Annotates line r := by
  simp only [ofLine?, Option.bind_eq_some_iff, Text.dropStart?_eq_some_iff,
    ofWords?_eq_requirement_iff, Annotates, exists_and_left]

/-- The requirements of a script are those that its lines declare. -/
lemma annotations_requirements (lines : List Text) :
    Annotations lines (requirements (lines.filterMap ofLine?)) := by
  induction lines with
  | nil => exact .nil
  | cons line lines ih =>
    -- a line without a directive and one with a warning declare nothing, for the same reason
    have hiff : ∀ r, ofLine? line = some (.requirement r) ↔ Annotates line r := by
      intro r
      exact ofLine?_eq_requirement_iff
    cases hline : ofLine? line with
    | none =>
      rw [hline] at hiff
      rw [List.filterMap_cons_none hline]
      exact .other (fun r => (hiff r).not.1 nofun) ih
    | some d =>
      rw [hline] at hiff
      rw [List.filterMap_cons_some hline]
      cases d with
      | requirement r => exact .declared ((hiff r).1 rfl) ih
      | warning message => exact .other (fun r => (hiff r).not.1 nofun) ih

end Directive

namespace Cli

/-! ### What a file prints -/

/-- The entry for a requirement on a file with these type errors. -/
inductive Judged (file : Text) (errors : List TypeError) (r : Requirement) : Text → Prop
  | pass (h : r.HoldsFor errors) : Judged file errors r ("PASS " ++ file ++ " (" ++ r.text ++ ")\n")
  | fail (h : ¬ r.HoldsFor errors) : Judged file errors r ("FAIL " ++ file ++ " (" ++ r.text ++ ")\n")

/-- The entries for a file. -/
inductive FilePrints (read : FileReader) (s : Settings) (file : Text) : List Text → Prop
  /-- The file cannot be read. -/
  | unreadable {e : FileError} (hread : read file = .error e) :
      FilePrints read s file ["ERROR " ++ file ++ ": " ++ e.text file ++ "\n"]
  /-- The file cannot be compiled. -/
  | rejected {script : Text} {r : Rejection} (hread : read file = .ok script)
      (hcompile : compile s script = .error r) :
      FilePrints read s file ["ERROR " ++ file ++ ": " ++ r.failure.text ++ "\n"]
  /-- The requirements of the file are judged, one by one. -/
  | judged {script : Text} {p : Program} {rs : List Requirement} {entries : List Text}
      (hread : read file = .ok script) (hcompile : compile s script = .ok p)
      (hrs : Annotations script.lines rs)
      (hentries : List.Forall₂ (Judged file p.typeErrors) rs entries) :
      FilePrints read s file entries

/-- Whether an entry announces a failure. -/
def announcesFailure (entry : Text) : Bool :=
  ("ERROR " : Text).bytes.isPrefixOf entry.bytes || ("FAIL " : Text).bytes.isPrefixOf entry.bytes

lemma announcesFailure_text (file : Text) (e : Entry) :
    announcesFailure (e.text file) = e.failed := by
  cases e with
  | error reason => rfl
  | result r passed => cases passed <;> rfl

lemma judged_text (file : Text) (errors : List TypeError) (r : Requirement) :
    Judged file errors r (Entry.text file (.result r (r.isMet errors.length))) := by
  cases r <;> rcases errors with _ | ⟨e, errors⟩
  · exact .pass (.inl ⟨rfl, rfl⟩)
  · exact .fail (by simp [Requirement.HoldsFor])
  · exact .fail (by simp [Requirement.HoldsFor])
  · exact .pass (.inr ⟨rfl, List.cons_ne_nil e errors⟩)

namespace FileReport

variable (read : FileReader) (s : Settings) (file : Text)

/-- The entries of a report, as they are printed. -/
def printed (r : FileReport) : List Text := r.entries.map (Entry.text r.file)

/-- **The report on a file prints what it should.** -/
lemma filePrints_of : FilePrints read s file (FileReport.of read s file).printed := by
  rw [FileReport.of]
  cases hread : read file with
  | error e => exact .unreadable hread
  | ok script =>
    cases hcompile : compile s script with
    | error r =>
      simp only [verify, hcompile]
      exact .rejected hread hcompile
    | ok p =>
      simp only [verify, hcompile]
      have hrs := Directive.annotations_requirements script.lines
      refine .judged hread hcompile hrs ?_
      simp only [printed, Program.verdict, Verdict.of, compile_script hcompile, List.map_map,
        List.forall₂_map_right_iff, Directive.ofScript, List.forall₂_same]
      intro r _
      exact judged_text file p.typeErrors r

lemma failures_eq (r : FileReport) : r.failures = r.printed.countP announcesFailure := by
  rw [failures, printed, List.countP_map]
  apply List.countP_congr
  intro e _
  rw [Function.comp_apply, announcesFailure_text]

end FileReport

/-! ### All files -/

lemma Output.out_append (o o' : Output) : (o ++ o').out = o.out ++ o'.out := rfl

namespace Command

variable (read : FileReader) (s : Settings)

/-- The entries for all files, file by file. -/
def allPrinted (files : List Text) : List (List Text) :=
  files.map fun file => (FileReport.of read s file).printed

namespace Tally

/-- **One more file** appends its entries to what has been printed, and adds to the counter those of
them that announce a failure. -/
lemma add_spec (t : Tally) (file : Text) :
    (t.add read s file).output.out
        = t.output.out ++ Text.concat (FileReport.of read s file).printed ∧
      (t.add read s file).failed
        = t.failed + (FileReport.of read s file).printed.countP announcesFailure := by
  constructor
  · rw [add, Output.out_append]
    rfl
  · rw [add, FileReport.failures_eq]

/-- **Some more files** append the entries of all of them, file by file. -/
lemma foldl_add_spec (files : List Text) (t : Tally) :
    (files.foldl (add read s) t).output.out
        = t.output.out ++ Text.concat ((allPrinted read s files).map .concat) ∧
      (files.foldl (add read s) t).failed
        = t.failed + (allPrinted read s files).flatten.countP announcesFailure := by
  induction files generalizing t with
  | nil => exact ⟨congrArg Text.mk (List.append_nil _).symm, rfl⟩
  | cons file files ih =>
    obtain ⟨hout, hfailed⟩ := add_spec read s t file
    obtain ⟨hrest, hfailed'⟩ := ih (t.add read s file)
    rw [List.foldl_cons, allPrinted, List.map_cons, ← allPrinted]
    constructor
    · rw [hrest, hout, Text.append_assoc, List.map_cons, Text.concat_cons]
    · rw [hfailed', hfailed, Nat.add_assoc, List.flatten_cons, List.countP_append]

end Tally

lemma out_doTest (files : List Text) :
    (doTest read s files).1.out = Text.concat ((allPrinted read s files).map .concat) := by
  cases files with
  | nil => rfl
  | cons file files =>
    rw [doTest, List.isEmpty_cons, if_neg Bool.false_ne_true]
    exact (Tally.foldl_add_spec read s (file :: files) {}).1

/-- How the command ends depends on the number of entries that announce a failure. -/
lemma ending_doTest {files : List Text} (hfiles : files ≠ []) :
    let failures := (allPrinted read s files).flatten.countP announcesFailure
    (doTest read s files).2 = if failures = 0 then .success
      else .failure 1 (Text.ofNat failures ++ " requirement(s) failed") := by
  intro failures
  have hfailed : (files.foldl (Tally.add read s) {}).failed = failures :=
    (Tally.foldl_add_spec read s files {}).2.trans (Nat.zero_add _)
  rw [doTest, if_neg (by simpa using hfiles), ← hfailed]
  rfl

end Command

/-! ### The command line -/

lemma text_failure (n : Nat) : (Ending.failure 1 (Text.ofNat n ++ " requirement(s) failed")).text
    = Text.ofNat n ++ " requirement(s) failed\n" := by
  have hne : (Text.ofNat n ++ " requirement(s) failed" : Text).isEmpty = false := by
    rw [Text.isEmpty, Text.bytes_append, List.isEmpty_eq_false_iff]
    exact List.append_ne_nil_of_right_ne_nil _ (by decide)
  rw [Ending.text, hne, if_neg Bool.false_ne_true, Text.append_assoc]
  rfl

/-- The message of an ending stands behind the log, which is empty unless it is shown. -/
lemma Outcome.exists_stderr_eq (verbose : Bool) (output : Output) (e : Ending) :
    ∃ log, (verbose = false → log = ∅) ∧ (Outcome.of verbose output e).stderr = log ++ e.text := by
  refine ⟨_, ?_, rfl⟩
  rintro rfl
  rfl

/-- Reading the settings prints nothing. -/
lemma out_of_loadSettings {read : FileReader} {path : Text} {started : Output} {s : Settings}
    (h : loadSettings read path = .ok (started, s)) : started.out = ∅ := by
  unfold loadSettings at h
  split at h
  · cases h
    rfl
  · split at h
    · cases h
    · split at h
      · cases h
      · cases h
        rfl

section Test

variable {read : FileReader} {o : Options} {started : Output} {s : Settings}

lemma perform_command (hload : loadSettings read o.config = .ok (started, s)) (c : Command)
    (args : List Text) :
    (Invocation.task o (.command c args)).perform read
      = .of o.verbose (started ++ (c.perform read (s.enable o.switches) args).1)
          (c.perform read (s.enable o.switches) args).2 := by
  simp only [Invocation.perform, hload, Task.perform]

lemma stdout_test (hload : loadSettings read o.config = .ok (started, s)) (files : List Text) :
    ((Invocation.task o (.command .test files)).perform read).stdout
      = Text.concat ((Command.allPrinted read (s.enable o.switches) files).map .concat) := by
  rw [perform_command hload, Outcome.of, Output.out_append, out_of_loadSettings hload,
    Command.perform, Command.out_doTest]
  rfl

/-- **The verdict on several files is made of the verdicts on each of them.**  Once the settings are
read, whatever they are, the command `test` prints for some files what it prints for each of them
alone, in the order of the files: one `ERROR` entry if the file cannot be read or compiled, else one
entry for each requirement that a line declares, in the order of the lines, with `PASS` if the type
errors of the file are as the requirement expects and with `FAIL` if not.  The exit status is 0 if
and only if no entry announces a failure.  Otherwise it is 1, and the message on the standard error
stream, behind the log if that is shown, tells the number of these entries. -/
theorem perform_test (hload : loadSettings read o.config = .ok (started, s)) {files : List Text}
    (hfiles : files ≠ []) :
    let outcome := (Invocation.task o (.command .test files)).perform read
    let alone := fun file => (Invocation.task o (.command .test [file])).perform read
    ∃ printed : List (List Text),
      List.Forall₂ (fun file entries => FilePrints read (s.enable o.switches) file entries ∧
        (alone file).stdout = Text.concat entries) files printed ∧
      outcome.stdout = Text.concat (files.map fun file => (alone file).stdout) ∧
      (outcome.code = 0 ↔ ∀ entry ∈ printed.flatten, announcesFailure entry = false) ∧
      (outcome.code ≠ 0 → outcome.code = 1 ∧ ∃ log, (o.verbose = false → log = ∅) ∧
        outcome.stderr = log ++ (Text.ofNat (printed.flatten.countP announcesFailure)
          ++ " requirement(s) failed\n")) := by
  intro outcome alone
  have halone : ∀ file, (alone file).stdout
      = Text.concat (FileReport.of read (s.enable o.switches) file).printed := by
    intro file
    have hstdout := stdout_test hload [file]
    rw [Command.allPrinted, List.map_singleton, List.map_singleton, Text.concat_cons] at hstdout
    exact hstdout.trans (congrArg Text.mk (List.append_nil _))
  have hending := Command.ending_doTest read (s.enable o.switches) hfiles
  have houtcome := perform_command hload .test files
  rw [Command.perform, hending] at houtcome
  refine ⟨Command.allPrinted read (s.enable o.switches) files, ?_, ?_, ?_⟩
  · rw [Command.allPrinted, List.forall₂_map_right_iff, List.forall₂_same]
    intro file _
    exact ⟨FileReport.filePrints_of read _ file, halone file⟩
  · simp only [outcome, stdout_test hload, halone, Command.allPrinted, List.map_map]
    rfl
  · -- only the number of entries that announce a failure matters from here on
    rw [show outcome = _ from houtcome]
    generalize (Command.allPrinted read (s.enable o.switches) files).flatten = entries
    by_cases hnone : entries.countP announcesFailure = 0
    · have hall : ∀ entry ∈ entries, announcesFailure entry = false := by
        simpa using List.countP_eq_zero.1 hnone
      rw [if_pos hnone]
      exact ⟨iff_of_true rfl hall, fun hcode => absurd rfl hcode⟩
    · have hsome : ¬ ∀ entry ∈ entries, announcesFailure entry = false := by
        intro hall
        exact hnone (List.countP_eq_zero.2 (by simpa using hall))
      rw [if_neg hnone]
      refine ⟨iff_of_false Nat.one_ne_zero hsome, fun _ => ⟨rfl, ?_⟩⟩
      rw [← text_failure]
      exact Outcome.exists_stderr_eq _ _ _

end Test

/-- Three files; one of them cannot be compiled. -/
def mixedFiles : Files :=
  .ofList [("sum", "## Typechecker: Fail\n1 + \"a\"\n## Typechecker: Pass\n"), ("quote", "\""),
    ("plain", "let x = 1\n##  Typechecker:  Pass")]

/-- The files, and one that does not exist. -/
def mixedPaths : List Text := ["sum", "none", "quote", "plain"]

/-- What the flags say that turn the symbol table on. -/
def symbolOptions : Options := ⟨∅, false, { symbolTable := true }⟩

/-- Five entries for four files, and three of them announce a failure. -/
theorem perform_test_mixed :
    let outcome := (Invocation.task symbolOptions (.command .test mixedPaths)).perform mixedFiles.read
    Invocation.ofArgs (("--symbols" : Text) :: ("test" : Text) :: mixedPaths)
      = .task symbolOptions (.command .test mixedPaths) ∧
    loadSettings mixedFiles.read symbolOptions.config = .ok ({}, {}) ∧ mixedPaths ≠ [] ∧
    outcome.stdout = Text.concat (mixedPaths.map fun file =>
      ((Invocation.task symbolOptions (.command .test [file])).perform mixedFiles.read).stdout) ∧
    outcome = ⟨1, "PASS sum (Typechecker: Fail)\nFAIL sum (Typechecker: Pass)\n" ++
      "ERROR none: open none: no such file or directory\n" ++
      "ERROR quote: 1:1 lex error: unclosed string: \nPASS plain (Typechecker: Pass)\n",
      "3 requirement(s) failed\n"⟩ := by
  intro outcome
  have hload : loadSettings mixedFiles.read symbolOptions.config = .ok ({}, {}) := rfl
  have hfiles : mixedPaths ≠ [] := List.cons_ne_nil _ _
  obtain ⟨printed, -, hstdout, -, -⟩ := perform_test hload hfiles
  exact ⟨by decide +kernel, hload, hfiles, hstdout, by decide +kernel⟩

end Cli

end LetScript
