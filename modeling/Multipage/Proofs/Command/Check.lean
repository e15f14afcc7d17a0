/-
# Multipage.Proofs.Command.Check -- files are checked one by one

What becomes of a file is a matter of its path, of what reading this path gives, and of the settings
and renderers (`Command.Becomes`).  Other files have no part in it, and neither have other paths.

* `Command.Workshop.checkFile_eq_iff`: what is reported on a file is what becomes of it, and that
  is one thing.
* `Command.FailsBy`, `Command.label_eq_iff`: the label of an error tells at which of the stages the
  file failed, the kind by its path, reading, or compiling.
* `Command.Checks`, `Command.checks_reportOutcomes`: a report on outcomes is the lines on the files
  and then the number of those that failed, or that of all of them when none did.

`Command.report_check` puts them together for every host, be its renderers and its reader of
configurations what they may.
-/
import Multipage.Command.Basic
import Multipage.File.Tree
import Multipage.Proofs.Resource.Compilation
import Multipage.Proofs.Source

namespace Multipage.Command

set_option autoImplicit false

/-! ## One file -/

/-- What becomes of the file at `path`, where reading gives `content`. -/
inductive Becomes (registry : Registry) (settings : Settings) (path : Text)
    (content : Except FileFault Bytes) : CheckOutcome → Prop where
  | notDynamic (noKind : Kind.ofPath? path = none) :
      Becomes registry settings path content (.error (.notDynamic path))
  | unreadable {kind : Kind} {fault : FileFault} (dynamic : Kind.ofPath? path = some kind)
      (unreadable : content = .error fault) :
      Becomes registry settings path content (.error (.source (.unreadable path fault)))
  | illFormed {kind : Kind} {raw : Bytes} {page : Nat} (dynamic : Kind.ofPath? path = some kind)
      (readable : content = .ok raw)
      (first : Source.FirstIllFormed (raw.splitOn Source.pageBreakByte) page) :
      Becomes registry settings path content (.error (.source (.encoding path page)))
  | refused {kind : Kind} {text : Text} {error : CompileError}
      (dynamic : Kind.ofPath? path = some kind) (readable : content = .ok (Utf8.encode text))
      (refused :
        Resource.compile kind ⟨path, text.splitOn pageBreak⟩ registry settings = .error error) :
      Becomes registry settings path content (.error (.compile error))
  | compiled {kind : Kind} {text : Text} {resource : Resource}
      (dynamic : Kind.ofPath? path = some kind) (readable : content = .ok (Utf8.encode text))
      (compiled :
        Resource.compile kind ⟨path, text.splitOn pageBreak⟩ registry settings = .ok resource) :
      Becomes registry settings path content (.ok (kind, resource.availableTypes))

section Becomes

variable {registry : Registry} {settings : Settings} {path : Text}
  {content : Except FileFault Bytes}

variable (registry settings path content) in
theorem exists_becomes : ∃ outcome, Becomes registry settings path content outcome := by
  cases dynamic : Kind.ofPath? path with
  | none => exact ⟨_, .notDynamic dynamic⟩
  | some kind =>
      cases readable : content with
      | error fault => exact ⟨_, .unreadable dynamic rfl⟩
      | ok raw =>
          by_cases isText : ∃ text, Utf8.encode text = raw
          · obtain ⟨text, rfl⟩ := isText
            cases compiled :
                Resource.compile kind ⟨path, text.splitOn pageBreak⟩ registry settings with
            | error error => exact ⟨_, .refused dynamic rfl compiled⟩
            | ok resource => exact ⟨_, .compiled dynamic rfl compiled⟩
          · obtain ⟨page, first⟩ :=
              (Source.exists_firstIllFormed_iff raw).mpr (not_exists.mp isText)
            exact ⟨_, .illFormed dynamic rfl first⟩

namespace Workshop

variable {workshop : Workshop}

theorem readSource_of_ok {kind : Kind} {text : Text} (dynamic : Kind.ofPath? path = some kind)
    (readable : workshop.view.read path = .ok (Utf8.encode text)) :
    workshop.readSource path = .ok (kind, ⟨path, text.splitOn pageBreak⟩) := by
  have made := (Source.ofBytes_eq_ok_iff path (Utf8.encode text) _).mpr ⟨text, rfl, rfl⟩
  simp only [readSource, dynamic, Source.read, readable, made]

/-- Of a file that gives no source nothing is compiled. -/
theorem checkFile_of_unread {error : FileError} (unread : workshop.readSource path = .error error) :
    workshop.checkFile path = .error error := by
  rw [checkFile, compile, unread]
  rfl

theorem checkFile_of_read {kind : Kind} {source : Source}
    (read : workshop.readSource path = .ok (kind, source)) :
    workshop.checkFile path =
      match Resource.compile kind source workshop.registry workshop.settings with
      | .error error => .error (.compile error)
      | .ok resource => .ok (kind, resource.availableTypes) := by
  simp only [checkFile, compile, read]
  cases compiled : Resource.compile kind source workshop.registry workshop.settings with
  | error error => rfl
  | ok resource =>
      show Except.ok (resource.kind, resource.availableTypes) = Except.ok (kind, _)
      rw [Resource.kind_of_compile compiled]

theorem checkFile_of_becomes {outcome : CheckOutcome}
    (becomes :
      Becomes workshop.registry workshop.settings path (workshop.view.read path) outcome) :
    workshop.checkFile path = outcome := by
  cases becomes with
  | notDynamic noKind =>
      apply checkFile_of_unread
      simp only [readSource, noKind]
  | unreadable dynamic unreadable =>
      apply checkFile_of_unread
      simp only [readSource, dynamic, Source.read, unreadable]
  | illFormed dynamic readable first =>
      have made := (Source.ofBytes_eq_error_iff path _ _).mpr ⟨_, first, rfl⟩
      apply checkFile_of_unread
      simp only [readSource, dynamic, Source.read, readable, made]
  | refused dynamic readable refused =>
      rw [checkFile_of_read (readSource_of_ok dynamic readable), refused]
  | compiled dynamic readable compiled =>
      rw [checkFile_of_read (readSource_of_ok dynamic readable), compiled]

/-- What is reported on a file is what becomes of it. -/
theorem checkFile_eq_iff (workshop : Workshop) (path : Text) (outcome : CheckOutcome) :
    workshop.checkFile path = outcome ↔
      Becomes workshop.registry workshop.settings path (workshop.view.read path) outcome := by
  obtain ⟨other, becomes⟩ :=
    exists_becomes workshop.registry workshop.settings path (workshop.view.read path)
  constructor
  · rintro rfl
    rwa [checkFile_of_becomes becomes]
  · exact checkFile_of_becomes

/-- Entries that say what becomes of each file are the ones that are reported. -/
theorem eq_checkFiles (workshop : Workshop) {entries : List (Text × CheckOutcome)}
    {files : List Text} (paths : entries.map Prod.fst = files)
    (becomes : ∀ entry ∈ entries,
      Becomes workshop.registry workshop.settings entry.1 (workshop.view.read entry.1) entry.2) :
    entries = workshop.checkFiles files := by
  subst paths
  rw [checkFiles, List.map_map]
  refine (List.map_id entries).symm.trans (List.map_congr_left fun entry mem => ?_)
  have reported := (workshop.checkFile_eq_iff entry.1 entry.2).mpr (becomes entry mem)
  simp only [id, Function.comp_apply, reported]

end Workshop

/-- One thing becomes of a file: what is reported where every path reads like this one. -/
theorem Becomes.unique {outcome other : CheckOutcome}
    (becomes : Becomes registry settings path content outcome)
    (again : Becomes registry settings path content other) : outcome = other := by
  let view : FileView :=
    { read := fun _ => content, holds := fun _ => true, workingDirectory := [] }
  let workshop : Workshop := { view, registry, settings }
  have first : workshop.checkFile path = outcome := Workshop.checkFile_of_becomes becomes
  have second : workshop.checkFile path = other := Workshop.checkFile_of_becomes again
  exact first.symm.trans second

/-! ### The label -/

namespace FileError

theorem label_notDynamic (path : Text) : (notDynamic path).label = "error" := rfl

theorem label_source (error : SourceError) : (source error).label = "read error" := rfl

theorem label_compile (error : CompileError) :
    (compile error).label =
      match error.category with
      | .structural => "syntax error"
      | .configuration => "configuration error" := rfl

end FileError

/-- The file is a text, and what it says is refused with an error of that category. -/
def RefusedFor (registry : Registry) (settings : Settings) (path : Text)
    (content : Except FileFault Bytes) (category : ErrorCategory) : Prop :=
  ∃ kind text error, Kind.ofPath? path = some kind ∧ content = .ok (Utf8.encode text) ∧
    Resource.compile kind ⟨path, text.splitOn pageBreak⟩ registry settings = .error error ∧
      error.category = category

/-- The stage at which a file fails, by the label on its error. -/
inductive FailsBy (registry : Registry) (settings : Settings) (path : Text)
    (content : Except FileFault Bytes) : Text → Prop where
  | kind (noKind : Kind.ofPath? path = none) : FailsBy registry settings path content "error"
  | reading {kind : Kind} (dynamic : Kind.ofPath? path = some kind)
      (noText : ∀ text, content ≠ .ok (Utf8.encode text)) :
      FailsBy registry settings path content "read error"
  | structural (refused : RefusedFor registry settings path content .structural) :
      FailsBy registry settings path content "syntax error"
  | configuration (refused : RefusedFor registry settings path content .configuration) :
      FailsBy registry settings path content "configuration error"

theorem Becomes.failsBy {error : FileError}
    (becomes : Becomes registry settings path content (.error error)) :
    FailsBy registry settings path content error.label := by
  cases becomes with
  | notDynamic noKind =>
      rw [FileError.label_notDynamic]
      exact .kind noKind
  | unreadable dynamic unreadable =>
      rw [FileError.label_source]
      refine .reading dynamic fun text => ?_
      rw [unreadable]
      rintro ⟨⟩
  | @illFormed kind raw page dynamic readable first =>
      rw [FileError.label_source]
      refine .reading dynamic fun text same => ?_
      have encodes : raw = Utf8.encode text := Except.ok.inj (readable.symm.trans same)
      exact (Source.exists_firstIllFormed_iff raw).mp ⟨page, first⟩ text encodes.symm
  | @refused _ _ error dynamic readable refused =>
      rw [FileError.label_compile]
      cases category : error.category with
      | structural => exact .structural ⟨_, _, error, dynamic, readable, refused, category⟩
      | configuration => exact .configuration ⟨_, _, error, dynamic, readable, refused, category⟩

/-- A file that is refused for a category has the error of this category. -/
theorem RefusedFor.exists_becomes {category : ErrorCategory}
    (refusedFor : RefusedFor registry settings path content category) :
    ∃ error, Becomes registry settings path content (.error (.compile error)) ∧
      error.category = category := by
  obtain ⟨kind, text, error, dynamic, readable, refused, same⟩ := refusedFor
  exact ⟨error, .refused dynamic readable refused, same⟩

theorem FailsBy.exists_becomes {label : Text}
    (fails : FailsBy registry settings path content label) :
    ∃ error, Becomes registry settings path content (.error error) ∧ error.label = label := by
  cases fails with
  | kind noKind => exact ⟨_, .notDynamic noKind, FileError.label_notDynamic path⟩
  | reading dynamic noText =>
      cases read : content with
      | error fault =>
          exact ⟨_, .unreadable dynamic rfl, FileError.label_source _⟩
      | ok raw =>
          subst read
          obtain ⟨page, first⟩ := (Source.exists_firstIllFormed_iff raw).mpr
            fun text encodes => noText text (by rw [encodes])
          exact ⟨_, .illFormed dynamic rfl first, FileError.label_source _⟩
  | structural refused =>
      obtain ⟨error, becomes, category⟩ := refused.exists_becomes
      exact ⟨.compile error, becomes, by rw [FileError.label_compile, category]⟩
  | configuration refused =>
      obtain ⟨error, becomes, category⟩ := refused.exists_becomes
      exact ⟨.compile error, becomes, by rw [FileError.label_compile, category]⟩

/-- The label tells the stage. -/
theorem label_eq_iff {error : FileError}
    (becomes : Becomes registry settings path content (.error error)) (label : Text) :
    error.label = label ↔ FailsBy registry settings path content label := by
  constructor
  · rintro rfl
    exact becomes.failsBy
  · intro fails
    obtain ⟨other, again, same⟩ := fails.exists_becomes
    obtain rfl := Except.error.inj (becomes.unique again)
    exact same

end Becomes

/-! ## A list of files -/

theorem CheckOutcome.failed_eq_false_iff (outcome : CheckOutcome) :
    outcome.failed = false ↔ ∃ answer, outcome = .ok answer := by
  cases outcome with
  | ok answer => exact ⟨fun _ => ⟨answer, rfl⟩, fun _ => rfl⟩
  | error error =>
      constructor
      · intro impossible
        cases impossible
      · rintro ⟨answer, impossible⟩
        cases impossible

/-- The report on files with these outcomes: the lines on each of them, in order, and how many there
are when none failed, or how many failed. -/
inductive Checks (outcomes : List (Text × CheckOutcome)) (report : Report) : Prop where
  | compiled (all : ∀ entry ∈ outcomes, ∃ answer, entry.2 = .ok answer)
      (lines : report.lines = (outcomes.flatMap fun entry => entry.2.lines entry.1) ++
        [Text.ofNat outcomes.length ++ " files compiled"])
      (succeeds : report.failure = none) : Checks outcomes report
  | failed {failures : Nat} (any : failures ≠ 0)
      (count : outcomes.countP (fun entry => entry.2.failed) = failures)
      (lines : report.lines = outcomes.flatMap fun entry => entry.2.lines entry.1)
      (fails : report.failure = some (Text.ofNat failures ++ " of " ++
        Text.ofNat outcomes.length ++ " files failed to compile")) : Checks outcomes report

/-- No failures are counted when all files compile, and only then. -/
theorem countP_failed_eq_zero_iff (outcomes : List (Text × CheckOutcome)) :
    outcomes.countP (fun entry => entry.2.failed) = 0 ↔
      ∀ entry ∈ outcomes, ∃ answer, entry.2 = .ok answer := by
  rw [List.countP_eq_zero]
  refine forall₂_congr fun entry _ => ?_
  rw [Bool.not_eq_true, CheckOutcome.failed_eq_false_iff]

section Checks

variable {outcomes : List (Text × CheckOutcome)} {report : Report}

theorem Checks.failure_eq_none_iff (checks : Checks outcomes report) :
    report.failure = none ↔ ∀ entry ∈ outcomes, ∃ answer, entry.2 = .ok answer := by
  cases checks with
  | compiled all _ succeeds => exact ⟨fun _ => all, fun _ => succeeds⟩
  | failed any count _ fails =>
      rw [fails, ← countP_failed_eq_zero_iff, count]
      simp [any]

/-- One failure decides how a report ends. -/
theorem Checks.of_failed (checks : Checks outcomes report) {entry : Text × CheckOutcome}
    (mem : entry ∈ outcomes) (failed : entry.2.failed = true) :
    (report.lines = outcomes.flatMap fun entry => entry.2.lines entry.1) ∧
      report.failure = some (Text.ofNat (outcomes.countP fun entry => entry.2.failed) ++ " of " ++
        Text.ofNat outcomes.length ++ " files failed to compile") := by
  cases checks with
  | compiled all =>
      have compiled := (CheckOutcome.failed_eq_false_iff entry.2).mpr (all entry mem)
      cases compiled.symm.trans failed
  | failed _ count lines fails => exact ⟨lines, by rw [count, fails]⟩

variable (outcomes) in
theorem checks_reportOutcomes : Checks outcomes (reportOutcomes outcomes) := by
  by_cases none : outcomes.countP (fun entry => entry.2.failed) = 0
  · have report : reportOutcomes outcomes =
        { lines := (outcomes.flatMap fun entry => entry.2.lines entry.1) ++
            [Text.ofNat outcomes.length ++ " files compiled"] } := if_pos none
    rw [report]
    exact .compiled ((countP_failed_eq_zero_iff outcomes).mp none) rfl rfl
  · have report : reportOutcomes outcomes =
        { lines := outcomes.flatMap fun entry => entry.2.lines entry.1
          failure := some (Text.ofNat (outcomes.countP fun entry => entry.2.failed) ++ " of " ++
            Text.ofNat outcomes.length ++ " files failed to compile") } := if_neg none
    rw [report]
    exact .failed none rfl rfl rfl

end Checks

/-- Where a configuration is found, the files are checked with its settings. -/
theorem checks_report {host : Host} {view : FileView} {environment : Environment}
    {options : Options} {config : Config}
    (loaded : Config.loadWith host.reader view options.config
      (some (options.overrides environment)) = .ok config) (files : List Text) :
    let workshop : Workshop := { view, registry := host.registry, settings := config.settings }
    Checks (workshop.checkFiles files)
      ((Invocation.mk options (.check files)).report host view environment) := by
  intro workshop
  have report : (Invocation.mk options (.check files)).report host view environment =
      (workshop.check files).withEvents (loadedEvents config) := by
    simp only [Invocation.report, loaded]
    rfl
  have checks := checks_reportOutcomes (workshop.checkFiles files)
  -- Events are no part of what is said of the files.
  rw [report]
  cases checks with
  | compiled all lines succeeds => exact .compiled all lines succeeds
  | failed any count lines fails => exact .failed any count lines fails

/-- **Files are checked one by one, and the verdict counts the failures.**  What becomes of a file
is one thing, and the label of an error tells the stage at which the file failed.  When a
configuration is found, there is one entry for each file of a list in their order, also for one that
comes again; each says what becomes of the file by itself, which is what is reported on this file
alone, whatever becomes of the others.  The report has the lines of all entries and then the
verdict, and the check succeeds when every file compiles and not otherwise. -/
theorem report_check :
    (∀ registry settings path content,
      ∃! outcome, Becomes registry settings path content outcome) ∧
    (∀ registry settings path content error,
      Becomes registry settings path content (.error error) →
      ∀ label, error.label = label ↔ FailsBy registry settings path content label) ∧
    ∀ (host : Host) (view : FileView) (environment : Environment) (options : Options)
        (config : Config) (files : List Text),
      Config.loadWith host.reader view options.config (some (options.overrides environment)) =
        .ok config →
      ∃ entries : List (Text × CheckOutcome),
        entries.map Prod.fst = files ∧
        (∀ entry ∈ entries,
          Becomes host.registry config.settings entry.1 (view.read entry.1) entry.2) ∧
        Checks entries ((Invocation.mk options (.check files)).report host view environment) ∧
        (((Invocation.mk options (.check files)).report host view environment).failure = none ↔
          ∀ entry ∈ entries, ∃ answer, entry.2 = .ok answer) ∧
        ∀ entry ∈ entries,
          Checks [entry]
            ((Invocation.mk options (.check [entry.1])).report host view environment) := by
  refine ⟨?_, ?_, ?_⟩
  · intro registry settings path content
    obtain ⟨outcome, becomes⟩ := exists_becomes registry settings path content
    exact ⟨outcome, becomes, fun other again => again.unique becomes⟩
  · intro registry settings path content error becomes
    exact label_eq_iff becomes
  · intro host view environment options config files loaded
    let workshop : Workshop := { view, registry := host.registry, settings := config.settings }
    have checks := checks_report loaded files
    refine ⟨workshop.checkFiles files, ?_, ?_, checks, checks.failure_eq_none_iff, ?_⟩
    · rw [Workshop.checkFiles, List.map_map]
      exact List.map_id' files
    · intro entry mem
      obtain ⟨path, -, rfl⟩ := List.mem_map.mp mem
      exact (workshop.checkFile_eq_iff path _).mp rfl
    · intro entry mem
      obtain ⟨path, -, rfl⟩ := List.mem_map.mp mem
      exact checks_report loaded [path]

/-- A JSON resource, a file of one page, a file that asks for an unknown renderer, and nothing
else. -/
def shelfTree : FileTree where
  entries := [
    (["x.json".toList], .file [0x0C]),
    (["y.json".toList], .file []),
    (["page".toList], .file (Utf8.encode "\x0c#!nope text/html\na\x0c#!raw text/plain\nb"))]

/-- A host whose engine refuses every template. -/
def shelfHost : Host where
  reader := Overrides.ofToml?
  registry := .builtins fun _ _ => .error (.host "no templates")
  known := fun _ => none

/-- Of six files one is there twice and compiles, one is no resource, one is not there, one has a
page too few, and one asks for a renderer that there is not.  What is said of the one that is not
there is what is said when it is alone. -/
theorem report_check_shelf :
    let files : List Text := ["x.json", "c.txt", "gone", "x.json", "y.json", "page"]
    let noResource : Text :=
      "c.txt: error: c.txt is not a dynamic resource (expected a .json file or no extension)"
    let gone : Text :=
      "gone: read error: I/O error reading gone: No such file or directory (os error 2)"
    let report := (Invocation.mk {} (.check files)).report shelfHost (shelfTree.view []) {}
    report.lines = [
      "x.json: JSON resource".toList,
      "  media types: application/json".toList,
      noResource,
      gone,
      "x.json: JSON resource".toList,
      "  media types: application/json".toList,
      "y.json: syntax error: y.json has 1 pages; JSON resources need exactly 2".toList,
      "page: configuration error: Unknown renderer for text/html: nope.".toList] ∧
    report.failure = some "4 of 6 files failed to compile".toList ∧
    ((Invocation.mk {} (.check ["gone"])).report shelfHost (shelfTree.view []) {}).lines =
      [gone] := by
  intro files noResource gone report
  have loaded : Config.loadWith shelfHost.reader (shelfTree.view []) none
      (some (Options.overrides {} {})) = .ok {} := by
    decide +kernel
  obtain ⟨-, -, checked⟩ := report_check
  obtain ⟨entries, paths, becomes, checks, -, alone⟩ := checked _ _ {} {} _ files loaded
  let workshop : Workshop :=
    { view := shelfTree.view [], registry := shelfHost.registry, settings := Config.settings {} }
  have listed : entries = workshop.checkFiles files := workshop.eq_checkFiles paths becomes
  have outcomes : workshop.checkFiles files = [
      ("x.json".toList, .ok (.json, ["application/json".toList])),
      ("c.txt".toList, .error (.notDynamic "c.txt")),
      ("gone".toList, .error (.source (.unreadable "gone" .notFound))),
      ("x.json".toList, .ok (.json, ["application/json".toList])),
      ("y.json".toList, .error (.compile (.pageCount "y.json" 1 (Kind.expectedPages .json)))),
      ("page".toList, .error (.compile (.unknownRenderer "text/html" "nope")))] := by
    decide +kernel
  rw [listed, outcomes] at checks alone
  obtain ⟨lines, fails⟩ := checks.of_failed (.tail _ (.head _)) rfl
  obtain ⟨ownLines, -⟩ := (alone _ (.tail _ (.tail _ (.head _)))).of_failed (.head _) rfl
  exact ⟨lines.trans (by decide +kernel), fails.trans (by decide +kernel), ownLines⟩

end Multipage.Command
