import ParamBundle.Proofs.DescriptorFiles
import ParamBundle.Proofs.GenerationSafety
import ParamBundle.Proofs.GenerationStages

/-! The command line adds nothing to the library. Once a console has read its arguments as
an order, the status and the printed texts say how the same call of the library ended, and
the files are those that the call left. -/

namespace ParamBundle.Proofs.CommandLineShell
open CommandLine ConsoleLaws DescriptorFiles
open DescriptorSchema (textOrNull)
open GenerationStages (Refused classModel_error_iff)

variable {files : FileSystem} {words : List String} {order : Order} {fault : Fault}

/-! ### The call of the library -/

/-- The same order without the command line. -/
def applied (files : FileSystem) (order : Order) : Outcome :=
  CommandTable.standard.apply files "introduce-parameter-object" (.ofString order.descriptor)
    [("name", .string order.name), ("package", textOrNull order.package), ("output_dir", textOrNull order.outputDirectory)]

/-! ### Its faults -/

theorem load_rejected {path : FilePath} (refused : Descriptor.load files path = .error fault) : fault.isRejection = true := by
  have loads := loadOn_loads {} files path
  rw [← Descriptor.load, refused] at loads
  cases loads with
  | hidden hides => cases hides
  | unread _ _ locks => cases locks
  | outgrown _ deep => cases deep
  | missing => rfl
  | undecodable => rfl
  | oversized => rfl
  | invalid => rfl
  | decided _ _ _ decides =>
    obtain ⟨_, impossible⟩ | ⟨cause, same⟩ | ⟨name, cause, same⟩ := documented_of_decides decides
    · cases impossible
    · cases same
      rfl
    · cases same
      rfl

theorem Refused.rejected {descriptor : Descriptor} {className packageName : Json}
    (refused : Refused descriptor className packageName fault) : fault.isRejection = true := by
  cases refused <;> rfl

/-- A class that is not built is blamed on the descriptor or on the names. -/
theorem classModel_rejected {descriptor : Descriptor} {arguments : Arguments} {className : Json}
    (named : arguments.lookup "name" = some className)
    (refused : Generation.classModel descriptor arguments = .error fault) : fault.isRejection = true := by
  rw [Generation.classModel, named] at refused
  exact Refused.rejected (classModel_error_iff.mp refused)

private theorem finish_fault {arguments : Arguments} {model : ClassModel} {log : List LogRecord}
    (typed : ∀ value, arguments.given? "output_dir" = some value → ∃ text, value = .string text)
    (failed : (Generation.finish files arguments model log).result = .error fault) :
    fault.isRejection = true ∨ ∃ error path, fault = .storage error path := by
  unfold Generation.finish at failed
  split at failed
  next refused =>
    unfold Generation.outputDirectory at refused
    split at refused
    · cases refused
    · cases refused
    next other noText given =>
      obtain ⟨text, rfl⟩ := typed other given
      exact absurd rfl (noText text)
  · cases failed
  · dsimp only at failed
    split at failed
    · cases failed
    next stuck =>
      cases failed
      obtain ⟨-, ⟨-, rfl, -⟩ | storage⟩ := FileEffects.store_error stuck
      · exact Or.inl rfl
      · exact Or.inr storage

/-- With texts for arguments, nothing but the file system can fail without a blame. -/
theorem run_fault {source : FilePath} {arguments : Arguments} {className : Json}
    (named : arguments.lookup "name" = some className)
    (typed : ∀ value, arguments.given? "output_dir" = some value → ∃ text, value = .string text)
    (failed : (Generation.run files source arguments).result = .error fault) :
    fault.isRejection = true ∨ ∃ error path, fault = .storage error path := by
  unfold Generation.run at failed
  split at failed
  next cause refused =>
    cases failed
    exact Or.inl (load_rejected refused)
  · dsimp only at failed
    split at failed
    next refused =>
      cases failed
      exact Or.inl (classModel_rejected named refused)
    · exact finish_fault typed failed

/-- The name is among the arguments, so the command runs. -/
theorem applied_eq_run (files : FileSystem) (order : Order) :
    applied files order = Generation.run files (.ofString order.descriptor) order.arguments :=
  GenerationSafety.apply_named rfl

private theorem given?_text {value : Json} (given : order.arguments.given? "output_dir" = some value) :
    ∃ text, value = .string text := by
  have found : order.arguments.lookup "output_dir" = some (textOrNull order.outputDirectory) := rfl
  rw [Arguments.given?, found] at given
  cases directory : order.outputDirectory with
  | none =>
    rw [directory] at given
    cases given
  | some text =>
    rw [directory] at given
    exact ⟨text, (Option.some.inj given).symm⟩

theorem applied_fault (failed : (applied files order).result = .error fault) :
    fault.isRejection = true ∨ ∃ error path, fault = .storage error path := by
  rw [applied_eq_run] at failed
  apply run_fault rfl _ failed
  exact fun value => given?_text

/-! ### What is shown -/

variable {console : Console}

/-- A run shows how the call ended, behind its log if that was asked for, and leaves the
files that it left. -/
theorem run_of_order {verbose : Bool} (asked : console.read files words = .generate verbose order) :
    let log := if verbose then (applied files order).log else []
    console.shownLog files words = log ∧ console.run files words =
      ((console.conclude (order.finish (applied files order).result)).after (logText log), (applied files order).files) := by
  intro log
  have shown : console.shownLog files words = log := by
    rw [Console.shownLog, asked]
    cases verbose <;> rfl
  refine ⟨shown, ?_⟩
  rw [Console.run, shown, asked]
  rfl

private theorem after_empty (ending : Ending) : ending.after "" = ending := by
  cases ending with
  | finished status stdout stderr => rw [Ending.after, String.empty_append]
  | _ => rfl

theorem run_of_quiet (asked : console.read files words = .generate false order) :
    console.run files words = (console.conclude (order.finish (applied files order).result), (applied files order).files) := by
  rw [(run_of_order asked).2]
  exact congrArg (·, _) (after_empty _)

/-- Once the arguments have been read as an order, the run shows how the same call of the
library ends and leaves the files that the call leaves. A source is printed, or the
directory below which it was written; a rejection is printed as an error; a fault of the
file system is passed on. Nothing else can happen. -/
theorem shell_shows_outcome (conforms : Conforms console) (asked : console.read files words = .generate false order) :
    let outcome := applied files order
    (∀ source, outcome.result = .ok source → order.outputDirectory = none → Unescaped source →
      console.run files words = (.finished 0 source "", outcome.files)) ∧
    (∀ source directory, outcome.result = .ok source → order.outputDirectory = some directory →
      let line := "Generated " ++ order.name ++ " in " ++ (FilePath.ofString directory).toString ++ "\n"
      Unescaped line → console.run files words = (.finished 0 line "", outcome.files)) ∧
    (∀ fault, outcome.result = .error fault → fault.isRejection → Unescaped fault.message →
      let message := "Error: refactoring aborted, no changes applied: " ++ fault.message ++ "\n"
      console.run files words = (.finished 1 "" message, outcome.files) ∧ outcome.files = files) ∧
    (∀ error path, outcome.result = .error (.storage error path) →
      console.run files words = (.failed (.storage error path), outcome.files)) ∧
    ((∃ source, outcome.result = .ok source) ∨ (∃ fault, outcome.result = .error fault ∧ fault.isRejection) ∨
      ∃ error path, outcome.result = .error (.storage error path)) := by
  intro outcome
  have ran : console.run files words = (console.conclude (order.finish outcome.result), outcome.files) := run_of_quiet asked
  have shown := finish_shown conforms order outcome.result
  rw [ran]
  generalize console.conclude (order.finish outcome.result) = ending at shown
  refine ⟨?_, ?_, ?_, ?_, ?_⟩
  · intro source made printed visible
    rw [made] at shown
    cases shown with
    | made plain =>
      rw [answer, printed] at plain
      rw [plain visible]
  · intro source directory made stored line visible
    rw [made] at shown
    cases shown with
    | made plain =>
      rw [answer, stored] at plain
      rw [plain visible]
  · intro fault failed rejected visible message
    refine ⟨?_, (GenerationSafety.apply_safe files _ _ _).rejected fault failed rejected⟩
    rw [failed] at shown
    cases shown with
    | rejected _ plain =>
      rw [plain visible]
      rfl
    | raised unblamed => cases rejected.symm.trans unblamed
  · intro error path failed
    rw [failed] at shown
    cases shown with
    | rejected blamed => cases blamed
    | raised => rfl
  · cases ended : outcome.result with
    | ok source => exact Or.inl ⟨source, rfl⟩
    | error fault =>
      obtain rejected | ⟨error, path, rfl⟩ := applied_fault ended
      · exact Or.inr (Or.inl ⟨fault, rfl, rejected⟩)
      · exact Or.inr (Or.inr ⟨error, path, rfl⟩)

/-- A name that is a class name and one that is not. -/
theorem empty_class_is_shown :
    let files : FileSystem := { entries := [(["d.json"], .file [0x7b, 0x7d])], workingDirectory := [] }
    let words (name : String) := ["introduce-parameter-object", "--name", name, "d.json"]
    let order (name : String) : Order := { descriptor := "d.json", name, package := none, outputDirectory := none }
    let text := "public class P\x7b\n\n\tpublic P()\x7b\n\t\x7d\n\x7d\n"
    let message := "Error: refactoring aborted, no changes applied: Invalid class name: '1'\n"
    Conforms .standard ∧ Console.standard.read files (words "P") = .generate false (order "P") ∧
      Console.standard.run files (words "P") = (.finished 0 text "", files) ∧
      Console.standard.read files (words "1") = .generate false (order "1") ∧
      Console.standard.run files (words "1") = (.finished 1 "" message, files) := by
  intro files words order text message
  have asked (name : String) : Console.standard.read files (words name) = .generate false (order name) := by
    have unflagged :
        readFlags {} (words name) = some ({}, "introduce-parameter-object" :: ["--name", name, "d.json"]) := by
      have subcommand : isOption "introduce-parameter-object" = false := by decide
      rw [readFlags, subcommand]
      rfl
    have read :
        Given.read ["--name", name, "d.json"] = some { options := [(.name, name)], positionals := ["d.json"] } := by
      have option : isOption "--name" = true := by decide
      have whole : splitValue "--name" = ("--name", none) := by decide
      have positional : Given.read ["d.json"] = some { positionals := ["d.json"] } := by decide
      rw [Given.read, option, whole]
      simp only [OptionName.ofText?, positional]
      rfl
    apply standard_read unflagged read
    have present : files.lookupText? "d.json" = some (.file [0x7b, 0x7d]) := rfl
    have named : FileSystem.hasNull "d.json" = false := by decide
    simp only [Order.ofGiven, checkDescriptor, named, present]
    rfl
  have made : (applied files (order "P")).result = .ok text := by decide
  have kept : (applied files (order "P")).files = files := by decide
  have refused : (applied files (order "1")).result = .error (.configuration (.invalidClassName "1")) := by decide
  have shown := (shell_shows_outcome standard_conforms (asked "P")).1 text made rfl (by decide)
  obtain ⟨named, same⟩ := (shell_shows_outcome standard_conforms (asked "1")).2.2.1 _ refused rfl (by decide)
  refine ⟨standard_conforms, asked "P", ?_, asked "1", ?_⟩
  · rw [shown, kept]
  · rw [named, same]
    rfl

end ParamBundle.Proofs.CommandLineShell
