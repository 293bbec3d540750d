import ParamBundle.Proofs.ClassSettings
import ParamBundle.Proofs.ConsoleLaws
import ParamBundle.Proofs.FileEffects

/-! A generation is all or nothing. Whatever can be wrong with the input is found before
the first effect, and the class itself is the last thing to be written. -/

namespace ParamBundle.Proofs.GenerationSafety
open ConsoleLaws FileEffects

variable {files : FileSystem} {source : FilePath} {arguments : Arguments} {model : ClassModel}
  {log : List LogRecord}

/-- The class text is the only regular file that is new or changed. It lies where the
output directory, the package in force and the class name say. -/
def StoredOnly (files : FileSystem) (source : FilePath) (arguments : Arguments) (outcome : Outcome)
    (text : String) (directory : Json) : Prop :=
  ∃ typed name package descriptor, directory = .string typed ∧
    arguments.lookup "name" = some (.string name) ∧
    Descriptor.load files source = .ok descriptor ∧
    Generation.packageName descriptor arguments = .string package ∧
    let target := FilePath.ofClass (.ofString typed) package name
    ∃ place, outcome.files.walk (outcome.files.start target.root) target.parts = .ok place ∧
      Writes files outcome.files place (Text.encodeUtf8 text)

/-- What a run may have done to the files, by how it ended. -/
structure AllOrNothing (files : FileSystem) (source : FilePath) (arguments : Arguments)
    (outcome : Outcome) : Prop where
  failed : ∀ fault, outcome.result = .error fault → SameFiles files outcome.files
  rejected : ∀ fault, outcome.result = .error fault → fault.isRejection → outcome.files = files
  shown : ∀ text, outcome.result = .ok text → arguments.given? "output_dir" = none → outcome.files = files
  stored : ∀ text directory, outcome.result = .ok text → arguments.given? "output_dir" = some directory →
    StoredOnly files source arguments outcome text directory

theorem AllOrNothing.refused {fault : Fault} :
    AllOrNothing files source arguments { result := .error fault, files, log } where
  failed _ _ := (AddsDirectories.refl files).sameFiles
  rejected _ _ _ := rfl
  shown := nofun
  stored := nofun

theorem classModel_names {descriptor : Descriptor}
    (built : Generation.classModel descriptor arguments = .ok model) :
    arguments.lookup "name" = some (.string model.className) ∧
      Generation.packageName descriptor arguments = .string model.packageName := by
  unfold Generation.classModel at built
  split at built
  next value given =>
    obtain ⟨name, package, members, rfl, _, effective, _, _, _, rfl⟩ := ClassSettings.classModel_ok_iff.mp built
    exact ⟨given, effective⟩
  · cases built

private theorem outputDirectory_absent (asked : Generation.outputDirectory arguments = .ok none) :
    arguments.given? "output_dir" = none := by
  unfold Generation.outputDirectory at asked
  split at asked
  next absent => exact absent
  · cases asked
  · cases asked

private theorem outputDirectory_given {directory : FilePath}
    (asked : Generation.outputDirectory arguments = .ok (some directory)) :
    ∃ typed, arguments.given? "output_dir" = some (.string typed) ∧ directory = .ofString typed := by
  unfold Generation.outputDirectory at asked
  split at asked
  · cases asked
  next typed given =>
    cases asked
    exact ⟨typed, given, rfl⟩
  · cases asked

theorem finish_safe {descriptor : Descriptor} (loaded : Descriptor.load files source = .ok descriptor)
    (built : Generation.classModel descriptor arguments = .ok model) :
    AllOrNothing files source arguments (Generation.finish files arguments model log) := by
  obtain ⟨named, effective⟩ := classModel_names built
  unfold Generation.finish
  split
  · exact .refused
  next asked =>
    have absent := outputDirectory_absent asked
    refine ⟨nofun, nofun, fun _ _ _ => rfl, ?_⟩
    intro text directory done given
    rw [absent] at given
    cases given
  next directory asked =>
    obtain ⟨typed, given, rfl⟩ := outputDirectory_given asked
    dsimp only
    split
    next after stored =>
      refine ⟨nofun, nofun, ?_, ?_⟩
      · intro text done absent
        rw [given] at absent
        cases absent
      · intro text directory done again
        cases done
        cases given.symm.trans again
        obtain ⟨place, reached, writes⟩ := store_ok (.ofClass (.ofString typed) _ _) stored
        exact ⟨typed, model.className, model.packageName, descriptor, rfl, named, loaded, effective,
          place, reached, writes⟩
    next after fault stuck =>
      obtain ⟨added, causes⟩ := store_error stuck
      refine ⟨fun _ _ => added.sameFiles, ?_, nofun, nofun⟩
      intro cause same rejected
      cases same
      obtain ⟨-, -, unchanged⟩ | ⟨error, shown, rfl⟩ := causes
      · exact unchanged
      · cases rejected

theorem run_safe (files : FileSystem) (source : FilePath) (arguments : Arguments) :
    AllOrNothing files source arguments (Generation.run files source arguments) := by
  unfold Generation.run
  split
  · exact .refused
  next descriptor loaded =>
    dsimp only
    split
    · exact .refused
    next model built => exact finish_safe loaded built

theorem finish_ok {text : String} (done : (Generation.finish files arguments model log).result = .ok text) :
    text = model.text := by
  unfold Generation.finish at done
  split at done
  · cases done
  · cases done
    rfl
  · dsimp only at done
    split at done
    · cases done
      rfl
    · cases done

/-- A text that is answered is that of the descriptor's class. -/
theorem run_ok {text : String} (done : (Generation.run files source arguments).result = .ok text) :
    ∃ descriptor model, Descriptor.load files source = .ok descriptor ∧
      Generation.classModel descriptor arguments = .ok model ∧ text = model.text := by
  unfold Generation.run at done
  split at done
  · cases done
  next descriptor loaded =>
    dsimp only at done
    split at done
    · cases done
    next model built => exact ⟨descriptor, model, loaded, built, finish_ok done⟩

private theorem standard_get {name : String} {command : Command}
    (known : CommandTable.standard.get name = .ok command) : command = .introduceParameterObject := by
  simp only [CommandTable.get, CommandTable.standard, CommandTable.put, CommandTable.empty, List.filter_nil,
    List.lookup_cons, List.lookup_nil] at known
  split at known
  next found held =>
    split at held
    · cases held
      cases known
      rfl
    · cases held
  · cases known

/-- With a name among the arguments the command of the library runs. -/
theorem apply_named (given : (arguments.given? "name").isSome) :
    CommandTable.standard.apply files "introduce-parameter-object" source arguments = Generation.run files source arguments := by
  have found : CommandTable.standard.get "introduce-parameter-object" = .ok .introduceParameterObject := rfl
  have complete : checkRequired "introduce-parameter-object" ["name"] arguments = .ok () := by
    obtain ⟨value, given⟩ := Option.isSome_iff_exists.mp given
    simp [checkRequired, given]
  unfold CommandTable.apply
  rw [found]
  dsimp only
  exact complete ▸ rfl

/-- A name that is no command of the library is refused, and so are missing arguments. -/
theorem apply_safe (files : FileSystem) (command : String) (source : FilePath) (arguments : Arguments) :
    AllOrNothing files source arguments (CommandTable.standard.apply files command source arguments) := by
  unfold CommandTable.apply
  split
  · exact .refused
  next found known =>
    split
    · exact .refused
    next =>
      rw [standard_get known]
      exact run_safe files source arguments

end ParamBundle.Proofs.GenerationSafety
