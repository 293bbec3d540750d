import ParamBundle.Proofs.ClassPlacement

/-! A run as two stages. The first reads the descriptor and builds the class and changes
nothing; only the second, if there is an output directory, stores the text. -/

namespace ParamBundle.Proofs.RunStages
open GenerationSafety

variable {files later : FileSystem} {source : FilePath} {arguments : Arguments} {fault : Fault}
  {model : ClassModel} {typed : String}

/-- The class of a run, before anything is asked about an output directory. -/
def built (files : FileSystem) (source : FilePath) (arguments : Arguments) : Except Fault ClassModel := do
  let descriptor ← Descriptor.load files source
  Generation.classModel descriptor arguments

def target (typed : String) (model : ClassModel) : FilePath :=
  .ofClass (.ofString typed) model.packageName model.className

theorem built_ok_iff : built files source arguments = .ok model ↔
    ∃ descriptor, Descriptor.load files source = .ok descriptor ∧
      Generation.classModel descriptor arguments = .ok model := Traversal.bind_ok_iff

theorem built_error_iff : built files source arguments = .error fault ↔
    Descriptor.load files source = .error fault ∨
      ∃ descriptor, Descriptor.load files source = .ok descriptor ∧
        Generation.classModel descriptor arguments = .error fault := Traversal.bind_error_iff

/-- Of the files, the first stage sees the descriptor alone. -/
theorem built_congr (same : later.content? source = files.content? source) :
    built later source arguments = built files source arguments := by
  rw [built, built, Descriptor.load_eq, Descriptor.load_eq, same]

theorem built_accepted (made : built files source arguments = .ok model) :
    ClassPlacement.Accepted model.packageName model.className := by
  obtain ⟨descriptor, -, settled⟩ := built_ok_iff.mp made
  exact (ClassPlacement.classModel_accepted settled).1

theorem run_unbuilt (refused : built files source arguments = .error fault) :
    (Generation.run files source arguments).result = .error fault ∧
      (Generation.run files source arguments).files = files := by
  obtain unread | ⟨descriptor, loaded, unsettled⟩ := built_error_iff.mp refused
  · simp only [Generation.run, unread, and_self]
  · simp only [Generation.run, loaded, unsettled, and_self]

theorem run_built (made : built files source arguments = .ok model) :
    ∃ log, Generation.run files source arguments = Generation.finish files arguments model log := by
  obtain ⟨descriptor, loaded, settled⟩ := built_ok_iff.mp made
  simp only [Generation.run, loaded, settled]
  exact ⟨_, rfl⟩

theorem run_shown (made : built files source arguments = .ok model) (absent : arguments.given? "output_dir" = none) :
    (Generation.run files source arguments).result = .ok model.text ∧
      (Generation.run files source arguments).files = files := by
  have asked : Generation.outputDirectory arguments = .ok none := by rw [Generation.outputDirectory, absent]
  obtain ⟨log, ran⟩ := run_built made
  rw [ran, Generation.finish, asked]
  exact ⟨rfl, rfl⟩

/-- With an output directory a run ends as the store ends. -/
theorem run_stored (made : built files source arguments = .ok model)
    (given : arguments.given? "output_dir" = some (.string typed)) :
    let stored := files.store (target typed model) (Text.encodeUtf8 model.text)
    (Generation.run files source arguments).result = stored.2.map (fun _ => model.text) ∧
      (Generation.run files source arguments).files = stored.1 := by
  have asked : Generation.outputDirectory arguments = .ok (some (.ofString typed)) := by
    rw [Generation.outputDirectory, given]
  obtain ⟨log, ran⟩ := run_built made
  rw [ran, Generation.finish, asked]
  dsimp only [target]
  cases files.store (.ofClass (.ofString typed) model.packageName model.className) (Text.encodeUtf8 model.text) with
  | mk after ended => cases ended <;> exact ⟨rfl, rfl⟩

end ParamBundle.Proofs.RunStages
