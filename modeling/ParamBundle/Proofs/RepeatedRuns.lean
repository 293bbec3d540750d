import ParamBundle.Proofs.RunStages
import Mathlib.Data.List.Infix

/-! Storing a class is a side effect of a run and nothing more. What a run answers does not
depend on the output directory, unless the file system stands in its way; and a run that has
stored its class finds everything in place when it is made again, so it changes nothing. -/

namespace ParamBundle.Proofs.RepeatedRuns
open ClassPlacement DottedNames FileEffects FileSystem LineFeeds RunStages

variable {files made after : FileSystem} {path : FilePath} {content : List UInt8} {place inner : Place} {name : String}

/-! ### Storing again what is there -/

/-- What a store that succeeds has done: after the directories one entry is written, and in
a directory. -/
theorem store_ok_put (stored : files.store path content = (after, .ok ())) :
    hasNull path.toString = false ∧ ∃ made inner name, AddsDirectories files made ∧
      made.container path = .ok (inner, some name) ∧ name ≠ ".." ∧
      made.entry? (name :: inner) ≠ some .directory ∧ after = made.put (name :: inner) (.file content) := by
  unfold store at stored
  split at stored
  · cases stored
  next named =>
    refine ⟨Bool.eq_false_iff.mpr named, ?_⟩
    have added := provideDirectories_adds files path.parent
    split at stored
    · cases stored
    next made provided =>
      rw [provided] at added
      simp only [writeFile] at stored
      split at stored
      next written done =>
        cases stored
        split at done
        · cases done
        · cases done
        next inner name found =>
          split at done
          · cases done
          next forward =>
            split at done
            · cases done
            next free =>
              cases done
              exact ⟨made, inner, name, added, found, forward, free, rfl⟩
      · cases stored

private theorem put_put (files : FileSystem) (place : Place) (entry : Entry) :
    (files.put place entry).put place entry = files.put place entry := by
  simp only [put, List.filter_cons, ne_eq, not_true_eq_false, decide_false, Bool.false_eq_true, if_false,
    List.filter_filter, Bool.and_self]

/-- A second store of the same content finds its directory and puts the entry that is there. -/
theorem store_again (kept : Kept path) (stored : files.store path content = (after, .ok ())) :
    after.store path content = (after, .ok ()) := by
  obtain ⟨named, made, inner, name, -, found, forward, free, rfl⟩ := store_ok_put stored
  obtain ⟨reached, around, last⟩ := container_ok_iff.mp found
  have entered : (made.put (name :: inner) (.file content)).walk (made.start path.root) path.parts.dropLast = .ok inner :=
    walk_put free reached
  have held : FileSystem.entry? (made.put (name :: inner) (.file content)) inner = some .directory := by
    rw [entry?_put, if_neg (by simp), around]
  have there : (made.put (name :: inner) (.file content)).isDirectory path.parent = true :=
    isDirectory_iff.mpr ⟨inner, entered, held⟩
  have keptParent : Kept path.parent := fun part member => kept part (List.mem_of_mem_dropLast member)
  have again : (made.put (name :: inner) (.file content)).container path = .ok (inner, some name) :=
    container_ok_iff.mpr ⟨entered, held, last⟩
  have filled : FileSystem.entry? (made.put (name :: inner) (.file content)) (name :: inner) = some (.file content) := by
    rw [entry?_put, if_pos rfl]
  have written : (made.put (name :: inner) (.file content)).writeFile path content =
      .ok (made.put (name :: inner) (.file content)) := by
    simp only [writeFile, again, if_neg forward, filled, put_put]
  simp only [store, named, Bool.false_eq_true, if_false, provideDirectories_present keptParent there, written]

/-! ### The descriptor and the target -/

def Leads (files : FileSystem) (path : FilePath) (place : Place) : Prop :=
  files.walk (files.start path.root) path.parts = .ok place

theorem content?_leads_iff : files.content? path = some content ↔
    ∃ place, Leads files path place ∧ files.entry? place = some (.file content) :=
  content?_eq_some_iff.trans lookup?_eq_some_iff

/-- A store only changes what is read through a path that leads to the same place. -/
theorem content?_stored {source : FilePath} {bytes : List UInt8} (kept : Kept path)
    (stored : files.store path content = (after, .ok ())) (found : files.content? source = some bytes)
    (apart : ∀ place, Leads files source place → ¬ Leads after path place) : after.content? source = some bytes := by
  obtain ⟨place, leads, held⟩ := content?_leads_iff.mp found
  obtain ⟨-, made, inner, name, added, container, forward, free, rfl⟩ := store_ok_put stored
  have start : FileSystem.start (made.put (name :: inner) (.file content)) source.root = files.start source.root := by
    cases source.root <;> simp [FileSystem.start, put, added.workingDirectory]
  have reached : Leads (made.put (name :: inner) (.file content)) source place := by
    rw [Leads, start]
    exact walk_put free (added.walk leads)
  have other : place ≠ name :: inner := by
    rintro rfl
    exact apart _ leads (walk_put free (container_leads kept container forward))
  apply content?_leads_iff.mpr
  refine ⟨place, reached, ?_⟩
  rw [entry?_put, if_neg other]
  obtain same | ⟨absent, -⟩ := added.entries place
  · rw [same, held]
  · rw [held] at absent
    cases absent

/-! ### Names that no file can have -/

private theorem hasNull_toString (named : ∀ part ∈ path.parts, '\x00' ∉ part.toList) : hasNull path.toString = false := by
  have joined : '\x00' ∉ ("/".intercalate path.parts).toList := not_mem_intercalate (by decide) named
  have shown (start : String) (plain : '\x00' ∉ start.toList) :
      '\x00' ∉ (if (start ++ "/".intercalate path.parts).isEmpty then "." else start ++ "/".intercalate path.parts).toList := by
    split
    · decide
    · rw [String.toList_append, List.mem_append, not_or]
      exact ⟨plain, joined⟩
  rw [hasNull, decide_eq_false_iff_not, FilePath.toString]
  cases path.root with
  | relative => exact shown "" (by decide)
  | single => exact shown "/" (by decide)
  | double => exact shown "//" (by decide)

/-- Only the directory that was typed can spoil the name of a target. -/
theorem hasNull_target {typed : String} {model : ClassModel} (named : hasNull typed = false)
    (accepted : Accepted model.packageName model.className) : hasNull (target typed model).toString = false := by
  obtain ⟨segments, below⟩ := lies_below (.ofString typed) accepted
  obtain ⟨-, good⟩ := accepted_iff.mp accepted
  apply hasNull_toString
  intro part member
  rw [target, below.target] at member
  rcases List.mem_append.mp member with typedPart | member
  · exact fun null => of_decide_eq_false named ((part_of_ofString typedPart).2 null)
  rcases List.mem_append.mp member with segment | last
  · exact not_mem_isIdentifier (below.identifiers part segment) rfl
  · rw [List.mem_singleton.mp last, toList_fileName, List.mem_append, not_or]
    exact ⟨not_mem_isIdentifier good rfl, by decide⟩

/-! ### Runs -/

variable {source : FilePath} {arguments plain : Arguments} {typed text : String} {model : ClassModel} {fault : Fault}

/-- The same arguments but for an output directory, which only the first have. -/
structure DiffersInOutput (arguments plain : Arguments) (typed : String) : Prop where
  given : arguments.given? "output_dir" = some (.string typed)
  absent : plain.given? "output_dir" = none
  rest : ∀ key, key ≠ "output_dir" → arguments.lookup key = plain.lookup key

/-- How a run that stores its class ends beside the same run without an output directory.
Only the file system can part the two. -/
inductive EndsBeside (files : FileSystem) (source : FilePath) (arguments plain : Arguments) (typed : String) : Prop where
  | refused {fault : Fault}
      (unbuilt : Descriptor.load files source = .error fault ∨ ∃ descriptor,
        Descriptor.load files source = .ok descriptor ∧ Generation.classModel descriptor plain = .error fault)
      (stored : (Generation.run files source arguments).result = .error fault)
      (shown : (Generation.run files source plain).result = .error fault)
  | made {model : ClassModel} (made : built files source plain = .ok model)
      (shown : (Generation.run files source plain).result = .ok model.text)
      (stored : (Generation.run files source arguments).result = .ok model.text ∧
          (Generation.run files source arguments).files.content? (target typed model) =
            some (Text.encodeUtf8 model.text) ∨
        ∃ error path, (Generation.run files source arguments).result = .error (.storage error path))

theorem built_differs (differs : DiffersInOutput arguments plain typed) :
    built files source arguments = built files source plain := by
  have named := differs.rest "name" (by decide)
  have placed := differs.rest "package" (by decide)
  simp only [built, Generation.classModel, Generation.packageName, Arguments.given?, named, placed]

theorem endsBeside (differs : DiffersInOutput arguments plain typed) (named : hasNull typed = false) :
    EndsBeside files source arguments plain typed := by
  cases made : built files source plain with
  | error fault =>
    have also := (built_differs differs).trans made
    exact .refused (built_error_iff.mp made) (run_unbuilt also).1 (run_unbuilt made).1
  | ok model =>
    have also := (built_differs differs).trans made
    obtain ⟨result, left⟩ := run_stored also differs.given
    refine .made made (run_shown made differs.absent).1 ?_
    cases stored : files.store (target typed model) (Text.encodeUtf8 model.text) with
    | mk after ended =>
      rw [stored] at result left
      cases ended with
      | ok done =>
        obtain ⟨place, reached, writes⟩ := store_ok (.ofClass (.ofString typed) _ _) stored
        refine Or.inl ⟨result, ?_⟩
        rw [left]
        exact content?_leads_iff.mpr ⟨place, reached, writes.written⟩
      | error fault =>
        obtain ⟨-, ⟨null, -, -⟩ | ⟨error, path, rfl⟩⟩ := store_error stored
        · rw [hasNull_target named (built_accepted made)] at null
          cases null
        · exact Or.inr ⟨error, path, result⟩

/-- The second run reads the descriptor as the first did and stores what is there. -/
theorem run_again {directory : Json} (ran : (Generation.run files source arguments).result = .ok text)
    (asked : arguments.given? "output_dir" = some directory)
    (apart : ∀ typed model place, directory = .string typed → built files source arguments = .ok model →
      Leads files source place → ¬ Leads (Generation.run files source arguments).files (target typed model) place) :
    Generation.run (Generation.run files source arguments).files source arguments =
      Generation.run files source arguments := by
  obtain ⟨descriptor, model, loaded, settled, rfl⟩ := GenerationSafety.run_ok ran
  obtain ⟨typed, name, package, _, rfl, -⟩ := (GenerationSafety.run_safe files source arguments).stored _ _ ran asked
  have made : built files source arguments = .ok model := built_ok_iff.mpr ⟨descriptor, loaded, settled⟩
  obtain ⟨result, left⟩ := run_stored made asked
  cases stored : files.store (target typed model) (Text.encodeUtf8 model.text) with
  | mk after ended =>
    rw [stored] at result left
    cases ended with
    | error fault => cases ran.symm.trans result
    | ok done =>
      dsimp only at left
      rw [left] at apart ⊢
      have kept : Kept (target typed model) := .ofClass (.ofString typed) _ _
      have reloaded : Descriptor.load after source = .ok descriptor := by
        cases found : files.content? source with
        | none =>
          rw [Descriptor.load_eq, found] at loaded
          cases loaded
        | some bytes =>
          have still := content?_stored kept stored found (fun place => apart typed model place rfl made)
          rw [Descriptor.load_eq, found] at loaded
          rw [Descriptor.load_eq, still]
          exact loaded
      have directed : Generation.outputDirectory arguments = .ok (some (.ofString typed)) := by
        rw [Generation.outputDirectory, asked]
      have again := store_again kept stored
      rw [target] at stored again
      simp only [Generation.run, loaded, reloaded, settled, Generation.finish, directed, stored, again]

/-- Storing a class changes nothing about what a run answers, unless the file system stands
in its way; and a run that has stored its class can be made again without any effect. -/
theorem storing_is_repeatable_side_effect (files : FileSystem) (source : FilePath) (arguments : Arguments) :
    (∀ plain typed, DiffersInOutput arguments plain typed → hasNull typed = false →
      EndsBeside files source arguments plain typed) ∧
    ∀ text directory, (Generation.run files source arguments).result = .ok text →
      arguments.given? "output_dir" = some directory →
      (∀ typed model place, directory = .string typed → built files source arguments = .ok model →
        Leads files source place →
        ¬ Leads (Generation.run files source arguments).files (target typed model) place) →
      let first := Generation.run files source arguments
      let again := Generation.run first.files source arguments
      again.result = .ok text ∧ again.files = first.files := by
  refine ⟨fun _ _ differs named => endsBeside differs named, ?_⟩
  intro text directory ran asked apart first again
  have same : again = first := run_again ran asked apart
  rw [same]
  exact ⟨ran, rfl⟩

/-- The way to the new directory leads through one that is there and out again. -/
theorem new_directory_is_made_once :
    let files : FileSystem :=
      { entries := [(["d.json"], .file [0x7b, 0x7d]), (["out"], .directory)], workingDirectory := [] }
    let plain : Arguments := [("name", .string "P"), ("package", .string "p")]
    let arguments : Arguments := ("output_dir", .string "out/../new") :: plain
    let text := "package p;\npublic class P\x7b\n\n\tpublic P()\x7b\n\t\x7d\n\x7d\n"
    let first := Generation.run files (.ofString "d.json") arguments
    let again := Generation.run first.files (.ofString "d.json") arguments
    EndsBeside files (.ofString "d.json") arguments plain "out/../new" ∧
      first.result = .ok text ∧ again.result = .ok text ∧ again.files = first.files := by
  intro files plain arguments text first again
  let model : ClassModel := { packageName := "p", className := "P", typeParameters := [], members := [] }
  let path : FilePath := { root := .relative, parts := ["out", "..", "new", "p", "P.java"] }
  let made := (files.put ["new"] .directory).put ["p", "new"] .directory
  have settled : built files (.ofString "d.json") arguments = .ok model := rfl
  have shown : model.text = text := rfl
  have located : target "out/../new" model = path := by decide
  have visible : hasNull path.toString = false := by decide
  have provided : files.provideDirectories path.parent = (made, none) := by
    have around : files.provideDirectory path.parent.parent = .ok (files.put ["new"] .directory) := rfl
    have missing : files.provideDirectory path.parent = .error .absent := rfl
    have done : (files.put ["new"] .directory).provideDirectory path.parent = .ok made := rfl
    rw [FileSystem.provideDirectories, missing]
    dsimp only
    rw [if_neg (by decide), FileSystem.provideDirectories, around]
    dsimp only
    rw [done]
  have written (content : List UInt8) :
      made.writeFile path content = .ok (made.put ["P.java", "p", "new"] (.file content)) := rfl
  have stored (content : List UInt8) :
      files.store path content = (made.put ["P.java", "p", "new"] (.file content), .ok ()) := by
    simp only [FileSystem.store, visible, Bool.false_eq_true, if_false, provided, written]
  obtain ⟨ran, left⟩ := run_stored settled (by rfl : arguments.given? "output_dir" = some (.string "out/../new"))
  rw [located, stored] at left ran
  replace ran : first.result = .ok text := by rw [ran, ← shown]; rfl
  have differs : DiffersInOutput arguments plain "out/../new" := by
    refine ⟨rfl, rfl, fun key other => ?_⟩
    rw [List.lookup_cons, beq_eq_false_iff_ne.mpr other]
  refine ⟨(storing_is_repeatable_side_effect _ _ _).1 _ _ differs (by decide), ran, ?_⟩
  apply (storing_is_repeatable_side_effect files (.ofString "d.json") arguments).2 text (.string "out/../new") ran rfl
  intro typed other place same alsoSettled leads alsoLeads
  cases same
  cases settled.symm.trans alsoSettled
  rw [located, left] at alsoLeads
  have same : (["d.json"] : Place) = ["P.java", "p", "new"] := (walk_end leads).symm.trans (walk_end alsoLeads)
  revert same
  decide

end ParamBundle.Proofs.RepeatedRuns
