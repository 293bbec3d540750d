import ParamBundle.Proofs.CommandLineShell
import ParamBundle.Proofs.RunStages

/-! What the log of a run adds. A verbose run ends as the quiet one does and only has its log
in front of what it prints to the error stream. A record is logged once all checks of its
stage have passed, so the log tells how far the run has come. -/

namespace ParamBundle.Proofs.VerboseRuns
open CommandLine CommandLineShell ConsoleLaws DescriptorFiles RunStages Traversal
open DescriptorSchema (IsDescriptor)
open GenerationStages (Complete classModel_succeeds_iff packageOf)

variable {console : Console} {files : FileSystem} {words flags : List String} {order : Order}
  {descriptor : Descriptor} {model : ClassModel} {block : String}

/-! ### The two runs -/

/-- Two endings that differ by what comes first on the error stream. -/
inductive SameButFor (block : String) : Ending → Ending → Prop where
  | finished (status : Nat) (stdout stderr : String) :
      SameButFor block (.finished status stdout stderr) (.finished status stdout (block ++ stderr))
  | failed (fault : Fault) : SameButFor block (.failed fault) (.failed fault)

private theorem sameButFor_after {result : Except Fault String} {ending : Ending} (shown : Shown order result ending) :
    SameButFor block ending (ending.after block) := by
  cases shown with
  | made => exact .finished 0 _ _
  | rejected => exact .finished 1 _ _
  | raised => exact .failed _

structure AddsLog (console : Console) (files : FileSystem) (quiet loud : List String) (block : String) : Prop where
  left : (console.run files loud).2 = (console.run files quiet).2
  ending : SameButFor block (console.run files quiet).1 (console.run files loud).1
  errors : console.errorText files loud = block ++ console.errorText files quiet

private theorem addsLog (conforms : Conforms console) (asked : console.read files words = .generate false order)
    (given : flags ≠ []) (verbose : ∀ flag ∈ flags, IsVerbose flag) :
    AddsLog console files words (flags ++ words) (logText (applied files order).log) := by
  have quiet := run_of_quiet asked
  have silent := (run_of_order asked).1
  obtain ⟨log, loud⟩ := run_of_order (conforms.louder files flags words order given verbose asked)
  have shown := finish_shown conforms order (applied files order).result
  have same : SameButFor (logText (applied files order).log) _ _ := sameButFor_after shown
  refine ⟨by rw [loud, quiet], by rw [loud, quiet]; exact same, ?_⟩
  rw [Console.errorText, Console.errorText, loud, quiet, log, silent]
  revert same
  generalize console.conclude (order.finish (applied files order).result) = ending
  simp only [if_true]
  generalize ending.after (logText (applied files order).log) = louder
  intro same
  cases same with
  | finished => rfl
  | failed => exact String.append_empty.symm

/-! ### The lines -/

def loadedLine (fields : Nat) (source : String) : String :=
  "DEBUG paramobject.core.descriptor: Loaded " ++ toString fields ++ " parameter(s) from " ++ source

def renderingLine (name : String) (fields : Nat) : String :=
  "DEBUG paramobject.core.builder: Rendering parameter object " ++ name ++ " with " ++ toString fields ++ " field(s)"

def wroteLine (target : String) : String :=
  "INFO paramobject.commands.simplifying_method_calls.introduce_parameter_object: Wrote " ++ target

theorem line_loaded (fields : Nat) (source : String) :
    (LogRecord.loaded fields source).line = loadedLine fields source := rfl

theorem line_rendering (name : String) (fields : Nat) :
    (LogRecord.rendering name fields).line = renderingLine name fields := by
  have speaker : "DEBUG paramobject.core.builder: " ++ "Rendering parameter object " =
      "DEBUG paramobject.core.builder: Rendering parameter object " := by decide
  have grouped (a b c d e f : String) : a ++ (b ++ c ++ d ++ e ++ f) = a ++ b ++ c ++ d ++ e ++ f := by
    simp only [String.append_assoc]
  unfold renderingLine
  rw [← speaker, ← grouped]
  exact rfl

theorem line_wrote (target : String) : (LogRecord.wrote target).line = wroteLine target := by
  have speaker : "INFO paramobject.commands.simplifying_method_calls.introduce_parameter_object: " ++ "Wrote " =
      "INFO paramobject.commands.simplifying_method_calls.introduce_parameter_object: Wrote " := by decide
  unfold wroteLine
  rw [← speaker, String.append_assoc]
  exact rfl

/-! ### The records -/

def Holds (files : FileSystem) (path : FilePath) (value : Json) : Prop :=
  ∃ content, files.content? path = some (Text.encodeUtf8 content) ∧ Json.read (withLineFeeds content) = .ok value

def entries : Json → List Json
  | .object members =>
    match (members.lookup "parameters").getD (.array []) with
    | .array entries => entries
    | _ => []
  | _ => []

private theorem fields_of_ofJson {source : String} {value : Json} (read : Descriptor.ofJson source value = .ok descriptor) :
    descriptor.fields.length = (entries value).length := by
  cases value with
  | object members =>
    simp only [Descriptor.ofJson, Descriptor.ofMembers] at read
    split at read
    · split at read
      · split at read
        next parameters listed =>
          obtain ⟨style, -, read⟩ := bind_ok_iff.mp read
          obtain ⟨fields, resolved, same⟩ := bind_ok_iff.mp read
          cases same
          rw [entries, listed]
          exact (mapM_ok_iff.mp resolved).length_eq.symm
        · cases read
      · cases read
    · cases read
  | _ => cases read

private theorem load_of_holds {path : FilePath} {value : Json} (holds : Holds files path value) :
    Descriptor.load files path = Descriptor.ofJson path.toString value := by
  obtain ⟨content, found, read⟩ := holds
  rw [withLineFeeds] at read
  simp only [Descriptor.load_eq, found, Descriptor.ofBytes, Utf8Codec.decode_encodeUtf8, Descriptor.ofText,
    Descriptor.parse, read]

/-- A descriptor has as many fields as its document lists parameters. -/
theorem load_holds {path : FilePath} (loaded : Descriptor.load files path = .ok descriptor) :
    ∃ value, Holds files path value ∧ descriptor.fields.length = (entries value).length := by
  have loads := loadOn_loads {} files path
  rw [← Descriptor.load, loaded] at loads
  cases loads with
  | @decided content value _ reads _ read _ =>
    have holds : Holds files path value := ⟨content, reads.2.1, read⟩
    exact ⟨value, holds, fields_of_ofJson ((load_of_holds holds).symm.trans loaded)⟩

section Records
variable (files : FileSystem) (order : Order)

def Stores (path : FilePath) : Prop :=
  ∃ directory model after, order.outputDirectory = some directory ∧
    built files (.ofString order.descriptor) order.arguments = .ok model ∧ path = target directory model ∧
    files.store path (Text.encodeUtf8 model.text) = (after, .ok ())

def Accepts (descriptor : Descriptor) : Prop :=
  Descriptor.load files (.ofString order.descriptor) = .ok descriptor ∧
    Complete descriptor (.string order.name) (packageOf descriptor (order.package.map .string))

/-- The log of an order by how far it comes. -/
inductive Stages : List LogRecord → Prop where
  | unread (unread : ∀ descriptor, Descriptor.load files (.ofString order.descriptor) ≠ .ok descriptor) : Stages []
  | loaded {descriptor : Descriptor} (loaded : Descriptor.load files (.ofString order.descriptor) = .ok descriptor)
      (refused : ¬ Accepts files order descriptor) :
      Stages [.loaded descriptor.fields.length (FilePath.ofString order.descriptor).toString]
  | rendering {descriptor : Descriptor} (accepts : Accepts files order descriptor)
      (unwritten : ∀ path, ¬ Stores files order path) :
      Stages [.loaded descriptor.fields.length (FilePath.ofString order.descriptor).toString,
        .rendering order.name descriptor.fields.length]
  | wrote {descriptor : Descriptor} {path : FilePath} (accepts : Accepts files order descriptor)
      (stores : Stores files order path) :
      Stages [.loaded descriptor.fields.length (FilePath.ofString order.descriptor).toString,
        .rendering order.name descriptor.fields.length, .wrote path.toString]

/-- What the printed lines say of the order. Each is there exactly when its stage has been
reached, and both numbers are that of the entries in the document. -/
structure Tells (lines : List String) : Prop where
  ordered : ∃ fields written,
    lines <+: [loadedLine fields (FilePath.ofString order.descriptor).toString, renderingLine order.name fields, wroteLine written]
  loaded : ∀ line, lines[0]? = some line ↔ ∃ descriptor,
    Descriptor.load files (.ofString order.descriptor) = .ok descriptor ∧
      line = loadedLine descriptor.fields.length (FilePath.ofString order.descriptor).toString
  rendering : ∀ line, lines[1]? = some line ↔ ∃ descriptor,
    Accepts files order descriptor ∧ line = renderingLine order.name descriptor.fields.length
  wrote : ∀ line, lines[2]? = some line ↔ ∃ path, Stores files order path ∧ line = wroteLine path.toString
  counted : ∀ descriptor, Descriptor.load files (.ofString order.descriptor) = .ok descriptor →
    ∃ value, Holds files (.ofString order.descriptor) value ∧ descriptor.fields.length = (entries value).length

end Records

private theorem given?_outputDirectory (order : Order) :
    order.arguments.given? "output_dir" = order.outputDirectory.map .string := by
  cases order with
  | mk descriptor name package outputDirectory => cases outputDirectory <;> rfl

private theorem classModel_order (descriptor : Descriptor) (order : Order) : Generation.classModel descriptor order.arguments =
    descriptor.classModel (.string order.name) (packageOf descriptor (order.package.map .string)) := by
  cases order with
  | mk source name package outputDirectory => cases package <;> rfl

theorem accepts_iff (loaded : Descriptor.load files (.ofString order.descriptor) = .ok descriptor) :
    Accepts files order descriptor ↔ ∃ model, Generation.classModel descriptor order.arguments = .ok model := by
  rw [classModel_order, classModel_succeeds_iff]
  exact and_iff_right loaded

/-- The class is called as the order says and has a member for each field. -/
theorem rendered_of_classModel (settled : Generation.classModel descriptor order.arguments = .ok model) :
    LogRecord.rendering model.className model.members.length = .rendering order.name descriptor.fields.length := by
  rw [classModel_order] at settled
  obtain ⟨name, package, members, same, -, -, -, -, resolved, rfl⟩ := ClassSettings.classModel_ok_iff.mp settled
  cases same
  rw [(mapM_ok_iff.mp resolved).length_eq]

theorem stages_applied (files : FileSystem) (order : Order) : Stages files order (applied files order).log := by
  rw [applied_eq_run, Generation.run]
  cases loaded : Descriptor.load files (.ofString order.descriptor) with
  | error fault => exact .unread (by simp [loaded])
  | ok descriptor =>
    dsimp only
    cases settled : Generation.classModel descriptor order.arguments with
    | error fault =>
      apply Stages.loaded loaded
      rw [accepts_iff loaded, settled]
      simp
    | ok model =>
      have accepts := (accepts_iff loaded).mpr ⟨model, settled⟩
      have made : built files (.ofString order.descriptor) order.arguments = .ok model :=
        built_ok_iff.mpr ⟨descriptor, loaded, settled⟩
      dsimp only
      rw [rendered_of_classModel settled, Generation.finish, Generation.outputDirectory, given?_outputDirectory]
      cases asked : order.outputDirectory with
      | none =>
        apply Stages.rendering accepts
        rintro path ⟨directory, _, _, given, -⟩
        cases asked.symm.trans given
      | some directory =>
        dsimp only [Option.map_some]
        cases stored : files.store (.ofClass (.ofString directory) model.packageName model.className)
            (Text.encodeUtf8 model.text) with
        | mk after ended =>
          cases ended with
          | ok done => exact Stages.wrote accepts ⟨directory, model, after, asked, made, rfl, stored⟩
          | error fault =>
            apply Stages.rendering accepts
            rintro path ⟨other, again, left, given, also, rfl, done⟩
            cases asked.symm.trans given
            cases made.symm.trans also
            cases stored.symm.trans done

theorem Accepts.only (accepts : Accepts files order descriptor) {other : Descriptor} :
    Accepts files order other ↔ other = descriptor := by
  constructor
  · intro also
    cases accepts.1.symm.trans also.1
    rfl
  · rintro rfl
    exact accepts

theorem Stores.only {path other : FilePath} (stores : Stores files order path) :
    Stores files order other ↔ other = path := by
  constructor
  · intro also
    obtain ⟨directory, model, after, asked, made, rfl, -⟩ := stores
    obtain ⟨_, again, later, alsoAsked, alsoMade, rfl, -⟩ := also
    cases asked.symm.trans alsoAsked
    cases made.symm.trans alsoMade
    rfl
  · rintro rfl
    exact stores

theorem Stores.accepts {path : FilePath} (stores : Stores files order path) : ∃ descriptor, Accepts files order descriptor := by
  obtain ⟨directory, model, after, -, made, -, -⟩ := stores
  obtain ⟨descriptor, loaded, settled⟩ := built_ok_iff.mp made
  exact ⟨descriptor, (accepts_iff loaded).mpr ⟨model, settled⟩⟩

theorem Stages.tells {log : List LogRecord} (stages : Stages files order log) :
    Tells files order (log.map (·.line)) := by
  cases stages with
  | unread unread =>
    have none (path : FilePath) : ¬ Stores files order path := by
      intro stores
      obtain ⟨descriptor, loaded, -⟩ := stores.accepts
      exact unread descriptor loaded
    refine ⟨⟨0, "", List.nil_prefix⟩, ?_, ?_, ?_, fun _ => load_holds⟩
    · simp [unread]
    · simp [Accepts, unread]
    · simp [none]
  | @loaded descriptor loaded refused =>
    have never (other : Descriptor) : ¬ Accepts files order other := by
      intro accepts
      cases loaded.symm.trans accepts.1
      exact refused accepts
    have none (path : FilePath) : ¬ Stores files order path := by
      intro stores
      obtain ⟨other, accepts⟩ := stores.accepts
      exact never other accepts
    refine ⟨⟨descriptor.fields.length, "", by simp [line_loaded]⟩, ?_, ?_, ?_, fun _ => load_holds⟩
    · simp [loaded, line_loaded, eq_comm]
    · simp [never]
    · simp [none]
  | @rendering descriptor accepts unwritten =>
    refine ⟨⟨descriptor.fields.length, "", by simp [line_loaded, line_rendering]⟩, ?_, ?_, ?_, fun _ => load_holds⟩
    · simp [accepts.1, line_loaded, eq_comm]
    · simp [accepts.only, line_rendering, eq_comm]
    · simp [unwritten]
  | @wrote descriptor path accepts stores =>
    refine ⟨⟨descriptor.fields.length, path.toString, by simp [line_loaded, line_rendering, line_wrote]⟩,
      ?_, ?_, ?_, fun _ => load_holds⟩
    · simp [accepts.1, line_loaded, eq_comm]
    · simp [accepts.only, line_rendering, eq_comm]
    · simp [stores.only, line_wrote, eq_comm]

/-- A run with flags that ask for the log does all that the run without them does. In front
of its errors it prints the lines of the log, which say how far the call has come. -/
theorem verbose_run_only_adds_log (conforms : Conforms console)
    (asked : console.read files words = .generate false order) (given : flags ≠ [])
    (verbose : ∀ flag ∈ flags, IsVerbose flag) :
    let lines := (applied files order).log.map (·.line)
    Tells files order lines ∧
      AddsLog console files words (flags ++ words) (String.join (lines.map (· ++ "\n"))) :=
  ⟨(stages_applied files order).tells, addsLog conforms asked given verbose⟩

/-- An option without an equals sign takes the next word for its value. -/
theorem read_option {text value : String} {named : OptionName} {given : Given} (option : isOption text = true)
    (whole : splitValue text = (text, none)) (known : OptionName.ofText? text = some named) {rest : List String}
    (read : Given.read rest = some given) : Given.read (text :: value :: rest) = some (given.addOption named value) := by
  have other : text ≠ "--" := by
    rintro rfl
    cases known
  rw [Given.read, if_neg other, if_pos option, whole]
  simp only [known, read, Option.map_some]

/-- A file in the place of the package is met when both checks have passed. -/
theorem occupied_package_is_met_after_rendering :
    let files : FileSystem :=
      { entries := [(["d.json"], .file [0x7b, 0x7d]), (["p"], .file [])], workingDirectory := [] }
    let words := ["introduce-parameter-object", "--name", "P", "--package", "p", "--output-dir", ".", "d.json"]
    let order : Order := { descriptor := "d.json", name := "P", package := some "p", outputDirectory := some "." }
    let lines := [
      "DEBUG paramobject.core.descriptor: Loaded 0 parameter(s) from d.json",
      "DEBUG paramobject.core.builder: Rendering parameter object P with 0 field(s)"]
    Console.standard.read files words = .generate false order ∧
      (Console.standard.run files words).1 = .failed (.storage .occupied "p") ∧
      Tells files order lines ∧
      AddsLog .standard files words ("-vv" :: "--verbose" :: words) (String.join (lines.map (· ++ "\n"))) := by
  intro files words order lines
  have unflagged : readFlags {} words = some ({}, words) := by
    have subcommand : isOption "introduce-parameter-object" = false := by decide
    rw [readFlags, subcommand]
    rfl
  have positional : Given.read ["d.json"] = some { positionals := ["d.json"] } := by decide
  have directory : Given.read ("--output-dir" :: "." :: ["d.json"]) = some _ :=
    read_option (by decide) (by decide) rfl positional
  have package : Given.read ("--package" :: "p" :: _) = some _ := read_option (by decide) (by decide) rfl directory
  let given : Given :=
    { options := [(.name, "P"), (.package, "p"), (.outputDirectory, ".")], positionals := ["d.json"] }
  have read : Given.read ("--name" :: "P" :: _) = some given := read_option (by decide) (by decide) rfl package
  have free : checkOutputDirectory files given = .ok () := by
    have typed : given.value? .outputDirectory = some "." := rfl
    have named : FileSystem.hasNull "." = false := by decide
    have present : files.lookupText? "." = some .directory := rfl
    simp only [checkOutputDirectory, typed, named, present, Bool.false_eq_true, if_false]
  have found : checkDescriptor files given = .ok "d.json" := by
    have typed : given.positionals = ["d.json"] := rfl
    have named : FileSystem.hasNull "d.json" = false := by decide
    have present : files.lookupText? "d.json" = some (.file [0x7b, 0x7d]) := rfl
    simp only [checkDescriptor, typed, named, present, Bool.false_eq_true, if_false]
  have ordered : Console.standard.read files words = .generate false order := by
    apply standard_read unflagged read
    rw [Order.ofGiven, free, found]
    rfl
  let model : ClassModel := { packageName := "p", className := "P", typeParameters := [], members := [] }
  let path : FilePath := { root := .relative, parts := ["p", "P.java"] }
  have loaded : Descriptor.load files (.ofString order.descriptor) = .ok {} := by decide
  have settled : Generation.classModel {} order.arguments = .ok model := by decide
  have asked : Generation.outputDirectory order.arguments = .ok (some (.ofString ".")) := rfl
  have located : FilePath.ofClass (.ofString ".") model.packageName model.className = path := by decide
  have visible : FileSystem.hasNull path.toString = false := by decide
  have refused (content : List UInt8) : files.store path content = (files, .error (.storage .occupied "p")) := by
    have occupied : files.provideDirectory path.parent = .error .occupied := rfl
    have shown : path.parent.toString = "p" := by decide
    rw [FileSystem.store, visible, if_neg (by decide), FileSystem.provideDirectories, occupied, shown]
  have outcome : applied files order =
      { result := .error (.storage .occupied "p"), files, log := [.loaded 0 "d.json", .rendering "P" 0] } := by
    have shown : (FilePath.ofString order.descriptor).toString = "d.json" := by decide
    rw [applied_eq_run]
    simp only [Generation.run, loaded, settled, Generation.finish, asked, located, refused, shown]
    rfl
  have logged : (applied files order).log.map (·.line) = lines := by
    simp only [outcome, List.map_cons, List.map_nil, line_loaded, line_rendering]
    decide
  have verbose : ∀ flag ∈ ["-vv", "--verbose"], IsVerbose flag := by
    intro flag member
    rcases List.mem_pair.mp member with rfl | rfl
    · exact Or.inr ⟨1, by decide⟩
    · exact Or.inl rfl
  obtain ⟨tells, adds⟩ :=
    verbose_run_only_adds_log standard_conforms ordered (by decide : ["-vv", "--verbose"] ≠ []) verbose
  rw [logged] at tells adds
  refine ⟨ordered, ?_, tells, adds⟩
  rw [run_of_quiet ordered, outcome]
  rfl

end ParamBundle.Proofs.VerboseRuns
