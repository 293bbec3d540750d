import ParamBundle.Proofs.DottedNames
import ParamBundle.Proofs.GenerationSafety
import ParamBundle.Proofs.LineFeeds

/-! Where a class is written, and what its text says about the place. The package is read
twice, once for the clause at the top of the text and once for the directories around the
file, and both readings come to the same identifiers. The file of a class has a dot in its
name and a directory of a package has none, so no class stands in the way of another. -/

namespace ParamBundle.Proofs.ClassPlacement
open ClassSettings DottedNames FileEffects FileSystem GenerationSafety LineFeeds

variable {files later : FileSystem} {directory : FilePath} {package name other otherName : String}

/-- A name that leads one directory down, whatever that directory is. -/
structure Plain (name : String) : Prop where
  visible : name ≠ ""
  elsewhere : name ≠ "."
  inwards : name ≠ ".."
  whole : '/' ∉ name.toList

private theorem plain_identifier (good : isIdentifier name = true) : Plain name := by
  refine ⟨?_, ?_, ?_, not_mem_isIdentifier good rfl⟩
  all_goals
    rintro rfl
    cases good

def fileName (name : String) : String := name ++ ".java"

theorem toList_fileName (name : String) : (fileName name).toList = name.toList ++ ['.', 'j', 'a', 'v', 'a'] :=
  String.toList_append

private theorem plain_fileName (good : isIdentifier name = true) : Plain (fileName name) := by
  have long : 4 < (fileName name).toList.length := by
    rw [toList_fileName, List.length_append]
    exact Nat.lt_add_left _ (by decide)
  have whole : '/' ∉ (fileName name).toList := by
    rw [toList_fileName, List.mem_append, not_or]
    exact ⟨(plain_identifier good).whole, by decide⟩
  refine ⟨?_, ?_, ?_, whole⟩
  all_goals
    intro same
    rw [same] at long
    revert long
    decide

/-- The dot in front of its ending keeps the file of a class from being called like a
directory of a package. -/
theorem fileName_foreign {segments : List String} (good : ∀ segment ∈ segments, isIdentifier segment = true) :
    fileName name ∉ segments := by
  intro member
  apply not_mem_isIdentifier (good _ member) (c := '.') rfl
  rw [toList_fileName]
  exact List.mem_append_right _ (by decide)

private theorem fileName_inj (same : fileName name = fileName otherName) : name = otherName :=
  (String.append_left_inj _).mp same

/-! ### Paths that are put together from plain names -/

private theorem splitSlashes_whole {text : List Char} (whole : '/' ∉ text) : FilePath.splitSlashes text = [text] := by
  induction text with
  | nil => rfl
  | cons c rest ih =>
    obtain ⟨first, others⟩ := not_or.mp (mt List.mem_cons.mpr whole)
    rw [FilePath.splitSlashes, if_neg (Ne.symm first), ih others]

private theorem mem_splitSlashes {text piece : List Char} (member : piece ∈ FilePath.splitSlashes text) :
    '/' ∉ piece ∧ piece ⊆ text := by
  induction text generalizing piece with
  | nil =>
    obtain rfl := List.mem_singleton.mp member
    exact ⟨List.not_mem_nil, List.nil_subset _⟩
  | cons c rest ih =>
    rw [FilePath.splitSlashes] at member
    split at member
    · rcases List.mem_cons.mp member with rfl | later
      · exact ⟨List.not_mem_nil, List.nil_subset _⟩
      · exact ⟨(ih later).1, List.subset_cons_of_subset c (ih later).2⟩
    next other =>
      split at member
      · obtain rfl := List.mem_singleton.mp member
        exact ⟨by simpa using Ne.symm other, List.cons_subset_cons c (List.nil_subset _)⟩
      next first others shape =>
        rcases List.mem_cons.mp member with rfl | later
        · obtain ⟨whole, within⟩ := ih (shape ▸ List.mem_cons_self)
          refine ⟨?_, List.cons_subset_cons c within⟩
          simpa using ⟨Ne.symm other, whole⟩
        · obtain ⟨whole, within⟩ := ih (shape ▸ List.mem_cons_of_mem first later)
          exact ⟨whole, List.subset_cons_of_subset c within⟩

/-- A part of a path holds no slash, and no character that was not typed. -/
theorem part_of_ofString {text part : String} (member : part ∈ (FilePath.ofString text).parts) :
    '/' ∉ part.toList ∧ part.toList ⊆ text.toList := by
  obtain ⟨piece, split, rfl⟩ := List.mem_map.mp (List.mem_filter.mp member).1
  rw [String.toList_ofList]
  exact mem_splitSlashes split

private theorem ofString_plain (plain : Plain name) : FilePath.ofString name = { root := .relative, parts := [name] } := by
  have root : FilePath.rootOf name.toList = .relative := by
    unfold FilePath.rootOf
    split
    all_goals first
      | rfl
      | next shape => exact absurd (shape ▸ List.mem_cons_self) plain.whole
  have part : FilePath.isPart name = true := by simp [FilePath.isPart, plain.visible, plain.elsewhere]
  simp [FilePath.ofString, FilePath.pieces, root, splitSlashes_whole plain.whole, part]

private theorem append_plain (directory : FilePath) (plain : Plain name) :
    directory ++ FilePath.ofString name = { directory with parts := directory.parts ++ [name] } := by
  rw [ofString_plain plain]
  rfl

private theorem foldl_append_plain {segments : List String} (directory : FilePath) (plain : ∀ segment ∈ segments, Plain segment) :
    segments.foldl (fun path segment => path ++ FilePath.ofString segment) directory =
      { directory with parts := directory.parts ++ segments } := by
  induction segments generalizing directory with
  | nil => simp
  | cons segment rest ih =>
    obtain ⟨first, others⟩ := List.forall_mem_cons.mp plain
    rw [List.foldl_cons, append_plain directory first, ih _ others]
    simp

/-! ### Where plain names lead -/

theorem enter_plain {place : Place} (plain : Plain name) : enter place name = name :: place := by
  rw [enter, if_neg (not_or.mpr ⟨plain.visible, plain.elsewhere⟩), if_neg plain.inwards]

theorem foldl_enter_plain {names : List String} (start : Place) (plain : ∀ name ∈ names, Plain name) :
    names.foldl enter start = names.reverse ++ start := by
  induction names generalizing start with
  | nil => rfl
  | cons name rest ih =>
    obtain ⟨first, others⟩ := List.forall_mem_cons.mp plain
    rw [List.foldl_cons, enter_plain first, ih _ others]
    simp

/-! ### The place of a class -/

/-- How a class lies below a directory: inside one directory for each segment of its
package, so that its depth is the number of segments and one. -/
structure LiesBelow (directory : FilePath) (package name : String) (segments : List String) : Prop where
  identifiers : ∀ segment ∈ segments, isIdentifier segment = true
  spelled : ".".intercalate segments = package
  default : segments = [] ↔ package = ""
  plain : ∀ part ∈ segments ++ [fileName name], Plain part
  target : FilePath.ofClass directory package name =
    { directory with parts := directory.parts ++ (segments ++ [fileName name]) }

/-- The names that a draft takes. -/
def Accepted (package name : String) : Prop :=
  (∃ draft, Draft.setPackageName {} (.string package) = .ok draft) ∧
    ∃ draft, Draft.setClassName {} (.string name) = .ok draft

theorem accepted_iff : Accepted package name ↔ IsPackage package ∧ isIdentifier name = true := by
  simp [Accepted, setPackageName_ok_iff, setClassName_ok_iff]

private theorem liesBelow_of_segments {segments : List String} (good : ∀ segment ∈ segments, isIdentifier segment = true)
    (spelled : ".".intercalate segments = package) (default : segments = [] ↔ package = "")
    (read : packageSegments package = segments) (named : isIdentifier name = true) :
    LiesBelow directory package name segments := by
  have plain : ∀ segment ∈ segments, Plain segment := fun segment member => plain_identifier (good segment member)
  refine ⟨good, spelled, default, ?_, ?_⟩
  · intro part member
    rcases List.mem_append.mp member with member | member
    · exact plain part member
    · exact List.mem_singleton.mp member ▸ plain_fileName named
  · rw [FilePath.ofClass, read, foldl_append_plain directory plain]
    change _ ++ FilePath.ofString (fileName name) = _
    rw [append_plain _ (plain_fileName named), List.append_assoc]

theorem lies_below (directory : FilePath) (accepted : Accepted package name) :
    ∃ segments, LiesBelow directory package name segments := by
  obtain ⟨placed, named⟩ := accepted_iff.mp accepted
  rcases placed with rfl | dotted
  · exact ⟨[], liesBelow_of_segments (by simp) rfl (by simp) rfl named⟩
  · have dotted := isDottedIdentifier_iff.mp dotted
    obtain ⟨segments, some, good, rfl⟩ := dotted
    have default : segments = [] ↔ ".".intercalate segments = "" :=
      iff_of_false some (IsDotted.visible ⟨segments, some, good, rfl⟩)
    exact ⟨segments, liesBelow_of_segments good rfl default (packageSegments_dotted some good) named⟩

/-- Where the class lies once its directories are there. -/
theorem LiesBelow.place {segments : List String} {place : Place} (below : LiesBelow directory package name segments)
    (reached : files.walk (files.start directory.root) (FilePath.ofClass directory package name).parts = .ok place) :
    ∃ inner, files.walk (files.start directory.root) directory.parts = .ok inner ∧
      place = (segments ++ [fileName name]).reverse ++ inner := by
  rw [below.target] at reached
  obtain ⟨inner, entered, rest⟩ := walk_append reached
  exact ⟨inner, entered, (walk_end rest).trans (foldl_enter_plain inner below.plain)⟩

/-! ### Two classes below one directory -/

/-- A way that ends in a name which the other way only passes directories to get by. -/
theorem last_of_prefix {segments others : List String} {last final : String} (foreign : last ∉ others)
    (through : segments ++ [last] <+: others ++ [final]) : segments = others ∧ last = final := by
  obtain ⟨rest, same⟩ := through
  rcases List.eq_nil_or_concat rest with rfl | ⟨inner, beyond, rfl⟩
  · rw [List.append_nil] at same
    obtain ⟨segments, last⟩ := List.append_inj' same rfl
    exact ⟨segments, List.singleton_inj.mp last⟩
  · rw [List.concat_eq_append, ← List.append_assoc] at same
    obtain ⟨whole, -⟩ := List.append_inj' same rfl
    exact absurd (by simp [← whole]) foreign

/-- The second of two targets is not the first one and does not lie behind it, neither as a
path nor as a place in a file system, whatever state that is in. -/
structure Clear (first second : FilePath) : Prop where
  paths : first.root = second.root → ¬ first.parts <+: second.parts
  places : ∀ (files later : FileSystem) place beyond, later.workingDirectory = files.workingDirectory →
    files.walk (files.start first.root) first.parts = .ok place →
    later.walk (later.start second.root) second.parts = .ok beyond → ¬ place <:+ beyond

theorem clear_of_ne (directory : FilePath) (accepted : Accepted package name) (also : Accepted other otherName)
    (differ : (package, name) ≠ (other, otherName)) :
    Clear (FilePath.ofClass directory package name) (FilePath.ofClass directory other otherName) := by
  obtain ⟨segments, below⟩ := lies_below directory accepted
  obtain ⟨others, behind⟩ := lies_below directory also
  have apart : ¬ segments ++ [fileName name] <+: others ++ [fileName otherName] := by
    intro through
    obtain ⟨rfl, file⟩ := last_of_prefix (fileName_foreign behind.identifiers) through
    apply differ
    rw [← below.spelled, ← behind.spelled, fileName_inj file]
  constructor
  · intro _ through
    rw [below.target, behind.target, List.prefix_append_right_inj] at through
    exact apart through
  · intro files later place beyond same reached also
    -- The directory itself may be reached through two dots, but for both classes alike.
    have start : later.start directory.root = files.start directory.root := by
      cases directory.root <;> simp [FileSystem.start, same]
    rw [below.target] at reached
    rw [behind.target] at also
    obtain ⟨inner, entered, rest⟩ := walk_append reached
    obtain ⟨also, alsoEntered, alsoRest⟩ := walk_append also
    obtain rfl : also = inner := by rw [walk_end entered, walk_end alsoEntered, start]
    rw [walk_end rest, walk_end alsoRest, foldl_enter_plain _ below.plain, foldl_enter_plain _ behind.plain]
    intro within
    rw [← List.reverse_prefix] at within
    simp only [List.reverse_append, List.reverse_reverse, List.prefix_append_right_inj] at within
    exact apart within

/-! ### The text of the class -/

/-- How the text of a class begins: with the clause of its package, which the default
package has none of, and with the header of the class. -/
structure Opens (text package name : String) (typeParameters : List String) : Prop where
  start : ∃ rest, text = (if package = "" then "" else "package " ++ package ++ ";\n") ++
    "public class " ++ name ++ typeClause typeParameters ++ "\x7b\n" ++ rest
  clause : "package ".toList <+: text.toList ↔ package ≠ ""

private theorem unlines_append (first second : List String) :
    Text.unlines (first ++ second) = Text.unlines first ++ Text.unlines second := by
  simp [Text.unlines, String.join_append]

private theorem unlines_packageLines (model : ClassModel) : Text.unlines model.packageLines =
    if model.packageName = "" then "" else "package " ++ model.packageName ++ ";\n" := by
  by_cases default : model.packageName = ""
  · simp [ClassModel.packageLines, Text.unlines, default]
  · simp [ClassModel.packageLines, Text.unlines, default, String.append_assoc]

theorem text_opens (model : ClassModel) : Opens model.text model.packageName model.className model.typeParameters := by
  obtain ⟨rest, start⟩ : ∃ rest, model.text =
      Text.unlines model.packageLines ++ (Text.unlines [model.header] ++ rest) := by
    simp only [ClassModel.text, ClassModel.lines, List.append_assoc, unlines_append]
    exact ⟨_, rfl⟩
  have header : Text.unlines [model.header] =
      "public class " ++ model.className ++ typeClause model.typeParameters ++ "\x7b\n" := by
    simp [Text.unlines, header_eq, String.append_assoc]
  rw [header, unlines_packageLines] at start
  refine ⟨⟨rest, by rw [start]; simp only [String.append_assoc]⟩, ?_⟩
  rw [start]
  by_cases default : model.packageName = ""
  · simp [default]
  · simp [default]

/-! ### Runs -/

theorem classModel_accepted {descriptor : Descriptor} {arguments : Arguments} {model : ClassModel}
    (built : Generation.classModel descriptor arguments = .ok model) :
    Accepted model.packageName model.className ∧ model.typeParameters = descriptor.typeParameters := by
  unfold Generation.classModel at built
  split at built
  · obtain ⟨name, package, members, -, named, -, placed, -, -, rfl⟩ := classModel_ok_iff.mp built
    exact ⟨accepted_iff.mpr ⟨placed, named⟩, rfl⟩
  · cases built

structure WrittenBelow (files after : FileSystem) (directory : FilePath) (package name : String)
    (typeParameters : List String) (text : String) : Prop where
  opens : Opens text package name typeParameters
  placed : ∃ segments, LiesBelow directory package name segments ∧
    ∃ inner, after.walk (after.start directory.root) directory.parts = .ok inner ∧
      Writes files after ((segments ++ [fileName name]).reverse ++ inner) (Text.encodeUtf8 text)

theorem run_writtenBelow {source : FilePath} {arguments : Arguments} {text : String} {typed : Json}
    (ran : (Generation.run files source arguments).result = .ok text) (asked : arguments.given? "output_dir" = some typed) :
    ∃ directory name package descriptor, typed = .string directory ∧
      arguments.lookup "name" = some (.string name) ∧ Descriptor.load files source = .ok descriptor ∧
      (arguments.given? "package").getD (.string descriptor.packageName) = .string package ∧ Accepted package name ∧
      WrittenBelow files (Generation.run files source arguments).files (.ofString directory) package name
        descriptor.typeParameters text := by
  obtain ⟨descriptor, model, loaded, built, rfl⟩ := run_ok ran
  obtain ⟨accepted, typeParameters⟩ := classModel_accepted built
  obtain ⟨directory, name, package, _, rfl, given, alsoLoaded, effective, place, reached, writes⟩ :=
    (run_safe files source arguments).stored _ _ ran asked
  cases loaded.symm.trans alsoLoaded
  -- The run and the class it answers with take name and package from the same arguments.
  obtain ⟨alsoGiven, alsoEffective⟩ := classModel_names built
  cases given.symm.trans alsoGiven
  cases effective.symm.trans alsoEffective
  obtain ⟨segments, below⟩ := lies_below (.ofString directory) accepted
  have root : (FilePath.ofClass (.ofString directory) model.packageName model.className).root =
      (FilePath.ofString directory).root := by rw [below.target]
  rw [root] at reached
  obtain ⟨inner, entered, rfl⟩ := below.place reached
  refine ⟨directory, _, _, descriptor, rfl, given, loaded, effective, accepted, ?_, segments, below, inner, entered, writes⟩
  rw [← typeParameters]
  exact text_opens model

/-- A class is written below the output directory in the directories of the package that its
text names, under its own name. Classes that differ in package or name never meet there. -/
theorem class_lies_where_it_says :
    (∀ files source arguments text typed, (Generation.run files source arguments).result = .ok text →
      arguments.given? "output_dir" = some typed →
      ∃ directory name package descriptor, typed = .string directory ∧
        arguments.lookup "name" = some (.string name) ∧ Descriptor.load files source = .ok descriptor ∧
        (arguments.given? "package").getD (.string descriptor.packageName) = .string package ∧ Accepted package name ∧
        WrittenBelow files (Generation.run files source arguments).files (.ofString directory) package name
          descriptor.typeParameters text) ∧
    ∀ directory package name other otherName, Accepted package name → Accepted other otherName →
      (package, name) ≠ (other, otherName) →
      Clear (FilePath.ofClass directory package name) (FilePath.ofClass directory other otherName) :=
  ⟨fun _ _ _ _ _ ran asked => run_writtenBelow ran asked,
    fun directory _ _ _ _ accepted also differ => clear_of_ne directory accepted also differ⟩

/-- The directory `geo` is there and `flat` is not; a class of the package `geo` may be
called like the directory. -/
theorem flat_point_lies_below_geo :
    let files : FileSystem :=
      { entries := [(["descriptor"], .file [0x7b, 0x7d]), (["out"], .directory), (["geo", "out"], .directory)]
        workingDirectory := [] }
    let arguments : Arguments :=
      [("name", .string "P"), ("package", .string "geo.flat"), ("output_dir", .string "out/../out")]
    let text := "package geo.flat;\npublic class P\x7b\n\n\tpublic P()\x7b\n\t\x7d\n\x7d\n"
    let outcome := Generation.run files (.ofString "descriptor") arguments
    outcome.result = .ok text ∧
      WrittenBelow files outcome.files (.ofString "out/../out") "geo.flat" "P" [] text ∧
      Clear (FilePath.ofClass (.ofString "out") "geo" "flat") (FilePath.ofClass (.ofString "out") "geo.flat" "P") := by
  intro files arguments text outcome
  let model : ClassModel := { packageName := "geo.flat", className := "P", typeParameters := [], members := [] }
  let target : FilePath := { root := .relative, parts := ["out", "..", "out", "geo", "flat", "P.java"] }
  let made := files.put ["flat", "geo", "out"] .directory
  have loaded : Descriptor.load files (.ofString "descriptor") = .ok {} := rfl
  have built : Generation.classModel {} arguments = .ok model := rfl
  have shown : model.text = text := rfl
  have asked : Generation.outputDirectory arguments = .ok (some (.ofString "out/../out")) := rfl
  have located : FilePath.ofClass (.ofString "out/../out") model.packageName model.className = target := by decide
  have visible : FileSystem.hasNull target.toString = false := by decide
  have provided : files.provideDirectories target.parent = (made, none) := by
    have done : files.provideDirectory target.parent = .ok made := rfl
    rw [FileSystem.provideDirectories, done]
  have written (content : List UInt8) :
      made.writeFile target content = .ok (made.put ["P.java", "flat", "geo", "out"] (.file content)) := rfl
  have stored (content : List UInt8) :
      files.store target content = (made.put ["P.java", "flat", "geo", "out"] (.file content), .ok ()) := by
    simp only [FileSystem.store, visible, Bool.false_eq_true, if_false, provided, written]
  have ran : outcome.result = .ok text := by
    simp only [outcome, Generation.run, loaded, built, Generation.finish, asked, located]
    rw [stored, shown]
  have accepted (package name : String) (placed : isDottedIdentifier package = true) (named : isIdentifier name = true) :
      Accepted package name := accepted_iff.mpr ⟨Or.inr placed, named⟩
  obtain ⟨directory, name, package, descriptor, given, named, alsoLoaded, effective, -, below⟩ :=
    class_lies_where_it_says.1 files (.ofString "descriptor") arguments text (.string "out/../out") ran rfl
  cases given
  cases named
  cases effective
  cases loaded.symm.trans alsoLoaded
  refine ⟨ran, below, class_lies_where_it_says.2 _ _ _ _ _ ?_ ?_ (by decide)⟩
  · exact accepted _ _ (by decide) (by decide)
  · exact accepted _ _ (by decide) (by decide)

end ParamBundle.Proofs.ClassPlacement
