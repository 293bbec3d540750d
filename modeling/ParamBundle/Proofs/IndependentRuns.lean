import ParamBundle.Proofs.RootedFiles
import ParamBundle.Proofs.RunStages

/-! Two generations below one output directory. A call reads its descriptor and then asks of
the files only whether a regular file stands in the way of its target or a directory at its
end. Another class adds directories and one file that are neither, so the calls can be made
in either order. -/

namespace ParamBundle.Proofs.IndependentRuns
open ClassPlacement FileEffects FileSystem RootedFiles RunStages

structure Request where
  descriptor : String
  arguments : Arguments

variable {files after : FileSystem} {request first second : Request} {directory : String} {model other : ClassModel}
  {fault : Fault} {result : Except Fault String} {stored : Option ClassModel}

namespace Request

def source (request : Request) : FilePath := .ofString request.descriptor

def apply (request : Request) (files : FileSystem) : Outcome :=
  CommandTable.standard.apply files "introduce-parameter-object" request.source request.arguments

def settled (request : Request) (files : FileSystem) : Except Fault ClassModel :=
  match request.arguments.given? "name" with
  | none => .error (.missingParameters "introduce-parameter-object" ["name"])
  | some _ => built files request.source request.arguments

/-- A call that stores its class below a directory, and with no path that leads outwards. -/
structure Below (request : Request) (directory : String) : Prop where
  asked : request.arguments.given? "output_dir" = some (.string directory)
  inwards : ".." ∉ (FilePath.ofString directory).parts
  sourceInwards : ".." ∉ request.source.parts

end Request

/-! ### Paths of a request -/

private theorem plain_ofString {text : String} (inwards : ".." ∉ (FilePath.ofString text).parts) :
    ∀ part ∈ (FilePath.ofString text).parts, Plain part := by
  intro part member
  have shown : part ≠ "" ∧ part ≠ "." := by
    simpa [FilePath.ofString, FilePath.isPart] using (List.mem_filter.mp member).2
  refine ⟨shown.1, shown.2, ?_, (part_of_ofString member).1⟩
  rintro rfl
  exact inwards member

private theorem built_of_settled (settled : request.settled files = .ok model) :
    (request.arguments.given? "name").isSome ∧ built files request.source request.arguments = .ok model := by
  unfold Request.settled at settled
  split at settled
  · cases settled
  next given => exact ⟨by rw [given]; rfl, settled⟩

private theorem accepted_of_settled (settled : request.settled files = .ok model) :
    Accepted model.packageName model.className := built_accepted (built_of_settled settled).2

private theorem plain_target (below : request.Below directory) (settled : request.settled files = .ok model) :
    ∀ part ∈ (target directory model).parts, Plain part := by
  obtain ⟨segments, lies⟩ := lies_below (.ofString directory) (accepted_of_settled settled)
  rw [target, lies.target]
  intro part member
  rcases List.mem_append.mp member with typed | added
  · exact plain_ofString below.inwards part typed
  · exact lies.plain part added

private theorem target_ne_nil (settled : request.settled files = .ok model) : (target directory model).parts ≠ [] := by
  obtain ⟨segments, lies⟩ := lies_below (.ofString directory) (accepted_of_settled settled)
  rw [target, lies.target]
  simp

/-- Two ways below one directory are compared as they are written. -/
theorem not_location_suffix (accepted : Accepted model.packageName model.className)
    (also : Accepted other.packageName other.className)
    (clear : Clear (target directory model) (target directory other)) :
    ¬ location files (target directory model) <:+ location files (target directory other) := by
  obtain ⟨segments, below⟩ := lies_below (.ofString directory) accepted
  obtain ⟨others, behind⟩ := lies_below (.ofString directory) also
  have root : (target directory model).root = (target directory other).root := by
    rw [target, target, below.target, behind.target]
  intro within
  rw [location, location, root, List.suffix_append_self_iff] at within
  exact clear.paths root (List.reverse_suffix.mp within)

private theorem targets_apart (files : FileSystem) (directory : String) (one : first.settled files = .ok model)
    (two : second.settled files = .ok other)
    (differ : (model.packageName, model.className) ≠ (other.packageName, other.className)) :
    Apart files (target directory model) (target directory other) := by
  have accepted := accepted_of_settled one
  have also := accepted_of_settled two
  constructor
  · exact not_location_suffix accepted also (clear_of_ne _ accepted also differ)
  · exact not_location_suffix also accepted (clear_of_ne _ also accepted differ.symm)

/-! ### How a call ends -/

inductive Ends (files : FileSystem) (request : Request) (directory : String) :
    Except Fault String → Option ClassModel → Prop where
  | unsettled {fault : Fault} (unsettled : request.settled files = .error fault) :
      Ends files request directory (.error fault) none
  | refused {model : ClassModel} {fault : Fault} (settled : request.settled files = .ok model)
      (refuses : Refuses files (target directory model) fault) : Ends files request directory (.error fault) none
  | stored {model : ClassModel} (settled : request.settled files = .ok model)
      (accepts : ∀ fault, ¬ Refuses files (target directory model) fault) :
      Ends files request directory (.ok model.text) (some model)

private theorem exists_ends (files : FileSystem) (request : Request) (directory : String) :
    ∃ result stored, Ends files request directory result stored := by
  cases settled : request.settled files with
  | error fault => exact ⟨_, _, .unsettled settled⟩
  | ok model =>
    by_cases refused : ∃ fault, Refuses files (target directory model) fault
    · obtain ⟨fault, refuses⟩ := refused
      exact ⟨_, _, .refused settled refuses⟩
    · exact ⟨_, _, .stored settled (not_exists.mp refused)⟩

def Leaves (files after : FileSystem) (directory : String) : Option ClassModel → Prop
  | none => after = files
  | some model => Stored files after (target directory model) (Text.encodeUtf8 model.text) ∧ Rooted after

private theorem apply_nameless (nameless : request.arguments.given? "name" = none) : request.apply files =
    { result := .error (.missingParameters "introduce-parameter-object" ["name"]), files } := by
  have found : CommandTable.standard.get "introduce-parameter-object" = .ok .introduceParameterObject := rfl
  have missing : checkRequired "introduce-parameter-object" ["name"] request.arguments =
      .error (.missingParameters "introduce-parameter-object" ["name"]) := by
    simp [checkRequired, nameless]
  unfold Request.apply CommandTable.apply
  rw [found]
  dsimp only
  exact missing ▸ rfl

private theorem apply_unsettled (unsettled : request.settled files = .error fault) :
    (request.apply files).result = .error fault ∧ (request.apply files).files = files := by
  unfold Request.settled at unsettled
  split at unsettled
  next nameless =>
    cases unsettled
    rw [apply_nameless nameless]
    exact ⟨rfl, rfl⟩
  next given =>
    rw [Request.apply, GenerationSafety.apply_named (by rw [given]; rfl)]
    exact run_unbuilt unsettled

private theorem apply_ends (rooted : Rooted files) (below : request.Below directory)
    (ends : Ends files request directory result stored) :
    (request.apply files).result = result ∧ Leaves files (request.apply files).files directory stored := by
  cases ends with
  | unsettled unsettled => exact apply_unsettled unsettled
  | refused settled refuses =>
    obtain ⟨given, made⟩ := built_of_settled settled
    obtain ⟨answered, left⟩ := run_stored made below.asked
    rw [store_refused rooted (plain_target below settled) (target_ne_nil settled) refuses] at answered left
    rw [Request.apply, GenerationSafety.apply_named given]
    exact ⟨answered, left⟩
  | @stored model settled accepts =>
    obtain ⟨given, made⟩ := built_of_settled settled
    obtain ⟨answered, left⟩ := run_stored made below.asked
    obtain ⟨after, done, stored, rooted⟩ : ∃ after,
        files.store (target directory model) (Text.encodeUtf8 model.text) = (after, .ok ()) ∧
          Stored files after (target directory model) (Text.encodeUtf8 model.text) ∧ Rooted after :=
      store_accepted rooted (plain_target below settled) (target_ne_nil settled) accepts
    rw [done] at answered left
    rw [Request.apply, GenerationSafety.apply_named given]
    refine ⟨answered, ?_⟩
    rw [left]
    exact ⟨stored, rooted⟩

/-! ### Beside another call -/

theorem content?_plain_iff (rooted : Rooted files) {path : FilePath} {content : List UInt8}
    (plain : ∀ part ∈ path.parts, Plain part) :
    files.content? path = some content ↔ files.entry? (location files path) = some (.file content) := by
  rw [content?_eq_some_iff, lookup?_plain rooted plain]

/-- A store changes nothing about any other file. -/
theorem content?_beside (rooted : Rooted files) (alsoRooted : Rooted after) {path source : FilePath} {content : List UInt8}
    (done : Stored files after path content) (plain : ∀ part ∈ source.parts, Plain part)
    (elsewhere : location files source ≠ location files path) : after.content? source = files.content? source := by
  apply Option.ext
  intro bytes
  rw [content?_plain_iff rooted plain, content?_plain_iff alsoRooted plain,
    location_congr done.workingDirectory, done.file_iff elsewhere]

private theorem settled_congr (same : after.content? request.source = files.content? request.source) :
    request.settled after = request.settled files := by
  rw [Request.settled, Request.settled, built_congr same]

/-- Two calls that do not make the same class, and do not write over each other's descriptor.
A call that makes no class is independent of any other in this respect. -/
structure Independent (files : FileSystem) (directory : String) (first second : Request) : Prop where
  differ : ∀ model other, first.settled files = .ok model → second.settled files = .ok other →
    (model.packageName, model.className) ≠ (other.packageName, other.className)
  former : ∀ model, first.settled files = .ok model →
    location files (target directory model) ≠ location files second.source
  latter : ∀ model, second.settled files = .ok model →
    location files (target directory model) ≠ location files first.source

theorem Independent.symm (independent : Independent files directory first second) :
    Independent files directory second first :=
  ⟨fun model other one two => (independent.differ other model two one).symm, independent.latter, independent.former⟩

theorem Ends.settled (ends : Ends files request directory result (some model)) : request.settled files = .ok model := by
  cases ends with
  | stored settled accepts => exact settled

theorem Leaves.rooted (rooted : Rooted files) (left : Leaves files after directory stored) : Rooted after := by
  cases stored with
  | none => exact left ▸ rooted
  | some model => exact left.2

/-- A call ends the same way after another one has ended. -/
theorem Ends.beside {ended : Except Fault String} {own : Option ClassModel} (rooted : Rooted files)
    (below : second.Below directory) (independent : Independent files directory first second)
    (another : Ends files first directory result stored) (left : Leaves files after directory stored)
    (ends : Ends files second directory ended own) : Ends after second directory ended own := by
  cases stored with
  | none => exact left ▸ ends
  | some model =>
    obtain ⟨done, alsoRooted⟩ := left
    have one := another.settled
    have plain := plain_ofString below.sourceInwards
    have same : second.settled after = second.settled files :=
      settled_congr (content?_beside rooted alsoRooted done plain (independent.former model one).symm)
    cases ends with
    | unsettled unsettled => exact .unsettled (same.trans unsettled)
    | refused settled refuses =>
      have apart := targets_apart files directory one settled (independent.differ _ _ one settled)
      exact .refused (same.trans settled) ((done.refuses_iff apart).mpr refuses)
    | stored settled accepts =>
      have apart := targets_apart files directory one settled (independent.differ _ _ one settled)
      exact .stored (same.trans settled) (fun fault refuses => accepts fault ((done.refuses_iff apart).mp refuses))

theorem Leaves.commute {one two both also : FileSystem} {own : Option ClassModel}
    (apart : ∀ model other, stored = some model → own = some other →
      Apart files (target directory model) (target directory other))
    (first : Leaves files one directory stored) (then' : Leaves one both directory own)
    (before : Leaves files two directory own) (last : Leaves two also directory stored) (place : Place) :
    both.entry? place = also.entry? place := by
  cases stored with
  | none =>
    subst first last
    cases own with
    | none => rw [then', before]
    | some other => rw [then'.1.entries, before.1.entries]
  | some model =>
    cases own with
    | none =>
      subst then' before
      rw [first.1.entries, last.1.entries]
    | some other => exact stores_commute (apart model other rfl rfl) first.1 then'.1 before.1 last.1 place

/-! ### Two calls -/

structure Commute (files : FileSystem) (first second : Request) : Prop where
  former : (first.apply (second.apply files).files).result = (first.apply files).result
  latter : (second.apply (first.apply files).files).result = (second.apply files).result
  entries : ∀ place, (second.apply (first.apply files).files).files.entry? place =
    (first.apply (second.apply files).files).files.entry? place

/-- Generations below one directory commute unless they make the same class or one of them
writes over the other's descriptor. It makes no difference to this whether they succeed. -/
theorem independent_generations_commute (rooted : Rooted files) (one : first.Below directory)
    (two : second.Below directory) (independent : Independent files directory first second) :
    Commute files first second := by
  obtain ⟨result, stored, ends⟩ := exists_ends files first directory
  obtain ⟨ended, own, alsoEnds⟩ := exists_ends files second directory
  obtain ⟨answered, left⟩ := apply_ends rooted one ends
  obtain ⟨alsoAnswered, alsoLeft⟩ := apply_ends rooted two alsoEnds
  obtain ⟨again, after⟩ := apply_ends (left.rooted rooted) two (ends.beside rooted two independent left alsoEnds)
  obtain ⟨alsoAgain, alsoAfter⟩ :=
    apply_ends (alsoLeft.rooted rooted) one (alsoEnds.beside rooted one independent.symm alsoLeft ends)
  refine ⟨alsoAgain.trans answered.symm, again.trans alsoAnswered.symm, ?_⟩
  refine Leaves.commute ?_ left after alsoLeft alsoAfter
  rintro model other rfl rfl
  exact targets_apart files directory ends.settled alsoEnds.settled
    (independent.differ _ _ ends.settled alsoEnds.settled)

/-- Two classes of one package. A directory stands where the second one goes, and it stops
the second call whether or not the first has stored its class beside it. -/
theorem occupied_class_is_refused_in_either_order :
    let files : FileSystem :=
      { entries := [(["d.json"], .file [0x7b, 0x7d]), (["geo"], .directory), (["Q.java", "geo"], .directory)]
        workingDirectory := [] }
    let request (name : String) : Request :=
      { descriptor := "d.json"
        arguments := [("name", .string name), ("package", .string "geo"), ("output_dir", .string "")] }
    let model (name : String) : ClassModel :=
      { packageName := "geo", className := name, typeParameters := [], members := [] }
    (request "P").settled files = .ok (model "P") ∧ (request "Q").settled files = .ok (model "Q") ∧
      Commute files (request "P") (request "Q") ∧
      ((request "Q").apply ((request "P").apply files).files).result =
        .error (.storage .isDirectory "geo/Q.java") := by
  intro files request model
  have rooted : Rooted files := by
    apply rooted_of_entries
    · intro entry member
      simp only [files, List.mem_cons, List.not_mem_nil, or_false] at member
      rcases member with rfl | rfl | rfl <;> rfl
    · rfl
  have below (name : String) : (request name).Below "" := ⟨rfl, by decide, (by decide : ".." ∉ (FilePath.ofString "d.json").parts)⟩
  have one : (request "P").settled files = .ok (model "P") := by decide
  have two : (request "Q").settled files = .ok (model "Q") := by decide
  have independent : Independent files "" (request "P") (request "Q") := by
    refine ⟨fun _ _ made also => ?_, fun _ made => ?_, fun _ made => ?_⟩
    · cases one.symm.trans made
      cases two.symm.trans also
      decide
    · cases one.symm.trans made
      decide
    · cases two.symm.trans made
      decide
  have commute := independent_generations_commute rooted (below "P") (below "Q") independent
  have refuses : Refuses files (target "" (model "Q")) (.storage .isDirectory "geo/Q.java") := by
    have shown : (target "" (model "Q")).toString = "geo/Q.java" := by decide
    rw [← shown]
    apply Refuses.directory
    · decide
    · decide
  obtain ⟨alone, -⟩ := apply_ends rooted (below "Q") (.refused two refuses)
  exact ⟨one, two, commute, commute.latter.trans alone⟩

end ParamBundle.Proofs.IndependentRuns
