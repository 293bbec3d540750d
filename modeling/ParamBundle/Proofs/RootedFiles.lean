import ParamBundle.Proofs.ClassPlacement
import Mathlib.Data.List.Induction
import Mathlib.Data.List.Infix

/-! File systems in which whatever exists lies in a directory. Where a path only leads
inwards, a store does all it is asked to or nothing at all, and what decides between the two
is whether a regular file stands in its way or a directory at its end. -/

namespace ParamBundle.Proofs.RootedFiles
open ClassPlacement FileEffects FileSystem

variable {files made after : FileSystem} {path : FilePath} {content : List UInt8} {place : Place}
  {names : List String} {name : String}

structure Rooted (files : FileSystem) : Prop where
  around : ∀ name place, (files.entry? (name :: place)).isSome → files.entry? place = some .directory
  home : files.entry? files.workingDirectory = some .directory

/-- It is enough to look at the places that are listed. -/
theorem rooted_of_entries (around : ∀ entry ∈ files.entries, files.entry? entry.1.tail = some .directory)
    (home : files.entry? files.workingDirectory = some .directory) : Rooted files := by
  refine ⟨fun name place present => ?_, home⟩
  obtain ⟨entry, found⟩ := Option.isSome_iff_exists.mp present
  obtain ⟨before, later, shape, -⟩ := List.lookup_eq_some_iff.mp found
  exact around (name :: place, entry) (by simp [shape])

namespace Rooted

theorem start (rooted : Rooted files) (root : PathRoot) : files.entry? (files.start root) = some .directory := by
  cases root with
  | relative => exact rooted.home
  | single => rfl
  | double => rfl

/-- Around what exists there are only directories. -/
theorem enclosed (rooted : Rooted files) {outer : Place} (within : outer <:+ place) (differ : outer ≠ place)
    (present : (files.entry? place).isSome) : files.entry? outer = some .directory := by
  induction place with
  | nil => exact absurd (List.suffix_nil.mp within) differ
  | cons name place ih =>
    have around := rooted.around name place present
    rcases List.suffix_cons_iff.mp within with same | within
    · exact absurd same differ
    by_cases same : outer = place
    · rw [same, around]
    · exact ih within same (by rw [around]; rfl)

/-- A change to one entry keeps its directory, and a directory stays one. -/
theorem put (rooted : Rooted files) {entry : Entry} (around : files.entry? place = some .directory)
    (change : files.entry? (name :: place) ≠ some .directory ∨ entry = .directory) :
    Rooted (files.put (name :: place) entry) := by
  have directories (other : Place) (directory : files.entry? other = some .directory) :
      FileSystem.entry? (files.put (name :: place) entry) other = some .directory := by
    rw [entry?_put]
    split
    next same =>
      rcases change with free | rfl
      · exact absurd (same ▸ directory) free
      · rfl
    next => exact directory
  refine ⟨fun last other present => directories other ?_, directories _ rooted.home⟩
  rw [entry?_put] at present
  split at present
  next same =>
    cases same
    exact around
  next => exact rooted.around last other present

end Rooted

/-! ### Ways inwards -/

/-- Where a path ends that only leads inwards. -/
def location (files : FileSystem) (path : FilePath) : Place := path.parts.reverse ++ files.start path.root

theorem location_congr (home : after.workingDirectory = files.workingDirectory) (path : FilePath) :
    location after path = location files path := by
  cases path with
  | mk root parts => cases root <;> simp [location, FileSystem.start, home]

private theorem location_concat {root : PathRoot} {parts : List String} :
    location files ⟨root, parts ++ [name]⟩ = name :: location files ⟨root, parts⟩ := by
  simp [location]

private theorem walk_plain {start last : Place} (plain : ∀ name ∈ names, Plain name)
    (reached : files.walk start names = .ok last) : last = names.reverse ++ start :=
  (walk_end reached).trans (foldl_enter_plain start plain)

/-- What exists can be reached. -/
theorem walk_present (rooted : Rooted files) {start : Place} (plain : ∀ name ∈ names, Plain name)
    (present : (files.entry? (names.reverse ++ start)).isSome) :
    files.walk start names = .ok (names.reverse ++ start) := by
  induction names generalizing start with
  | nil => rfl
  | cons name rest ih =>
    obtain ⟨first, others⟩ := List.forall_mem_cons.mp plain
    have directory : files.entry? start = some .directory := by
      apply rooted.enclosed (List.suffix_append _ _) _ present
      intro same
      have length := congrArg List.length same
      simp at length
      omega
    have shape : (name :: rest).reverse ++ start = rest.reverse ++ (name :: start) := by simp
    rw [shape] at present ⊢
    rw [walk, directory]
    dsimp only
    rw [enter_plain first]
    exact ih others present

/-- A walk that is stopped has met a file. -/
theorem file_of_walk {start : Place} (plain : ∀ name ∈ names, Plain name)
    (stopped : files.walk start names = .error .notDirectory) :
    ∃ outer content, outer <:+ names.reverse ++ start ∧ files.entry? outer = some (.file content) := by
  induction names generalizing start with
  | nil => cases stopped
  | cons name rest ih =>
    obtain ⟨first, others⟩ := List.forall_mem_cons.mp plain
    rw [walk] at stopped
    split at stopped
    · cases stopped
    next content held => exact ⟨start, content, List.suffix_append _ _, held⟩
    next =>
      rw [enter_plain first] at stopped
      obtain ⟨outer, content, within, held⟩ := ih others stopped
      exact ⟨outer, content, by simpa using within, held⟩

/-- A file on the way stops a walk, and not because something is missing. -/
theorem walk_stopped (rooted : Rooted files) {start outer : Place} (plain : ∀ name ∈ names, Plain name)
    (behind : start <:+ outer) (within : outer <:+ names.reverse ++ start) (differ : outer ≠ names.reverse ++ start)
    (held : files.entry? outer = some (.file content)) : files.walk start names = .error .notDirectory := by
  induction names generalizing start with
  | nil => exact absurd (List.IsSuffix.eq_of_length_le within behind.length_le) differ
  | cons name rest ih =>
    obtain ⟨first, others⟩ := List.forall_mem_cons.mp plain
    rw [walk]
    by_cases here : outer = start
    · rw [← here, held]
    · have directory : files.entry? start = some .directory :=
        rooted.enclosed behind (Ne.symm here) (by rw [held]; rfl)
      have shape : (name :: rest).reverse ++ start = rest.reverse ++ (name :: start) := by simp
      rw [shape] at within differ
      rw [directory]
      dsimp only
      rw [enter_plain first]
      apply ih others _ within differ
      rcases List.suffix_or_suffix_of_suffix (List.suffix_append rest.reverse (name :: start)) within with past | before
      · exact past
      · rcases List.suffix_cons_iff.mp before with same | before
        · rw [same]
        · exact absurd (before.eq_of_length_le behind.length_le) here

/-- No regular file lies on the way to a place or at its end. -/
def Passable (files : FileSystem) (place : Place) : Prop :=
  ∀ outer content, outer <:+ place → files.entry? outer ≠ some (.file content)

theorem Passable.parent (clear : Passable files (name :: place)) : Passable files place :=
  fun outer content within => clear outer content (within.trans (List.suffix_cons name place))

variable (rooted : Rooted files)
include rooted

theorem lookup?_plain (plain : ∀ part ∈ path.parts, Plain part) : files.lookup? path = files.entry? (location files path) := by
  cases present : files.entry? (location files path) with
  | some entry =>
    have reached : files.walk (files.start path.root) path.parts = .ok (location files path) :=
      walk_present rooted plain (Option.isSome_of_eq_some present)
    exact lookup?_eq_some_iff.mpr ⟨_, reached, present⟩
  | none =>
    rw [← Option.not_isSome_iff_eq_none]
    intro found
    obtain ⟨entry, found⟩ := Option.isSome_iff_exists.mp found
    obtain ⟨place, reached, held⟩ := lookup?_eq_some_iff.mp found
    rw [walk_plain plain reached] at held
    cases present.symm.trans held

/-! ### Directories inwards -/

section Container
variable {root : PathRoot} {parts : List String}

theorem container_directory (plain : ∀ part ∈ parts ++ [name], Plain part)
    (there : files.entry? (location files ⟨root, parts⟩) = some .directory) :
    files.container ⟨root, parts ++ [name]⟩ = .ok (location files ⟨root, parts⟩, some name) := by
  apply container_ok_iff.mpr
  refine ⟨?_, there, by simp⟩
  rw [List.dropLast_concat]
  exact walk_present rooted (List.forall_mem_append.mp plain).1 (Option.isSome_of_eq_some there)

private theorem container_stopped (plain : ∀ part ∈ parts ++ [name], Plain part) {outer : Place}
    (within : outer <:+ location files ⟨root, parts⟩) (held : files.entry? outer = some (.file content)) :
    files.container ⟨root, parts ++ [name]⟩ = .error .notDirectory := by
  have others := (List.forall_mem_append.mp plain).1
  have present : (files.entry? outer).isSome := Option.isSome_of_eq_some held
  rw [container, List.dropLast_concat]
  by_cases last : outer = location files ⟨root, parts⟩
  · rw [last] at present held
    have atEnd : files.entry? (parts.reverse ++ files.start root) = some (.file content) := held
    rw [walk_present rooted others present]
    simp only [atEnd]
  · have behind : files.start root <:+ outer := by
      rcases List.suffix_or_suffix_of_suffix (List.suffix_append parts.reverse (files.start root)) within with past | before
      · exact past
      · by_cases same : outer = files.start root
        · rw [same]
        · have directory := rooted.enclosed before same (by rw [rooted.start]; rfl)
          cases held.symm.trans directory
    rw [walk_stopped rooted others behind within last held]

omit rooted in
/-- With nothing in the way, it is only the directory around that can be missing. -/
theorem container_absent (plain : ∀ part ∈ parts ++ [name], Plain part)
    (clear : Passable files (location files ⟨root, parts⟩))
    (missing : files.entry? (location files ⟨root, parts⟩) = none) :
    files.container ⟨root, parts ++ [name]⟩ = .error .absent := by
  have others := (List.forall_mem_append.mp plain).1
  rw [container, List.dropLast_concat]
  cases reached : files.walk (files.start root) parts with
  | ok place =>
    obtain rfl := walk_plain others reached
    have atEnd : files.entry? (parts.reverse ++ files.start root) = none := missing
    simp only [atEnd]
  | error fault =>
    cases fault with
    | absent => rfl
    | notDirectory =>
      obtain ⟨outer, content, within, held⟩ := file_of_walk others reached
      exact absurd held (clear outer content within)

end Container

omit rooted in
private theorem kept_of_plain (plain : ∀ part ∈ path.parts, Plain part) : Kept path := by
  intro part member
  have := plain part member
  simp [FilePath.isPart, this.visible, this.elsewhere]

/-- Every directory up to a place is there, and nothing else has changed. -/
structure Provided (before after : FileSystem) (place : Place) : Prop where
  workingDirectory : after.workingDirectory = before.workingDirectory
  entries : ∀ other, after.entry? other = if other <:+ place then some .directory else before.entry? other

private theorem provided_self (directory : files.entry? place = some .directory) : Provided files files place := by
  refine ⟨rfl, fun other => ?_⟩
  split
  next within =>
    by_cases same : other = place
    · rw [same, directory]
    · exact rooted.enclosed within same (by rw [directory]; rfl)
  next => rfl

theorem rooted_provided (provided : Provided files made place) : Rooted made := by
  have kept {other : Place} (directory : files.entry? other = some .directory) : made.entry? other = some .directory := by
    rw [provided.entries, directory, ite_self]
  refine ⟨fun name other present => ?_, ?_⟩
  · rw [provided.entries] at present
    split at present
    next within =>
      rw [provided.entries, if_pos ((List.suffix_cons name other).trans within)]
    next => exact kept (rooted.around name other present)
  · rw [provided.workingDirectory]
    exact kept rooted.home

omit rooted in
theorem Provided.step (provided : Provided files made place) :
    Provided files (made.put (name :: place) .directory) (name :: place) := by
  refine ⟨provided.workingDirectory, fun other => ?_⟩
  rw [entry?_put, provided.entries]
  by_cases same : other = name :: place
  · rw [if_pos same, same, if_pos (List.suffix_refl _)]
  · have within : other <:+ name :: place ↔ other <:+ place := by simp [List.suffix_cons_iff, same]
    simp only [if_neg same, within]

omit rooted in
private theorem not_suffix_of_cons : ¬ name :: place <:+ place := by
  intro within
  have length := within.length_le
  rw [List.length_cons] at length
  omega

/-- The last directory is made where the one around it is there. -/
theorem provideDirectory_next {root : PathRoot} {parts : List String} (plain : ∀ part ∈ parts ++ [name], Plain part)
    (there : files.entry? (location files ⟨root, parts⟩) = some .directory)
    (free : files.entry? (location files ⟨root, parts ++ [name]⟩) = none) :
    files.provideDirectory ⟨root, parts ++ [name]⟩ =
      .ok (files.put (location files ⟨root, parts ++ [name]⟩) .directory) := by
  have forward : name ≠ ".." := (plain name (by simp)).inwards
  rw [location_concat] at free ⊢
  have made : files.makeDirectory ⟨root, parts ++ [name]⟩ =
      .ok (files.put (name :: location files ⟨root, parts⟩) .directory) := by
    rw [makeDirectory, container_directory rooted plain there]
    exact if_neg (not_or.mpr ⟨forward, by rw [free]; simp⟩)
  rw [provideDirectory, made]

theorem provideDirectories_there (plain : ∀ part ∈ path.parts, Plain part)
    (held : files.entry? (location files path) = some .directory) : files.provideDirectories path = (files, none) := by
  have there : files.isDirectory path = true := by
    rw [isDirectory, lookup?_plain rooted plain, held]
    rfl
  exact provideDirectories_present (kept_of_plain plain) there

omit rooted in
private theorem parent_concat {root : PathRoot} {parts : List String} : FilePath.parent ⟨root, parts ++ [name]⟩ = ⟨root, parts⟩ := by
  simp [FilePath.parent]

/-- The last directory is made once those around it have been. -/
theorem provideDirectories_last {root : PathRoot} {parts : List String} {outer : FileSystem}
    (plain : ∀ part ∈ parts ++ [name], Plain part) (clear : Passable files (location files ⟨root, parts⟩))
    (missing : files.entry? (location files ⟨root, parts⟩) = none)
    (free : files.entry? (location files ⟨root, parts ++ [name]⟩) = none)
    (provided : files.provideDirectories ⟨root, parts⟩ = (outer, none))
    (filled : Provided files outer (location files ⟨root, parts⟩)) :
    ∃ made, files.provideDirectories ⟨root, parts ++ [name]⟩ = (made, none) ∧
      Provided files made (location files ⟨root, parts ++ [name]⟩) := by
  have absent : files.provideDirectory ⟨root, parts ++ [name]⟩ = .error .absent := by
    rw [provideDirectory, makeDirectory, container_absent plain clear missing]
    rfl
  have home : ∀ path, location outer path = location files path := location_congr filled.workingDirectory
  have there : outer.entry? (location outer ⟨root, parts⟩) = some .directory := by
    rw [home, filled.entries, if_pos (List.suffix_refl _)]
  have still : outer.entry? (location outer ⟨root, parts ++ [name]⟩) = none := by
    rw [location_concat] at free
    rw [home, location_concat, filled.entries, if_neg not_suffix_of_cons, free]
  have done := provideDirectory_next (rooted_provided rooted filled) plain there still
  rw [home, location_concat] at done
  rw [location_concat]
  refine ⟨_, ?_, filled.step⟩
  rw [provideDirectories, absent]
  dsimp only
  rw [if_neg (by simp), parent_concat, provided]
  dsimp only
  rw [done]

private theorem provideDirectories_clear {root : PathRoot} {parts : List String} (plain : ∀ part ∈ parts, Plain part)
    (clear : Passable files (location files ⟨root, parts⟩)) :
    ∃ made, files.provideDirectories ⟨root, parts⟩ = (made, none) ∧ Provided files made (location files ⟨root, parts⟩) := by
  induction parts using List.reverseRecOn with
  | nil =>
    have directory : files.entry? (location files ⟨root, []⟩) = some .directory := rooted.start root
    exact ⟨files, provideDirectories_there rooted plain directory, provided_self rooted directory⟩
  | append_singleton parts name ih =>
    have around : Passable files (location files ⟨root, parts⟩) := by
      rw [location_concat] at clear
      exact clear.parent
    cases held : files.entry? (location files ⟨root, parts ++ [name]⟩) with
    | some entry =>
      cases entry with
      | file content => exact absurd held (clear _ content (List.suffix_refl _))
      | directory => exact ⟨files, provideDirectories_there rooted plain held, provided_self rooted held⟩
    | none =>
      cases outer : files.entry? (location files ⟨root, parts⟩) with
      | some entry =>
        cases entry with
        | file content => exact absurd outer (around _ content (List.suffix_refl _))
        | directory =>
          have done := provideDirectory_next rooted plain outer held
          rw [location_concat] at done ⊢
          exact ⟨_, by rw [provideDirectories, done], (provided_self rooted outer).step⟩
      | none =>
        obtain ⟨made, provided, filled⟩ := ih (List.forall_mem_append.mp plain).1 around
        exact provideDirectories_last rooted plain around outer held provided filled

private theorem provideDirectories_occupied {root : PathRoot} {parts : List String} (plain : ∀ part ∈ parts, Plain part)
    (held : files.entry? (location files ⟨root, parts⟩) = some (.file content)) :
    files.provideDirectories ⟨root, parts⟩ = (files, some (.storage .occupied (FilePath.toString ⟨root, parts⟩))) := by
  rcases List.eq_nil_or_concat parts with rfl | ⟨outer, name, rfl⟩
  · cases held.symm.trans (rooted.start root)
  · rw [List.concat_eq_append] at plain held ⊢
    have refused : files.isDirectory ⟨root, outer ++ [name]⟩ = false := by
      rw [isDirectory, lookup?_plain rooted plain, held]
      rfl
    rw [location_concat] at held
    have around := rooted.around name _ (Option.isSome_of_eq_some held)
    have occupied : files.makeDirectory ⟨root, outer ++ [name]⟩ = .error .occupied := by
      rw [makeDirectory, container_directory rooted plain around]
      exact if_pos (Or.inr (Option.isSome_of_eq_some held))
    rw [provideDirectories, provideDirectory, occupied]
    dsimp only
    rw [refused]
    rfl

private theorem provideDirectories_passed {root : PathRoot} {parts : List String} (plain : ∀ part ∈ parts, Plain part)
    {outer : Place} (within : outer <:+ location files ⟨root, parts⟩) (before : outer ≠ location files ⟨root, parts⟩)
    (held : files.entry? outer = some (.file content)) :
    files.provideDirectories ⟨root, parts⟩ = (files, some (.storage .notDirectory (FilePath.toString ⟨root, parts⟩))) := by
  rcases List.eq_nil_or_concat parts with rfl | ⟨inner, name, rfl⟩
  · have directory := rooted.enclosed within before (Option.isSome_of_eq_some (rooted.start root))
    cases held.symm.trans directory
  · rw [List.concat_eq_append] at plain within before ⊢
    rw [location_concat] at within before
    have behind := (List.suffix_cons_iff.mp within).resolve_left before
    rw [provideDirectories, provideDirectory, makeDirectory, container_stopped rooted plain behind held]
    rfl

/-! ### Stores -/

omit rooted in
inductive Refuses (files : FileSystem) (path : FilePath) : Fault → Prop where
  | unnamed (null : hasNull path.toString = true) : Refuses files path .nullInPath
  | occupied {content : List UInt8} (named : hasNull path.toString = false)
      (held : files.entry? (location files path.parent) = some (.file content)) :
      Refuses files path (.storage .occupied path.parent.toString)
  | passed {outer : Place} {content : List UInt8} (named : hasNull path.toString = false)
      (within : outer <:+ location files path.parent) (before : outer ≠ location files path.parent)
      (held : files.entry? outer = some (.file content)) :
      Refuses files path (.storage .notDirectory path.parent.toString)
  | directory (named : hasNull path.toString = false) (held : files.entry? (location files path) = some .directory) :
      Refuses files path (.storage .isDirectory path.toString)

structure Stored (before after : FileSystem) (path : FilePath) (content : List UInt8) : Prop where
  workingDirectory : after.workingDirectory = before.workingDirectory
  passable : Passable before (location before path.parent)
  entries : ∀ other, after.entry? other =
    if other = location before path then some (.file content)
    else if other <:+ location before path.parent then some .directory else before.entry? other

section Store
variable {root : PathRoot} {parts : List String} {fault : Fault}

omit rooted in
private theorem exists_concat (nonempty : path.parts ≠ []) : ∃ root parts name, path = ⟨root, parts ++ [name]⟩ :=
  ⟨path.root, path.parts.dropLast, path.parts.getLast nonempty, by rw [List.dropLast_append_getLast nonempty]⟩

private theorem writeFile_directory (plain : ∀ part ∈ parts ++ [name], Plain part)
    (held : files.entry? (location files ⟨root, parts ++ [name]⟩) = some .directory) :
    files.writeFile ⟨root, parts ++ [name]⟩ content =
      .error (.storage .isDirectory (FilePath.toString ⟨root, parts ++ [name]⟩)) := by
  rw [location_concat] at held
  have around := rooted.around name _ (Option.isSome_of_eq_some held)
  simp only [writeFile, container_directory rooted plain around, if_neg (plain name (by simp)).inwards, held]

private theorem writeFile_free (plain : ∀ part ∈ parts ++ [name], Plain part)
    (around : files.entry? (location files ⟨root, parts⟩) = some .directory)
    (free : files.entry? (location files ⟨root, parts ++ [name]⟩) ≠ some .directory) :
    files.writeFile ⟨root, parts ++ [name]⟩ content =
      .ok (files.put (location files ⟨root, parts ++ [name]⟩) (.file content)) := by
  rw [location_concat] at free ⊢
  simp only [writeFile, container_directory rooted plain around, if_neg (plain name (by simp)).inwards]

/-- A store that is refused has no effect at all. -/
theorem store_refused (plain : ∀ part ∈ path.parts, Plain part) (nonempty : path.parts ≠ [])
    (refuses : Refuses files path fault) : files.store path content = (files, .error fault) := by
  obtain ⟨root, parts, name, rfl⟩ := exists_concat nonempty
  have others := (List.forall_mem_append.mp plain).1
  cases refuses with
  | unnamed null => rw [store, if_pos null]
  | occupied named held =>
    rw [parent_concat] at held ⊢
    rw [store, if_neg (by simp [named]), parent_concat, provideDirectories_occupied rooted others held]
  | passed named within before held =>
    rw [parent_concat] at within before ⊢
    rw [store, if_neg (by simp [named]), parent_concat, provideDirectories_passed rooted others within before held]
  | directory named held =>
    have there := rooted.around name _ (by rw [← location_concat, held]; rfl)
    rw [store, if_neg (by simp [named]), parent_concat, provideDirectories_there rooted others there]
    dsimp only
    rw [writeFile_directory rooted plain held]

theorem store_accepted (plain : ∀ part ∈ path.parts, Plain part) (nonempty : path.parts ≠ [])
    (accepts : ∀ fault, ¬ Refuses files path fault) :
    ∃ after, files.store path content = (after, .ok ()) ∧ Stored files after path content ∧ Rooted after := by
  obtain ⟨root, parts, name, rfl⟩ := exists_concat nonempty
  have others := (List.forall_mem_append.mp plain).1
  have named : hasNull (FilePath.toString ⟨root, parts ++ [name]⟩) = false := by
    by_contra null
    exact accepts _ (.unnamed (by simpa using null))
  have clear : Passable files (location files ⟨root, parts⟩) := by
    intro outer content within held
    by_cases last : outer = location files ⟨root, parts⟩
    · exact accepts _ (.occupied named (by rw [parent_concat, ← last]; exact held))
    · exact accepts _ (.passed named (by rwa [parent_concat]) (by rwa [parent_concat]) held)
  have free : files.entry? (location files ⟨root, parts ++ [name]⟩) ≠ some .directory :=
    fun directory => accepts _ (.directory named directory)
  obtain ⟨made, provided, filled⟩ := provideDirectories_clear rooted others clear
  have home : ∀ path, location made path = location files path := location_congr filled.workingDirectory
  have around : made.entry? (location made ⟨root, parts⟩) = some .directory := by
    rw [home, filled.entries, if_pos (List.suffix_refl _)]
  have still : made.entry? (location made ⟨root, parts ++ [name]⟩) ≠ some .directory := by
    rw [home, location_concat, filled.entries, if_neg not_suffix_of_cons, ← location_concat]
    exact free
  have written : made.writeFile ⟨root, parts ++ [name]⟩ content =
      .ok (made.put (location files ⟨root, parts ++ [name]⟩) (.file content)) := by
    rw [writeFile_free (rooted_provided rooted filled) plain around still, home]
  refine ⟨made.put (location files ⟨root, parts ++ [name]⟩) (.file content), ?_, ⟨filled.workingDirectory, ?_, ?_⟩, ?_⟩
  · rw [store, if_neg (by simp [named]), parent_concat, provided]
    dsimp only
    rw [written]
  · rw [parent_concat]
    exact clear
  · intro other
    rw [location_concat, entry?_put, filled.entries, parent_concat]
  · rw [home] at around
    rw [home, location_concat] at still
    rw [location_concat]
    exact (rooted_provided rooted filled).put around (Or.inl still)

end Store

omit rooted

/-! ### Two stores -/

structure Apart (files : FileSystem) (path other : FilePath) : Prop where
  first : ¬ location files path <:+ location files other
  second : ¬ location files other <:+ location files path

private theorem location_parent (files : FileSystem) (path : FilePath) : location files path.parent <:+ location files path := by
  change path.parts.dropLast.reverse ++ files.start path.root <:+ path.parts.reverse ++ files.start path.root
  rw [List.suffix_append_self_iff]
  exact List.reverse_suffix.mpr (List.dropLast_prefix path.parts)

section Pair
variable {other : FilePath} {fault : Fault} {second : List UInt8} {stored : FileSystem}

theorem Apart.symm (apart : Apart files path other) : Apart files other path := ⟨apart.second, apart.first⟩

/-- The directories of a store are none of the files that were there. -/
theorem Stored.file_iff (done : Stored files after path content) (elsewhere : place ≠ location files path) :
    after.entry? place = some (.file second) ↔ files.entry? place = some (.file second) := by
  rw [done.entries, if_neg elsewhere]
  split
  next around => exact iff_of_false (by simp) (done.passable place second around)
  next => rfl

theorem Stored.entry?_other (done : Stored files after path content) (apart : Apart files path other) :
    after.entry? (location files other) = files.entry? (location files other) := by
  have elsewhere : location files other ≠ location files path := by
    intro same
    exact apart.second (by rw [same])
  have outside : ¬ location files other <:+ location files path.parent :=
    fun within => apart.second (within.trans (location_parent files path))
  rw [done.entries, if_neg elsewhere, if_neg outside]

/-- A refusal only depends on the files on the way and on what the path leads to. -/
theorem Refuses.transfer (home : after.workingDirectory = files.workingDirectory)
    (way : ∀ outer content, outer <:+ location files path.parent →
      files.entry? outer = some (.file content) → after.entry? outer = some (.file content))
    (same : after.entry? (location files path) = files.entry? (location files path))
    (refuses : Refuses files path fault) : Refuses after path fault := by
  have moved : ∀ path, location after path = location files path := location_congr home
  cases refuses with
  | unnamed null => exact .unnamed null
  | occupied named held =>
    apply Refuses.occupied named
    rw [moved]
    exact way _ _ (List.suffix_refl _) held
  | passed named within before held =>
    apply Refuses.passed named _ _ (way _ _ within held)
    · rwa [moved]
    · rwa [moved]
  | directory named held =>
    apply Refuses.directory named
    rw [moved, same, held]

/-- Of what the second store asks of the files, the first one changes nothing. -/
theorem Stored.refuses_iff (done : Stored files after path content) (apart : Apart files path other) :
    Refuses after other fault ↔ Refuses files other fault := by
  have home : ∀ path, location after path = location files path := location_congr done.workingDirectory
  have elsewhere {place : Place} (within : place <:+ location files other.parent) : place ≠ location files path := by
    rintro rfl
    exact apart.first (within.trans (location_parent files other))
  constructor
  · apply Refuses.transfer done.workingDirectory.symm
    · intro outer content within held
      rw [home] at within
      exact (done.file_iff (elsewhere within)).mp held
    · rw [home, done.entry?_other apart]
  · apply Refuses.transfer done.workingDirectory
    · intro outer content within held
      exact (done.file_iff (elsewhere within)).mpr held
    · exact done.entry?_other apart

/-- It does not matter which of two files is stored first. -/
theorem stores_commute {one two both also : FileSystem} (apart : Apart files path other)
    (first : Stored files one path content) (then' : Stored one both other second)
    (before : Stored files two other second) (last : Stored two also path content) (place : Place) :
    both.entry? place = also.entry? place := by
  have home : ∀ path, location one path = location files path := location_congr first.workingDirectory
  have away : ∀ path, location two path = location files path := location_congr before.workingDirectory
  rw [then'.entries, last.entries, home, home, away, away, first.entries, before.entries]
  by_cases atOther : place = location files other
  · subst atOther
    have elsewhere : location files other ≠ location files path := fun same => apart.second (by rw [same])
    have outside : ¬ location files other <:+ location files path.parent :=
      fun within => apart.second (within.trans (location_parent files path))
    simp only [if_neg elsewhere, if_neg outside, if_true]
  by_cases atPath : place = location files path
  · subst atPath
    have outside : ¬ location files path <:+ location files other.parent :=
      fun within => apart.first (within.trans (location_parent files other))
    simp only [if_neg atOther, if_neg outside, if_true]
  simp only [if_neg atOther, if_neg atPath]
  by_cases aroundOther : place <:+ location files other.parent
  · simp only [if_pos aroundOther, ite_self]
  · simp only [if_neg aroundOther]

end Pair

end ParamBundle.Proofs.RootedFiles
