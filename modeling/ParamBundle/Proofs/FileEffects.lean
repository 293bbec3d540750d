import ParamBundle.FileSystem
import Mathlib.Data.List.Basic

/-! What changes in a file system when a file is stored. Making directories adds
directories where nothing was; only the write itself touches a regular file, and it comes
last. -/

namespace ParamBundle.Proofs.FileEffects
open FileSystem

variable {files made after : FileSystem} {path : FilePath} {content : List UInt8}

def SameFiles (before after : FileSystem) : Prop :=
  ∀ place content, after.entry? place = some (.file content) ↔ before.entry? place = some (.file content)

/-- The file at one place is written, and every other regular file is what it was. -/
structure Writes (before after : FileSystem) (place : Place) (content : List UInt8) : Prop where
  written : after.entry? place = some (.file content)
  others : ∀ other, other ≠ place → ∀ held,
    after.entry? other = some (.file held) ↔ before.entry? other = some (.file held)

/-- Whatever is new is a directory, and nothing is lost. -/
structure AddsDirectories (before after : FileSystem) : Prop where
  workingDirectory : after.workingDirectory = before.workingDirectory
  entries : ∀ place, after.entry? place = before.entry? place ∨
    before.entry? place = none ∧ after.entry? place = some .directory

namespace AddsDirectories

theorem refl (files : FileSystem) : AddsDirectories files files := ⟨rfl, fun _ => Or.inl rfl⟩

theorem trans (first : AddsDirectories files made) (second : AddsDirectories made after) :
    AddsDirectories files after := by
  refine ⟨second.workingDirectory.trans first.workingDirectory, fun place => ?_⟩
  obtain same | ⟨absent, directory⟩ := second.entries place
  · rw [same]
    exact first.entries place
  · obtain same | ⟨_, held⟩ := first.entries place
    · exact Or.inr ⟨same ▸ absent, directory⟩
    · rw [held] at absent
      cases absent

theorem sameFiles (added : AddsDirectories files after) : SameFiles files after := by
  intro place content
  obtain same | ⟨absent, directory⟩ := added.entries place
  · rw [same]
  · simp [absent, directory]

end AddsDirectories

/-! ### Entries and walks after a change -/

theorem lookup_filter_ne {α β : Type} [BEq α] [LawfulBEq α] [DecidableEq α] {dropped other : α}
    (differ : other ≠ dropped) (entries : List (α × β)) :
    (entries.filter (·.1 ≠ dropped)).lookup other = entries.lookup other := by
  induction entries with
  | nil => rfl
  | cons entry rest ih =>
    obtain ⟨key, held⟩ := entry
    by_cases same : key = dropped
    · subst same
      have passed : (other == key) = false := beq_eq_false_iff_ne.mpr differ
      simpa [List.lookup_cons, passed] using ih
    · have kept : ((key, held) :: rest).filter (·.1 ≠ dropped) = (key, held) :: rest.filter (·.1 ≠ dropped) :=
        List.filter_cons_of_pos (by simpa using same)
      rw [kept, List.lookup_cons, List.lookup_cons, ih]

theorem entry?_put (name : String) (place other : Place) (entry : Entry) :
    FileSystem.entry? (files.put (name :: place) entry) other =
      if other = name :: place then some entry else files.entry? other := by
  cases other with
  | nil => rfl
  | cons first rest =>
    simp only [put, entry?, List.lookup_cons]
    split
    next same => rw [if_pos (beq_iff_eq.mp same)]
    next differ =>
      have differ : first :: rest ≠ name :: place := beq_eq_false_iff_ne.mp differ
      rw [if_neg differ, lookup_filter_ne differ]

/-- A walk passes directories only, so it comes to the same end wherever those are left. -/
theorem walk_kept {start last : Place} {names : List String}
    (directories : ∀ place, files.entry? place = some .directory → made.entry? place = some .directory)
    (reached : files.walk start names = .ok last) : made.walk start names = .ok last := by
  induction names generalizing start with
  | nil => exact reached
  | cons first rest ih =>
    rw [walk] at reached ⊢
    split at reached
    · cases reached
    · cases reached
    next directory =>
      rw [directories start directory]
      exact ih reached

theorem walk_put {start place last : Place} {name : String} {names : List String} {entry : Entry}
    (held : files.entry? (name :: place) ≠ some .directory)
    (reached : files.walk start names = .ok last) :
    (files.put (name :: place) entry).walk start names = .ok last := by
  refine walk_kept (fun other directory => ?_) reached
  have apart : other ≠ name :: place := by
    rintro rfl
    exact held directory
  rw [entry?_put, if_neg apart, directory]

theorem walk_concat {start inner : Place} {names : List String} (name : String)
    (reached : files.walk start names = .ok inner) (directory : files.entry? inner = some .directory) :
    files.walk start (names ++ [name]) = .ok (enter inner name) := by
  induction names generalizing start with
  | nil =>
    cases reached
    simp only [List.nil_append, walk, directory]
  | cons first rest ih =>
    rw [List.cons_append, walk]
    rw [walk] at reached
    split at reached
    · cases reached
    · cases reached
    next => exact ih reached

/-- The files decide whether a walk comes to its end, but not where that end is. -/
theorem walk_end {start last : Place} {names : List String} (reached : files.walk start names = .ok last) :
    last = names.foldl enter start := by
  induction names generalizing start with
  | nil =>
    cases reached
    rfl
  | cons name rest ih =>
    rw [walk] at reached
    split at reached
    · cases reached
    · cases reached
    next => exact ih reached

theorem walk_append {start last : Place} {names more : List String} (reached : files.walk start (names ++ more) = .ok last) :
    ∃ inner, files.walk start names = .ok inner ∧ files.walk inner more = .ok last := by
  induction names generalizing start with
  | nil => exact ⟨start, rfl, reached⟩
  | cons name rest ih =>
    rw [List.cons_append, walk] at reached
    rw [walk]
    split at reached
    · cases reached
    · cases reached
    next => exact ih reached

theorem AddsDirectories.walk {start last : Place} {names : List String} (added : AddsDirectories files made)
    (reached : files.walk start names = .ok last) : made.walk start names = .ok last := by
  refine walk_kept (fun place directory => ?_) reached
  obtain same | ⟨absent, -⟩ := added.entries place
  · rw [same, directory]
  · rw [directory] at absent
    cases absent

theorem container_ok_iff {place : Place} {last : Option String} :
    files.container path = .ok (place, last) ↔
      files.walk (files.start path.root) path.parts.dropLast = .ok place ∧
        files.entry? place = some .directory ∧ path.parts.getLast? = last := by
  unfold container
  split
  next fault missed => simp [missed]
  next inner reached =>
    rw [reached]
    constructor
    · intro found
      split at found
      · cases found
      · cases found
      next directory =>
        cases found
        exact ⟨rfl, directory, rfl⟩
    · rintro ⟨same, directory, rfl⟩
      cases same
      rw [directory]

theorem lookup?_eq_some_iff {entry : Entry} : files.lookup? path = some entry ↔
    ∃ place, files.walk (files.start path.root) path.parts = .ok place ∧ files.entry? place = some entry := by
  rw [lookup?]
  cases files.walk (files.start path.root) path.parts <;> simp

theorem content?_eq_some_iff : files.content? path = some content ↔ files.lookup? path = some (.file content) := by
  rw [content?]
  cases files.lookup? path with
  | none => simp
  | some entry => cases entry <;> simp

theorem isDirectory_iff : files.isDirectory path = true ↔
    ∃ place, files.walk (files.start path.root) path.parts = .ok place ∧ files.entry? place = some .directory := by
  rw [← lookup?_eq_some_iff]
  exact decide_eq_true_iff

/-- No part is empty or a single dot. Two dots are allowed. -/
def Kept (path : FilePath) : Prop := ∀ part ∈ path.parts, FilePath.isPart part

theorem enter_forward {place : Place} {name : String} (part : FilePath.isPart name = true) (forward : name ≠ "..") :
    enter place name = name :: place := by
  simp only [FilePath.isPart, Bool.and_eq_true, decide_eq_true_eq] at part
  rw [enter, if_neg (not_or.mpr part), if_neg forward]

/-! ### Making directories -/

theorem makeDirectory_adds (done : files.makeDirectory path = .ok made) : AddsDirectories files made := by
  unfold makeDirectory at done
  split at done
  · cases done
  · cases done
  next place name _ =>
    split at done
    · cases done
    next free =>
      cases done
      refine ⟨rfl, fun other => ?_⟩
      rw [entry?_put]
      split
      next same => exact Or.inr ⟨by simpa [same] using (not_or.mp free).2, rfl⟩
      next => exact Or.inl rfl

theorem provideDirectory_adds (done : files.provideDirectory path = .ok made) : AddsDirectories files made := by
  unfold provideDirectory at done
  split at done
  · split at done
    · cases done
      exact .refl files
    · cases done
  · exact makeDirectory_adds done

/-- Also where it fails half way. -/
theorem provideDirectories_adds (files : FileSystem) (path : FilePath) :
    AddsDirectories files (files.provideDirectories path).1 := by
  fun_induction provideDirectories files path with
  | case1 path made done => exact provideDirectory_adds done
  | case2 path => exact .refl files
  | case3 path absent inner outer fault stuck ih =>
    rw [stuck] at ih
    exact ih
  | case4 path absent inner outer provided made done ih =>
    rw [provided] at ih
    exact ih.trans (provideDirectory_adds done)
  | case5 path absent inner outer provided error refused ih =>
    rw [provided] at ih
    exact ih
  | case6 path => exact .refl files

private theorem provideDirectories_fault {fault : Fault} (stuck : (files.provideDirectories path).2 = some fault) :
    ∃ error shown, fault = .storage error shown := by
  fun_induction provideDirectories files path with
  | case1 path made done => cases stuck
  | case2 path =>
    cases stuck
    exact ⟨_, _, rfl⟩
  | case3 path absent inner outer cause failed ih =>
    rw [failed] at ih
    exact ih stuck
  | case4 path absent inner outer provided made done ih => cases stuck
  | case5 path absent inner outer provided error refused ih =>
    cases stuck
    exact ⟨_, _, rfl⟩
  | case6 path =>
    cases stuck
    exact ⟨_, _, rfl⟩

/-- A directory that is there is provided without a change. -/
theorem provideDirectory_present (kept : Kept path) (there : files.isDirectory path = true) :
    files.provideDirectory path = .ok files := by
  have occupied : files.makeDirectory path = .error .occupied := by
    obtain ⟨place, reached, directory⟩ := isDirectory_iff.mp there
    rcases List.eq_nil_or_concat path.parts with bare | ⟨outer, name, shape⟩
    · rw [bare] at reached
      cases reached
      have found : files.container path = .ok (files.start path.root, none) :=
        container_ok_iff.mpr ⟨by rw [bare]; rfl, directory, by rw [bare]; rfl⟩
      rw [makeDirectory, found]
    · rw [List.concat_eq_append] at shape
      rw [shape] at reached
      obtain ⟨inner, entered, last⟩ := walk_append reached
      have around : files.entry? inner = some .directory := by
        rw [walk] at last
        split at last
        · cases last
        · cases last
        next directory => exact directory
      have found : files.container path = .ok (inner, some name) :=
        container_ok_iff.mpr ⟨by rw [shape, List.dropLast_concat]; exact entered, around, by simp [shape]⟩
      rw [makeDirectory, found]
      by_cases backward : name = ".."
      · exact if_pos (Or.inl backward)
      · have same : enter inner name = name :: inner := enter_forward (kept name (by simp [shape])) backward
        rw [walk_end last, List.foldl_cons, List.foldl_nil, same] at directory
        exact if_pos (Or.inr (by rw [directory]; rfl))
  rw [provideDirectory, occupied]
  exact if_pos there

theorem provideDirectories_present (kept : Kept path) (there : files.isDirectory path = true) :
    files.provideDirectories path = (files, none) := by
  rw [provideDirectories, provideDirectory_present kept there]

/-! ### Writing -/

theorem writeFile_fault {fault : Fault} (refused : files.writeFile path content = .error fault) :
    ∃ error shown, fault = .storage error shown := by
  simp only [writeFile] at refused
  split at refused
  · cases refused
    exact ⟨_, _, rfl⟩
  · cases refused
    exact ⟨_, _, rfl⟩
  · split at refused
    · cases refused
      exact ⟨_, _, rfl⟩
    · split at refused
      · cases refused
        exact ⟨_, _, rfl⟩
      · cases refused

/-- A path leads to its last name in its container, whether or not anything lies there. -/
theorem container_leads {inner : Place} {name : String} (kept : Kept path)
    (found : files.container path = .ok (inner, some name)) (forward : name ≠ "..") :
    files.walk (files.start path.root) path.parts = .ok (name :: inner) := by
  obtain ⟨reached, directory, last⟩ := container_ok_iff.mp found
  have whole := walk_concat name reached directory
  rw [enter_forward (kept name (List.mem_of_getLast? last)) forward, List.dropLast_append_getLast? name last] at whole
  exact whole

/-- The write comes down to one entry, and the path leads to it. -/
theorem writeFile_writes (kept : Kept path) (written : files.writeFile path content = .ok after) :
    ∃ place, after.walk (after.start path.root) path.parts = .ok place ∧ Writes files after place content := by
  simp only [writeFile] at written
  split at written
  · cases written
  · cases written
  next inner name found =>
    split at written
    · cases written
    next forward =>
      split at written
      · cases written
      next free =>
        cases written
        refine ⟨name :: inner, ?_, ?_, ?_⟩
        -- The way to the new entry leads through directories, and the write leaves those alone.
        · exact walk_put free (container_leads kept found forward)
        · rw [entry?_put, if_pos rfl]
        · intro other differ held
          rw [entry?_put, if_neg differ]

/-! ### Storing a file -/

/-- A store that fails may leave new directories, but only when the file system itself
made it fail. A name that no file can have is found before any effect. -/
theorem store_error {fault : Fault} (failed : files.store path content = (after, .error fault)) :
    AddsDirectories files after ∧
      (hasNull path.toString = true ∧ fault = .nullInPath ∧ after = files ∨ ∃ error shown, fault = .storage error shown) := by
  unfold store at failed
  split at failed
  next null =>
    cases failed
    exact ⟨.refl files, Or.inl ⟨null, rfl, rfl⟩⟩
  · have provided := provideDirectories_adds files path.parent
    split at failed
    next made cause stuck =>
      cases failed
      rw [stuck] at provided
      exact ⟨provided, Or.inr (provideDirectories_fault (congrArg Prod.snd stuck))⟩
    next made whole =>
      rw [whole] at provided
      split at failed
      · cases failed
      next cause refused =>
        cases failed
        exact ⟨provided, Or.inr (writeFile_fault refused)⟩

theorem Writes.after_sameFiles {place : Place} (same : SameFiles files made)
    (writes : Writes made after place content) : Writes files after place content := by
  refine ⟨writes.written, fun other differ held => ?_⟩
  exact (writes.others other differ held).trans (same other held)

theorem store_ok (kept : Kept path) (stored : files.store path content = (after, .ok ())) :
    ∃ place, after.walk (after.start path.root) path.parts = .ok place ∧ Writes files after place content := by
  unfold store at stored
  split at stored
  · cases stored
  · have provided := provideDirectories_adds files path.parent
    split at stored
    · cases stored
    next made whole =>
      rw [whole] at provided
      split at stored
      next written done =>
        cases stored
        obtain ⟨place, reached, writes⟩ := writeFile_writes kept done
        exact ⟨place, reached, writes.after_sameFiles provided.sameFiles⟩
      · cases stored

/-! ### Where a class goes -/

theorem Kept.ofString (text : String) : Kept (.ofString text) :=
  fun _ part => (List.mem_filter.mp part).2

theorem Kept.append {base next : FilePath} (first : Kept base) (second : Kept next) : Kept (base ++ next) := by
  change Kept (FilePath.append base next)
  unfold FilePath.append
  split
  · intro part found
    exact (List.mem_append.mp found).elim (first part) (second part)
  · exact second

theorem Kept.ofClass {directory : FilePath} (kept : Kept directory) (packageName className : String) :
    Kept (.ofClass directory packageName className) := by
  refine .append ?_ (.ofString _)
  induction packageSegments packageName generalizing directory with
  | nil => exact kept
  | cons segment rest ih => exact ih (kept.append (.ofString segment))

end ParamBundle.Proofs.FileEffects
