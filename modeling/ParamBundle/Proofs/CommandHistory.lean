import ParamBundle.CommandTable
import ParamBundle.Proofs.FileEffects

/-! What a table of commands keeps of the calls made on it: for each name the command that
was registered under it last. All other calls only ask, and a search asks as well, since the
modules of a table that has been searched once are loaded. -/

namespace ParamBundle.Proofs.CommandHistory
open CommandTable FileEffects

variable {table start : CommandTable} {calls later : List Call} {call : Call} {name : String} {command : Command}
  {known : List String} {history : List (String × Command)} {arguments : Arguments}

def after (table : CommandTable) (calls : List Call) : CommandTable :=
  calls.foldl (fun table call => (table.step call).2) table

def registration? : Call → Option (String × Command)
  | .register command => command.name.map fun name => (name, command)
  | _ => none

/-! ### What a history says -/

section History
variable (history : List (String × Command))

def Latest (name : String) (command : Command) : Prop :=
  ∃ earlier later, history = earlier ++ (name, command) :: later ∧ name ∉ later.map (·.1)

/-- All names that were ever registered, in the order of their code points. -/
structure Lists (known : List String) : Prop where
  increasing : known.Pairwise (· < ·)
  exact : ∀ name, name ∈ known ↔ name ∈ history.map (·.1)

/-- Names in one line. A line that would show nothing says so. -/
def available (known : List String) : String :=
  if known = [] ∨ known = [""] then "none" else ", ".intercalate known

/-- Nothing was registered under a name, and the fault says which names there are instead. -/
structure Unknown (name : String) (fault : Fault) : Prop where
  unregistered : name ∉ history.map (·.1)
  listed : ∃ known, Lists history known ∧ fault = .unknownCommand name known ∧
    fault.message = "Unknown refactoring: " ++ name ++ " (available: " ++ available known ++ ")"

end History

def IsGiven (arguments : Arguments) (parameter : String) : Prop :=
  ∃ value, arguments.lookup parameter = some value ∧ value ≠ .null

theorem given?_isSome_iff {parameter : String} : (arguments.given? parameter).isSome ↔ IsGiven arguments parameter := by
  rw [Arguments.given?, IsGiven]
  cases arguments.lookup parameter with
  | none => simp
  | some value => cases value <;> simp [Json.isNull]

instance (arguments : Arguments) (parameter : String) : Decidable (IsGiven arguments parameter) :=
  decidable_of_iff _ given?_isSome_iff

structure Misses (command : Command) (name : String) (arguments : Arguments) (fault : Fault) : Prop where
  told : ∃ missing, missing ≠ [] ∧ missing = command.required.filter (¬ IsGiven arguments ·) ∧
    fault = .missingParameters name missing ∧
    fault.message = "Missing required parameters for " ++ name ++ ": " ++ ", ".intercalate missing

/-! ### What a call answers -/

section Answers
variable (history : List (String × Command))

/-- How a call of the command under a name ends. The command itself has a say only when it
is given all that it asks for. -/
inductive Applies (files : FileSystem) (name : String) (source : FilePath) (arguments : Arguments) : Outcome → Prop where
  | unknown {fault : Fault} (unknown : Unknown history name fault) :
      Applies files name source arguments { result := .error fault, files }
  | refused {command : Command} {fault : Fault} (latest : Latest history name command)
      (misses : Misses command name arguments fault) :
      Applies files name source arguments { result := .error fault, files }
  | executed {command : Command} (latest : Latest history name command)
      (given : ∀ parameter ∈ command.required, IsGiven arguments parameter) :
      Applies files name source arguments (command.execute files source arguments)

inductive Answers : Call → Except Fault Answer → Prop where
  | registered {command : Command} {name : String} (named : command.name = some name) :
      Answers (.register command) (.ok .done)
  | nameless {command : Command} (nameless : command.name = none) :
      Answers (.register command) (.error (.namelessCommand command.label))
  | found {name : String} {command : Command} (latest : Latest history name command) :
      Answers (.get name) (.ok (.command command))
  | unknown {name : String} {fault : Fault} (unknown : Unknown history name fault) :
      Answers (.get name) (.error fault)
  | listed {known : List String} (lists : Lists history known) : Answers .list (.ok (.names known))
  | discovered {known : List String} (lists : Lists history known) : Answers .discover (.ok (.names known))
  | applied {files : FileSystem} {name : String} {source : FilePath} {arguments : Arguments} {outcome : Outcome}
      (applies : Applies history files name source arguments outcome) :
      Answers (.apply files name source arguments) (.ok (.outcome outcome))

end Answers

/-! ### Tables and histories -/

def Reflects (table : CommandTable) (history : List (String × Command)) : Prop :=
  ∀ name, table.entries.lookup name = history.reverse.lookup name

theorem foreign_iff : (∀ entry ∈ history, (name != entry.1) = true) ↔ name ∉ history.map (·.1) := by
  rw [List.mem_map, not_exists]
  constructor
  · intro foreign entry held
    exact bne_iff_ne.mp (foreign entry held.1) held.2.symm
  · intro absent entry member
    exact bne_iff_ne.mpr fun same => absent entry ⟨member, same.symm⟩

theorem lookup_reverse_eq_some_iff : history.reverse.lookup name = some command ↔ Latest history name command := by
  rw [List.lookup_eq_some_iff]
  constructor
  · intro ⟨later, earlier, shape, others⟩
    refine ⟨earlier.reverse, later.reverse, ?_, ?_⟩
    · rw [← List.reverse_reverse history, shape]
      simp
    · rw [← foreign_iff]
      simpa using others
  · intro ⟨earlier, later, shape, others⟩
    refine ⟨later.reverse, earlier.reverse, by simp [shape], ?_⟩
    rw [← foreign_iff] at others
    simpa using others

theorem lookup_reverse_eq_none_iff : history.reverse.lookup name = none ↔ name ∉ history.map (·.1) := by
  rw [List.lookup_eq_none_iff, foreign_iff]
  simp

private theorem lookup_put (table : CommandTable) (name other : String) (command : Command) :
    (table.put name command).entries.lookup other = if other = name then some command else table.entries.lookup other := by
  rw [CommandTable.put, List.lookup_cons]
  by_cases same : other = name
  · simp [same]
  · rw [if_neg same, beq_eq_false_iff_ne.mpr same, lookup_filter_ne same]

namespace Reflects

theorem put (reflects : Reflects table history) : Reflects (table.put name command) (history ++ [(name, command)]) := by
  intro other
  rw [lookup_put, reflects other, List.reverse_concat, List.lookup_cons]
  by_cases same : other = name
  · simp [same]
  · rw [if_neg same, beq_eq_false_iff_ne.mpr same]

theorem lists (reflects : Reflects table history) : Lists history table.names := by
  refine ⟨(NameSet.ofList _).increasing, fun name => ?_⟩
  have unseen : history.reverse.lookup name = none ↔ name ∉ history.map (·.1) := lookup_reverse_eq_none_iff
  have listed : name ∉ table.entries.map (·.1) ↔ name ∉ history.map (·.1) := by
    rw [← unseen, ← reflects name, List.lookup_eq_none_iff, foreign_iff]
  exact NameSet.mem_ofList.trans (not_iff_not.mp listed)

private theorem get_ok (reflects : Reflects table history) (latest : Latest history name command) :
    table.get name = .ok command := by
  rw [CommandTable.get, reflects name, lookup_reverse_eq_some_iff.mpr latest]

private theorem get_unknown (reflects : Reflects table history) (unregistered : name ∉ history.map (·.1)) :
    table.get name = .error (.unknownCommand name table.names) := by
  rw [CommandTable.get, reflects name, lookup_reverse_eq_none_iff.mpr unregistered]

end Reflects

private theorem exists_latest (history : List (String × Command)) (name : String) :
    (∃ command, Latest history name command) ∨ name ∉ history.map (·.1) := by
  cases found : history.reverse.lookup name with
  | some command => exact Or.inl ⟨command, lookup_reverse_eq_some_iff.mp found⟩
  | none => exact Or.inr (lookup_reverse_eq_none_iff.mp found)

/-! ### Texts -/

theorem intercalate_eq_empty_iff : ", ".intercalate known = "" ↔ known = [] ∨ known = [""] := by
  match known with
  | [] => simp
  | [only] => simp
  | first :: second :: others =>
    have shown : ", ".intercalate (first :: second :: others) ≠ "" := by
      rw [String.intercalate_cons_cons]
      intro empty
      have between := (String.append_eq_empty_iff.mp (String.append_eq_empty_iff.mp empty).1).2
      revert between
      decide
    exact iff_of_false shown (by simp)

private theorem unknown_told (lists : Lists history known) (unregistered : name ∉ history.map (·.1)) :
    Unknown history name (.unknownCommand name known) := by
  refine ⟨unregistered, known, lists, rfl, ?_⟩
  have shown : (if (", ".intercalate known).isEmpty then "none" else ", ".intercalate known) = available known := by
    simp only [available, String.isEmpty_iff, intercalate_eq_empty_iff]
  rw [← shown]
  rfl

private theorem missing_eq (command : Command) (arguments : Arguments) :
    command.required.filter (fun parameter => (arguments.given? parameter).isNone) =
      command.required.filter (¬ IsGiven arguments ·) := by
  apply List.filter_congr
  intro parameter _
  rw [← Option.not_isSome, Bool.eq_iff_iff, decide_eq_true_iff, ← given?_isSome_iff, Bool.not_eq_true', Bool.not_eq_true]

private theorem checkRequired_ok (given : ∀ parameter ∈ command.required, IsGiven arguments parameter) :
    checkRequired name command.required arguments = .ok () := by
  have none : command.required.filter (¬ IsGiven arguments ·) = [] := by simpa using given
  rw [checkRequired, missing_eq, none]

private theorem checkRequired_misses (absent : ¬ ∀ parameter ∈ command.required, IsGiven arguments parameter) :
    ∃ fault, checkRequired name command.required arguments = .error fault ∧ Misses command name arguments fault := by
  cases missing : command.required.filter (¬ IsGiven arguments ·) with
  | nil => exact absurd (by simpa using missing) absent
  | cons first others =>
    refine ⟨.missingParameters name (first :: others), ?_, ?_⟩
    · rw [checkRequired, missing_eq, missing]
    · exact ⟨first :: others, by simp, missing.symm, rfl, rfl⟩

/-! ### Searches -/

def Searched (table : CommandTable) : Prop :=
  ∀ module ∈ CommandModule.library, module.mayRegister = true → module.name ∈ table.loaded

private theorem searched_standard : Searched standard := by
  intro module listed may
  simp only [CommandModule.library, List.mem_cons, List.not_mem_nil, or_false] at listed
  rcases listed with rfl | rfl | rfl | rfl
  · cases may
  · cases may
  · cases may
  · exact List.mem_cons_self

private theorem foldlM_load {modules : List CommandModule} (loaded : ∀ module ∈ modules, module.name ∈ table.loaded) :
    modules.foldlM load table = .ok table := by
  induction modules with
  | nil => rfl
  | cons module others ih =>
    obtain ⟨first, others⟩ := List.forall_mem_cons.mp loaded
    rw [List.foldlM_cons, load, if_pos first]
    exact ih others

/-- The first search finds the commands of the library. -/
theorem discover_searched (searched : Searched table) : table.discover = .ok (table, table.names) := by
  have loaded : (CommandModule.library.filter (·.mayRegister)).foldlM load table = .ok table := by
    apply foldlM_load
    intro module member
    obtain ⟨listed, may⟩ := List.mem_filter.mp member
    exact searched module listed may
  rw [discover, loaded]
  rfl

example : empty.discover = .ok (standard, ["introduce-parameter-object"]) := rfl

/-! ### Calls -/

theorem apply_applies (reflects : Reflects table history) (files : FileSystem) (name : String) (source : FilePath)
    (arguments : Arguments) : Applies history files name source arguments (table.apply files name source arguments) := by
  obtain ⟨command, latest⟩ | unregistered := exists_latest history name
  · simp only [CommandTable.apply, reflects.get_ok latest]
    by_cases given : ∀ parameter ∈ command.required, IsGiven arguments parameter
    · rw [checkRequired_ok given]
      exact .executed latest given
    · obtain ⟨fault, refused, misses⟩ := checkRequired_misses given
      rw [refused]
      exact .refused latest misses
  · simp only [CommandTable.apply, reflects.get_unknown unregistered]
    exact .unknown (unknown_told reflects.lists unregistered)

/-- What one call does: it answers from the history, and only a registration adds to it. -/
structure StepKeeps (table : CommandTable) (history : List (String × Command)) (call : Call) : Prop where
  answers : Answers history call (table.step call).1
  reflects : Reflects (table.step call).2 (history ++ (registration? call).toList)
  loaded : (table.step call).2.loaded = table.loaded
  unchanged : registration? call = none → (table.step call).2 = table

/-- A call that leaves the table alone keeps its history. -/
theorem stepKeeps_of_eq (reflects : Reflects table history) (answers : Answers history call (table.step call).1)
    (same : (table.step call).2 = table) (silent : registration? call = none) : StepKeeps table history call := by
  refine ⟨answers, ?_, by rw [same], fun _ => same⟩
  rw [same, silent]
  simpa using reflects

theorem step_keeps (reflects : Reflects table history) (searched : call = .discover → Searched table) :
    StepKeeps table history call := by
  cases call with
  | register command =>
    cases named : command.name with
    | some name =>
      have stepped : table.step (.register command) = (.ok .done, table.put name command) := by
        simp only [step, register, named]
      have registered : registration? (.register command) = some (name, command) := by simp [registration?, named]
      refine ⟨?_, ?_, ?_, ?_⟩
      · rw [stepped]
        exact .registered named
      · rw [stepped, registered]
        exact reflects.put
      · rw [stepped]
        rfl
      · rw [registered]
        nofun
    | none =>
      have stepped : table.step (.register command) = (.error (.namelessCommand command.label), table) := by
        simp only [step, register, named]
      apply stepKeeps_of_eq reflects
      · rw [stepped]
        exact .nameless named
      · rw [stepped]
      · simp [registration?, named]
  | get name =>
    apply stepKeeps_of_eq reflects _ rfl rfl
    obtain ⟨command, latest⟩ | unregistered := exists_latest history name
    · simp only [step, reflects.get_ok latest]
      exact .found latest
    · simp only [step, reflects.get_unknown unregistered]
      exact .unknown (unknown_told reflects.lists unregistered)
  | list => exact stepKeeps_of_eq reflects (.listed reflects.lists) rfl rfl
  | discover =>
    have stepped : table.step .discover = (.ok (.names table.names), table) := by
      simp only [step, discover_searched (searched rfl)]
    apply stepKeeps_of_eq reflects
    · rw [stepped]
      exact .discovered reflects.lists
    · rw [stepped]
    · rfl
  | apply files name source arguments =>
    exact stepKeeps_of_eq reflects (.applied (apply_applies reflects files name source arguments)) rfl rfl

/-! ### Runs -/

/-- A run is ready for its searches when the table has been searched before, or when it makes none. -/
def Ready (table : CommandTable) (calls : List Call) : Prop := Searched table ∨ .discover ∉ calls

theorem Ready.next (ready : Ready table (call :: calls)) (kept : (table.step call).2.loaded = table.loaded) :
    Ready (table.step call).2 calls := by
  apply ready.imp
  · intro searched module listed may
    rw [kept]
    exact searched module listed may
  · exact List.not_mem_of_not_mem_cons

theorem Ready.first (ready : Ready table (call :: calls)) : call = .discover → Searched table := by
  rintro rfl
  exact ready.resolve_right fun absent => absent List.mem_cons_self

/-- The induction over a run: the table reflects what has been registered so far, so the next
call is answered from it. -/
theorem after_reflects (reflects : Reflects table history) (ready : Ready table (calls ++ later)) :
    Reflects (after table calls) (history ++ calls.filterMap registration?) ∧ Ready (after table calls) later := by
  induction calls generalizing table history with
  | nil =>
    rw [List.filterMap_nil, List.append_nil]
    exact ⟨reflects, ready⟩
  | cons call calls ih =>
    have kept := step_keeps reflects ready.first
    obtain ⟨reflects, ready⟩ := ih kept.reflects (ready.next kept.loaded)
    refine ⟨?_, ready⟩
    have shape : (call :: calls).filterMap registration? = (registration? call).toList ++ calls.filterMap registration? := by
      cases registered : registration? call <;> simp [registered]
    rw [shape, ← List.append_assoc]
    exact reflects

theorem length_run (table : CommandTable) (calls : List Call) : (table.run calls).length = calls.length := by
  induction calls generalizing table with
  | nil => rfl
  | cons call calls ih => simp only [CommandTable.run, List.length_cons, ih]

theorem run_append (table : CommandTable) (calls later : List Call) :
    table.run (calls ++ later) = table.run calls ++ (after table calls).run later := by
  induction calls generalizing table with
  | nil => rfl
  | cons call calls ih =>
    simp only [List.cons_append, CommandTable.run, ih]
    rfl

/-- The answer to a call in the middle of a run. -/
theorem getElem?_run (table : CommandTable) (before later : List Call) (call : Call) :
    (table.run (before ++ call :: later))[before.length]? = some ((after table before).step call) := by
  rw [run_append, List.getElem?_append_right (Nat.le_of_eq (length_run table before)), length_run, Nat.sub_self]
  rfl

/-- A run starts from the table of the library or from an empty one, and only the first is searched. -/
inductive Begins : CommandTable → List (String × Command) → List Call → Prop where
  | standard (calls : List Call) :
      Begins .standard [("introduce-parameter-object", .introduceParameterObject)] calls
  | empty {calls : List Call} (unsearched : .discover ∉ calls) : Begins .empty [] calls

theorem reflects_empty : Reflects .empty [] := fun _ => rfl

theorem Begins.reflects (begins : Begins start history calls) : Reflects start history := by
  cases begins with
  | standard => exact reflects_empty.put
  | empty => exact reflects_empty

theorem Begins.ready (begins : Begins start history calls) : Ready start calls := by
  cases begins with
  | standard => exact Or.inl searched_standard
  | empty unsearched => exact Or.inr unsearched

structure AnsweredFromHistory (start : CommandTable) (history : List (String × Command)) (before : List Call)
    (call : Call) (later : List Call) : Prop where
  answered : ∃ answer, (start.run (before ++ call :: later))[before.length]? =
      some (answer, after start (before ++ [call])) ∧
    Answers (history ++ before.filterMap registration?) call answer
  unchanged : registration? call = none → after start (before ++ [call]) = after start before

/-- Over a whole run the table keeps for each name what was registered under it last. Each
call is answered from the registrations before it, and only registrations change the table. -/
theorem last_registration_counts (begins : Begins start history calls) {before later : List Call} {call : Call}
    (split : calls = before ++ call :: later) : AnsweredFromHistory start history before call later := by
  subst split
  obtain ⟨reflects, ready⟩ := after_reflects begins.reflects begins.ready
  have kept := step_keeps reflects ready.first
  have left : after start (before ++ [call]) = ((after start before).step call).2 := by simp [after]
  refine ⟨⟨_, ?_, kept.answers⟩, ?_⟩
  · rw [getElem?_run, left]
  · rw [left]
    exact kept.unchanged

/-- A search does not bring back a command of the library whose name has been taken, and what
the command that took it asks for is what counts. -/
theorem taken_name_stays_taken :
    let files : FileSystem := { entries := [], workingDirectory := [] }
    let own : Command :=
      { label := "Own"
        name := some "introduce-parameter-object"
        required := ["style", "name", "output"]
        execute := fun files _ _ => { result := .ok "own", files } }
    let arguments : Arguments := [("name", .string "P"), ("output", .null)]
    let call : Call := .apply files "introduce-parameter-object" (.ofString "d.json") arguments
    let builtIn := [("introduce-parameter-object", Command.introduceParameterObject)]
    AnsweredFromHistory .standard builtIn [.register own, .discover] call [] ∧
      ((after .standard [.register own, .discover]).step call).1 = .ok (.outcome
        { result := .error (.missingParameters "introduce-parameter-object" ["style", "output"]), files }) := by
  intro files own arguments call builtIn
  exact ⟨last_registration_counts (.standard [.register own, .discover, call]) rfl, rfl⟩

end ParamBundle.Proofs.CommandHistory
