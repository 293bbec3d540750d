import ParamBundle.CommandLine.Run

/-! What is asked of a console, and that the program's own console does it. The results on
the command line hold with every console that does as much. -/

namespace ParamBundle.Proofs.ConsoleLaws
open CommandLine

variable {files : FileSystem} {words rest flags : List String} {argument text : String} {settled : Flags}

/-- Without an escape character, so that nothing of it is taken for a control sequence. -/
def Unescaped (text : String) : Prop := '\x1b' ∉ text.toList

instance (text : String) : Decidable (Unescaped text) := inferInstanceAs (Decidable ('\x1b' ∉ text.toList))

/-- A flag that asks for the log, once or several times. -/
def IsVerbose (flag : String) : Prop :=
  flag = "--verbose" ∨ ∃ count, flag.toList = '-' :: List.replicate (count + 1) 'v'

structure Conforms (console : Console) : Prop where
  /-- A text is printed as it is, apart from control sequences, and the run has succeeded. -/
  shows : ∀ text newline, ∃ printed, console.conclude (.shown text newline) = .finished 0 printed "" ∧
    (Unescaped text → printed = if newline then text ++ "\n" else text)
  /-- A refusal is printed as an error and the run has failed. -/
  refuses : ∀ message, ∃ printed, console.conclude (.refused message) = .finished 1 "" printed ∧
    (Unescaped message → printed = "Error: " ++ message ++ "\n")
  /-- A fault that the program does not answer for is passed on. -/
  raises : ∀ fault, fault.isRejection = false → console.conclude (.raised fault) = .failed fault
  /-- Flags in front ask for the log and change nothing else about the arguments. -/
  louder : ∀ files flags words order, flags ≠ [] → (∀ flag ∈ flags, IsVerbose flag) →
    console.read files words = .generate false order → console.read files (flags ++ words) = .generate true order

/-! ### Texts -/

private theorem dropSequences_eq_self {text : List Char} (plain : '\x1b' ∉ text) : Text.dropSequences text = text := by
  fun_induction Text.dropSequences text with
  | case1 => simp at plain
  | case2 => simp at plain
  | case3 c rest _ ih => rw [ih (List.not_mem_of_not_mem_cons plain)]
  | case4 => rfl

private theorem printable_eq_self (plain : Unescaped text) : Text.printable text = text := by
  rw [Text.printable, dropSequences_eq_self plain, String.ofList_toList]

theorem Unescaped.append {first second : String} (one : Unescaped first) (two : Unescaped second) :
    Unescaped (first ++ second) := by
  rw [Unescaped, String.toList_append, List.mem_append, not_or]
  exact ⟨one, two⟩

theorem Unescaped.start {first second : String} (whole : Unescaped (first ++ second)) : Unescaped first := by
  rw [Unescaped, String.toList_append, List.mem_append, not_or] at whole
  exact whole.1

/-! ### The program's part -/

def answer (order : Order) (source : String) : String :=
  match order.outputDirectory with
  | none => source
  | some text => "Generated " ++ order.name ++ " in " ++ (FilePath.ofString text).toString ++ "\n"

def complaint (fault : Fault) : String :=
  "Error: refactoring aborted, no changes applied: " ++ fault.message ++ "\n"

/-- How the result of an order is shown, whatever is logged meanwhile. -/
inductive Shown (order : Order) : Except Fault String → Ending → Prop where
  | made {source printed : String} (plain : Unescaped (answer order source) → printed = answer order source) :
      Shown order (.ok source) (.finished 0 printed "")
  | rejected {fault : Fault} {printed : String} (blamed : fault.isRejection = true)
      (plain : Unescaped fault.message → printed = complaint fault) :
      Shown order (.error fault) (.finished 1 "" printed)
  | raised {fault : Fault} (unblamed : fault.isRejection = false) : Shown order (.error fault) (.failed fault)

theorem finish_shown {console : Console} (conforms : Conforms console) (order : Order) (result : Except Fault String) :
    Shown order result (console.conclude (order.finish result)) := by
  cases result with
  | ok source =>
    unfold Order.finish
    dsimp only
    split
    next asked =>
      obtain ⟨printed, same, plain⟩ := conforms.shows source false
      rw [same]
      apply Shown.made
      rw [answer, asked]
      exact plain
    next directory asked =>
      obtain ⟨printed, same, plain⟩ := conforms.shows _ true
      rw [same]
      apply Shown.made
      rw [answer, asked]
      exact fun whole => plain whole.start
  | error fault =>
    unfold Order.finish
    dsimp only
    split
    next blamed =>
      obtain ⟨printed, same, plain⟩ := conforms.refuses _
      rw [same]
      apply Shown.rejected blamed
      intro visible
      exact plain (Unescaped.append (by decide) visible)
    next unblamed =>
      rw [Bool.not_eq_true] at unblamed
      rw [conforms.raises fault unblamed]
      exact .raised unblamed

/-! ### Flags -/

private def loud (settled : Flags) : Flags := { settled with verbose := true }

private theorem add?_verbose (verbose : IsVerbose argument) : settled.add? argument = some (loud settled) := by
  obtain rfl | ⟨count, spelled⟩ := verbose
  · rfl
  have short (other : String) (long : ['-', '-'] <+: other.toList) : argument ≠ other := by
    rintro rfl
    obtain ⟨tail, same⟩ := long
    rw [spelled, List.replicate_succ] at same
    simp at same
  unfold Flags.add?
  rw [if_neg (short _ (by decide)), if_neg (short _ (by decide)), spelled]
  simp [loud]

private theorem readFlags_verbose (verbose : IsVerbose argument) :
    readFlags settled (argument :: rest) = readFlags (loud settled) rest := by
  have other : argument ≠ "--" := by
    rintro rfl
    obtain impossible | ⟨count, spelled⟩ := verbose
    · revert impossible
      decide
    · rw [List.replicate_succ] at spelled
      simp at spelled
  have option : isOption argument = true := by
    obtain rfl | ⟨count, spelled⟩ := verbose
    · decide
    · simp [isOption, spelled, List.replicate_succ]
  rw [readFlags, if_neg other, if_pos option, add?_verbose verbose]

private theorem add?_loud (settled : Flags) (argument : String) :
    (loud settled).add? argument = (settled.add? argument).map loud := by
  unfold Flags.add?
  split
  · rfl
  split
  · rfl
  split
  · split <;> rfl
  · rfl

private theorem readFlags_loud (settled : Flags) (words : List String) :
    readFlags (loud settled) words = (readFlags settled words).map fun read => (loud read.1, read.2) := by
  induction words generalizing settled with
  | nil => rfl
  | cons argument rest ih =>
    rw [readFlags, readFlags, add?_loud]
    split
    · rfl
    split
    · cases settled.add? argument with
      | none => rfl
      | some next => exact ih next
    · rfl

private theorem readFlags_flags (asked : flags ≠ []) (verbose : ∀ flag ∈ flags, IsVerbose flag) :
    readFlags settled (flags ++ words) = (readFlags settled words).map fun read => (loud read.1, read.2) := by
  induction flags generalizing settled with
  | nil => exact absurd rfl asked
  | cons flag others ih =>
    obtain ⟨first, verbose⟩ := List.forall_mem_cons.mp verbose
    rw [List.cons_append, readFlags_verbose first]
    cases others with
    | nil => exact readFlags_loud settled words
    | cons next others =>
      rw [ih (by simp) verbose, readFlags_loud, Option.map_map]
      rfl

/-! ### Requests -/

variable {order : Order}

/-- What the subcommand asks for does not hang on how loud the run is. -/
private theorem ofSubcommand_loud {quiet : Bool} (asks : Request.ofSubcommand files quiet words = .generate false order) :
    quiet = false ∧ Request.ofSubcommand files true words = .generate true order := by
  unfold Request.ofSubcommand at asks ⊢
  split at asks
  · cases asks
  · cases asks
  next =>
    cases asks
    exact ⟨rfl, rfl⟩

private theorem ofArguments_loud (asked : flags ≠ []) (verbose : ∀ flag ∈ flags, IsVerbose flag)
    (asks : Request.ofArguments files words = .generate false order) :
    Request.ofArguments files (flags ++ words) = .generate true order := by
  rw [Request.ofArguments, readFlags_flags asked verbose]
  unfold Request.ofArguments at asks
  split at asks
  · cases asks
  next settled rest read =>
    rw [read]
    dsimp only [Option.map_some, loud]
    split at asks
    · cases asks
    next unversioned =>
      rw [if_neg unversioned]
      split at asks
      · exact (ofSubcommand_loud asks).2
      · cases asks

/-- Arguments that pass one check after the other, with no flag in front of the subcommand. -/
theorem standard_read {given : Given} (unflagged : readFlags {} words = some ({}, "introduce-parameter-object" :: rest))
    (read : Given.read rest = some given) (settled : Order.ofGiven files given = .ok order) :
    Console.standard.read files words = .generate false order := by
  change Request.ofArguments files words = _
  rw [Request.ofArguments, unflagged]
  change Request.ofSubcommand files false rest = _
  rw [Request.ofSubcommand, read, Option.map_some, settled]

theorem standard_conforms : Conforms .standard where
  shows text newline := by
    refine ⟨_, rfl, ?_⟩
    intro plain
    cases newline with
    | false => exact printable_eq_self plain
    | true => exact printable_eq_self (plain.append (by decide))
  refuses message := by
    refine ⟨_, rfl, ?_⟩
    intro plain
    exact printable_eq_self (Unescaped.append (Unescaped.append (by decide) plain) (by decide))
  raises _ _ := rfl
  louder _ _ _ _ asked verbose asks := ofArguments_loud asked verbose asks

end ParamBundle.Proofs.ConsoleLaws
