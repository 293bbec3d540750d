import ParamBundle.Descriptor.File
import ParamBundle.Proofs.DescriptorSchema
import ParamBundle.Proofs.NestedText
import ParamBundle.Proofs.Utf8Codec

/-! Descriptors that are loaded from files. A file that is missing, that is no JSON or that
is no descriptor is blamed on the configuration or on a parameter. Bytes that are no text,
integers that are too long, brackets that are too deep and the refusals of the machine are
found by the layers below and pass through unblamed. -/

namespace ParamBundle.Proofs.DescriptorFiles
open DescriptorSchema NestedText ReaderProgress Text Utf8Codec WrittenJson

variable {host : Host} {files : FileSystem} {path : FilePath} {bytes : List UInt8} {content : String}
  {digits room : Nat} {answer : Except Fault Descriptor}

/-- A descriptor, or a fault of the configuration or of a parameter. -/
def Documented (answer : Except Fault Descriptor) : Prop :=
  (∃ descriptor, answer = .ok descriptor) ∨ (∃ cause, answer = .error (.configuration cause)) ∨
    ∃ name cause, answer = .error (.malformed name cause)

/-- The content as its readers see it, each line closed by a line feed. -/
def withLineFeeds (content : String) : String := String.ofList (normalizeNewlines content.toList)

def Reads (host : Host) (files : FileSystem) (path : FilePath) (bytes : List UInt8) : Prop :=
  host.lookUp path = none ∧ files.content? path = some bytes ∧ host.read path = none

/-- How loading ends, layer by layer. -/
inductive Loads (host : Host) (files : FileSystem) (path : FilePath) : Except Fault Descriptor → Prop where
  | hidden {cause : Refusal} (refused : host.lookUp path = some cause) :
      Loads host files path (.error (.refused cause path.toString))
  | missing (seen : host.lookUp path = none) (absent : files.content? path = none) :
      Loads host files path (.error (.configuration (.noDescriptorFile path.toString)))
  | unread {bytes : List UInt8} {cause : Refusal} (seen : host.lookUp path = none)
      (found : files.content? path = some bytes) (refused : host.read path = some cause) :
      Loads host files path (.error (.refused cause path.toString))
  | undecodable {bytes : List UInt8} {cause : Utf8Fault} (reads : Reads host files path bytes)
      (noText : ¬ IsUtf8 bytes) : Loads host files path (.error (.undecodable cause))
  | outgrown {content activity : String} (reads : Reads host files path (encodeUtf8 content))
      (deep : host.outgrown (withLineFeeds content) = some activity) :
      Loads host files path (.error (.tooDeep activity))
  | oversized {content : String} {digits : Nat} (reads : Reads host files path (encodeUtf8 content))
      (fits : host.outgrown (withLineFeeds content) = none)
      (stopped : Json.read (withLineFeeds content) = .error (.oversized digits)) :
      Loads host files path (.error (.oversizedInteger digits))
  | invalid {content : String} {flaw : Json.Flaw} {position : Json.Position}
      (reads : Reads host files path (encodeUtf8 content)) (fits : host.outgrown (withLineFeeds content) = none)
      (flawed : Json.read (withLineFeeds content) = .error (.flawed flaw position)) :
      Loads host files path (.error (.configuration (.invalidJson path.toString flaw position)))
  | decided {content : String} {value : Json} {answer : Except Fault Descriptor}
      (reads : Reads host files path (encodeUtf8 content)) (fits : host.outgrown (withLineFeeds content) = none)
      (read : Json.read (withLineFeeds content) = .ok value) (decides : Decides answer (IsDescriptor value)) :
      Loads host files path answer

/-- The bytes are those of a text that has room and in which no integer is too long to be read. -/
def Readable (host : Host) (bytes : List UInt8) : Prop :=
  ∃ content, bytes = encodeUtf8 content ∧ host.outgrown (withLineFeeds content) = none ∧
    ∀ digits, Json.read (withLineFeeds content) ≠ .error (.oversized digits)

def Manageable (host : Host) (files : FileSystem) (path : FilePath) : Prop :=
  host.lookUp path = none ∧
    ∀ bytes, files.content? path = some bytes → host.read path = none ∧ Readable host bytes

private theorem ofText_loads (reads : Reads host files path (encodeUtf8 content)) :
    Loads host files path (Descriptor.ofText host path.toString (withLineFeeds content)) := by
  unfold Descriptor.ofText
  split
  next deep => exact .outgrown reads deep
  next fits =>
    unfold Descriptor.parse
    split
    next value read => exact .decided reads fits read (descriptor_decides _ value)
    next flawed => exact .invalid reads fits flawed
    next stopped => exact .oversized reads fits stopped

theorem loadOn_loads (host : Host) (files : FileSystem) (path : FilePath) :
    Loads host files path (Descriptor.loadOn host files path) := by
  unfold Descriptor.loadOn
  split
  next refused => exact .hidden refused
  next seen =>
    split
    next absent => exact .missing seen absent
    next bytes found =>
      split
      next refused => exact .unread seen found refused
      next opened =>
        unfold Descriptor.ofBytes
        split
        next chars decoded =>
          rw [isUtf8_of_decode decoded] at found
          have read := ofText_loads ⟨seen, found, opened⟩
          rwa [withLineFeeds, String.toList_ofList] at read
        next refused => exact .undecodable ⟨seen, found, opened⟩ (not_isUtf8_of_decode refused)

theorem encodeUtf8_inj {other : String} (same : encodeUtf8 content = encodeUtf8 other) : content = other := by
  have read := decode_encodeUtf8 content
  rw [same, decode_encodeUtf8] at read
  exact String.toList_injective (Except.ok.inj read).symm

theorem documented_of_decides {allowed : Prop} (decides : Decides answer allowed) : Documented answer := by
  by_cases holds : allowed
  · exact Or.inl (decides.accepts holds)
  · exact Or.inr (decides.refuses holds)

private theorem Reads.manageable_iff (reads : Reads host files path bytes) :
    Manageable host files path ↔ Readable host bytes := by
  obtain ⟨seen, found, opened⟩ := reads
  simp [Manageable, seen, found, opened]

private theorem readable_iff : Readable host (encodeUtf8 content) ↔ host.outgrown (withLineFeeds content) = none ∧
    ∀ digits, Json.read (withLineFeeds content) ≠ .error (.oversized digits) := by
  constructor
  · intro ⟨other, written, readable⟩
    cases encodeUtf8_inj written
    exact readable
  · intro readable
    exact ⟨content, rfl, readable⟩

theorem Loads.documented_iff (loads : Loads host files path answer) :
    Documented answer ↔ Manageable host files path := by
  cases loads with
  | hidden refused => simp [Documented, Manageable, refused]
  | missing seen absent => simp [Documented, Manageable, seen, absent]
  | unread seen found refused => simp [Documented, Manageable, seen, found, refused]
  | undecodable reads noText =>
    have unreadable : ¬ Readable host _ := fun ⟨content, written, _⟩ => noText ⟨content, written⟩
    simp [Documented, reads.manageable_iff, unreadable]
  | outgrown reads deep => simp [Documented, reads.manageable_iff, readable_iff, deep]
  | oversized reads fits stopped => simp [Documented, reads.manageable_iff, readable_iff, stopped]
  | invalid reads fits flawed => simp [Documented, reads.manageable_iff, readable_iff, fits, flawed]
  | decided reads fits read decides =>
    simp [documented_of_decides decides, reads.manageable_iff, readable_iff, fits, read]

/-! ### Rows of digits and line feeds -/

private theorem starts_of_normalizeNewlines {row text : List Char} (digits : ∀ c ∈ row, Json.isDigit c = true)
    (starts : row <+: normalizeNewlines text) : row <+: text := by
  fun_induction normalizeNewlines text generalizing row with
  | case1 | case2 =>
    -- no digit is a line feed
    cases row with
    | nil => exact List.nil_prefix
    | cons digit row =>
      obtain ⟨rfl, -⟩ := List.cons_prefix_cons.mp starts
      exact absurd (digits _ List.mem_cons_self) (by decide)
  | case3 c rest _ _ ih =>
    cases row with
    | nil => exact List.nil_prefix
    | cons digit row =>
      obtain ⟨rfl, further⟩ := List.cons_prefix_cons.mp starts
      exact List.cons_prefix_cons.mpr ⟨rfl, ih (List.forall_mem_cons.mp digits).2 further⟩
  | case4 => exact starts

private theorem within_of_normalizeNewlines {row text : List Char} (digits : ∀ c ∈ row, Json.isDigit c = true)
    (within : row <:+: normalizeNewlines text) : row <:+: text := by
  have first {text : List Char} (starts : row <+: normalizeNewlines text) : row <:+: text :=
    (starts_of_normalizeNewlines digits starts).isInfix
  fun_induction normalizeNewlines text with
  | case1 rest ih =>
    rcases List.infix_cons_iff.mp within with starts | later
    · exact first (by rwa [normalizeNewlines])
    · exact (ih later).trans ⟨['\r', '\n'], [], by simp⟩
  | case2 rest single ih =>
    rcases List.infix_cons_iff.mp within with starts | later
    · exact first (by rw [normalizeNewlines] <;> assumption)
    · exact (ih later).trans (List.infix_cons (List.infix_refl _))
  | case3 c rest _ _ ih =>
    rcases List.infix_cons_iff.mp within with starts | later
    · exact first (by rw [normalizeNewlines] <;> assumption)
    · exact (ih later).trans (List.infix_cons (List.infix_refl _))
  | case4 => exact within

theorem brackets_normalizeNewlines (text : List Char) : brackets (normalizeNewlines text) = brackets text := by
  fun_induction normalizeNewlines text with
  | case1 rest ih => simpa [brackets, opens] using ih
  | case2 rest single ih => simpa [brackets, opens] using ih
  | case3 c rest _ _ ih =>
    rw [brackets] at ih
    simp only [brackets, List.countP_cons, ih]
  | case4 => rfl

def HasRoom (host : Host) (room : Nat) : Prop :=
  ∀ text : String, brackets text.toList ≤ room → host.outgrown text = none

theorem limited_hasRoom (room : Nat) : HasRoom (.limited room) room := by
  intro text few
  simp only [Host.limited, overreach?_of_few few, Option.map_none]

/-- Where no row of digits is too long and brackets are few, every text can be read. -/
theorem readable_of_simple (roomy : HasRoom host room) (few : brackets content.toList ≤ room)
    (short : ∀ digits, ¬ HoldsDigits content.toList digits) : Readable host (encodeUtf8 content) := by
  refine ⟨content, rfl, ?_, ?_⟩
  · apply roomy
    rwa [withLineFeeds, String.toList_ofList, brackets_normalizeNewlines]
  · intro digits stopped
    obtain ⟨many, row, within, length, each⟩ := read_oversized stopped
    rw [withLineFeeds, String.toList_ofList] at within
    exact short digits ⟨many, row, within_of_normalizeNewlines each within, length, each⟩

/-- Loading keeps to its documented faults exactly when the machine lets the path be looked
up and there is no file, or one that it lets be read and whose bytes are a text with room and
without oversized integers. A text with few brackets and short rows of digits is such a text. -/
theorem loading_is_documented_iff (host : Host) (files : FileSystem) (path : FilePath) :
    Loads host files path (Descriptor.loadOn host files path) ∧
    (Documented (Descriptor.loadOn host files path) ↔ host.lookUp path = none ∧
      ∀ bytes, files.content? path = some bytes → host.read path = none ∧ Readable host bytes) ∧
    ∀ room content, Reads host files path (encodeUtf8 content) → HasRoom host room →
      brackets content.toList ≤ room → (∀ digits, ¬ HoldsDigits content.toList digits) →
      Documented (Descriptor.loadOn host files path) := by
  have loads := loadOn_loads host files path
  refine ⟨loads, loads.documented_iff, ?_⟩
  intro room content reads roomy few short
  exact loads.documented_iff.mpr (reads.manageable_iff.mpr (readable_of_simple roomy few short))

theorem normalizeNewlines_eq_self {text : List Char} (plain : '\r' ∉ text) : normalizeNewlines text = text := by
  fun_induction normalizeNewlines text with
  | case1 | case2 => simp at plain
  | case3 c rest _ _ ih => rw [ih (List.not_mem_of_not_mem_cons plain)]
  | case4 => rfl

/-- More ones than the limit are an integer that is not read. -/
theorem ones_oversized (many : Json.integerDigitLimit < digits) :
    Json.read (withLineFeeds (String.ofList (List.replicate digits '1'))) = .error (.oversized digits) := by
  obtain ⟨more, rfl⟩ : ∃ more, digits = more + 1 := Nat.exists_eq_succ_of_ne_zero (by omega)
  have same : withLineFeeds (String.ofList (List.replicate (more + 1) '1')) =
      String.ofList ('1' :: List.replicate more '1') := by
    rw [withLineFeeds, String.toList_ofList, normalizeNewlines_eq_self (by simp [List.mem_replicate]), List.replicate_succ]
  have row : Json.integerDigits? ('1' :: List.replicate more '1') = some ('1' :: List.replicate more '1', []) := by
    change some (('1' :: List.replicate more '1').span Json.isDigit) = _
    rw [← List.replicate_succ, List.span_eq_takeWhile_dropWhile]
    simp [Json.isDigit]
  have number : Json.unsignedNumber false ('1' :: List.replicate more '1') ('1' :: List.replicate more '1') =
      .error (.oversized (more + 1)) := by
    have noFraction : Json.fraction? [] = none := rfl
    have noExponent : Json.exponent? [] = none := rfl
    simp only [Json.unsignedNumber, row, noFraction, noExponent, Option.map_none, Option.getD_none,
      List.length_cons, List.length_replicate]
    exact if_pos many
  have word : Json.word? ('1' :: List.replicate more '1') = none := rfl
  have scalar : Json.scalar ('1' :: List.replicate more '1') = .error (.oversized (more + 1)) := by
    unfold Json.scalar
    rw [word]
    exact number
  have value (fuel : Nat) : Json.value (fuel + 1) ('1' :: List.replicate more '1') = .error (.oversized (more + 1)) := by
    rw [Json.value] <;> simp [scalar]
  have document : Json.document ('1' :: List.replicate more '1') = .error (.oversized (more + 1)) := by
    rw [Json.document]
    · have visible : Json.skipSpace ('1' :: List.replicate more '1') = '1' :: List.replicate more '1' := rfl
      rw [visible, value]
    · simp
  rw [same, Json.read, String.toList_ofList, document]

/-- A single byte that begins no character. -/
theorem stray_byte_is_not_documented :
    let files : FileSystem := { entries := [(["d.json"], .file [0xff])], workingDirectory := [] }
    Descriptor.load files (.ofString "d.json") = .error (.undecodable ⟨0, 1, 0xff, .invalidStart⟩) ∧
      ¬ Documented (Descriptor.load files (.ofString "d.json")) := by
  intro files
  have refused : Descriptor.load files (.ofString "d.json") = .error (.undecodable ⟨0, 1, 0xff, .invalidStart⟩) := rfl
  refine ⟨refused, ?_⟩
  rw [refused]
  simp [Documented]

/-- However much room there is, a row of opening brackets outgrows it. -/
theorem row_of_brackets_is_not_documented
    (reads : Reads (.limited room) files path (encodeUtf8 (String.ofList (List.replicate (room + 1) '[')))) :
    Descriptor.loadOn (.limited room) files path = .error (.tooDeep (Json.Bracket.activity .list)) ∧
      ¬ Documented (Descriptor.loadOn (.limited room) files path) := by
  obtain ⟨seen, found, opened⟩ := reads
  have kept : normalizeNewlines (List.replicate (room + 1) '[') = List.replicate (room + 1) '[' :=
    normalizeNewlines_eq_self (by simp [List.mem_replicate])
  have deep : (Host.limited room).outgrown (String.ofList (List.replicate (room + 1) '[')) =
      some (Json.Bracket.activity .list) := by
    have row := overreach?_row room []
    rw [List.append_nil] at row
    simp only [Host.limited, String.toList_ofList, row, Option.map_some]
  have stopped : Descriptor.loadOn (.limited room) files path = .error (.tooDeep (Json.Bracket.activity .list)) := by
    simp only [Descriptor.loadOn, seen, found, opened, Descriptor.ofBytes, decode_encodeUtf8, String.toList_ofList,
      kept, Descriptor.ofText, deep]
  refine ⟨stopped, ?_⟩
  rw [stopped]
  simp [Documented]

/-- Among the values that are written out, just those nested past the room break the contract. -/
theorem written_is_documented_iff {value : Json} (plain : Plain value)
    (reads : Reads (.limited room) files path (encodeUtf8 (String.ofList (write value)))) :
    Documented (Descriptor.loadOn (.limited room) files path) ↔ depth value ≤ room := by
  have kept : withLineFeeds (String.ofList (write value)) = String.ofList (write value) := by
    rw [withLineFeeds, String.toList_ofList, normalizeNewlines_eq_self (carriageReturn_not_mem_write plain)]
  have fits : (Host.limited room).outgrown (String.ofList (write value)) = none ↔ depth value ≤ room := by
    rw [← overreach?_write plain]
    simp only [Host.limited, String.toList_ofList, Option.map_eq_none_iff]
  rw [(loadOn_loads _ files path).documented_iff, reads.manageable_iff, readable_iff, kept, fits]
  exact and_iff_left (by simp [read_write plain])

end ParamBundle.Proofs.DescriptorFiles
