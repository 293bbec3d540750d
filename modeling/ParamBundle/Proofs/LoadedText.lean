import ParamBundle.Proofs.LineEnds

/-! Descriptors that are loaded from text files. A file is parsed with line feeds only, whichever
system wrote it, while a text is parsed as it is given. Readers keep in step on the two, through
values of any depth, so they agree on every document and on what is wrong with a text. -/

namespace ParamBundle.Proofs.LoadedText
open DescriptorFiles Json LineEnds Text

variable {fuel : Nat}

/-! ### Values -/

structure AllMoved (fuel : Nat) : Prop where
  value : ∀ text, value fuel (normalizeNewlines text) = moved (value fuel text)
  items : ∀ text, items fuel (normalizeNewlines text) = moved (items fuel text)
  members : ∀ known text, members fuel known (normalizeNewlines text) = moved (members fuel known text)

private theorem value_moved (inner : AllMoved fuel) (text : List Char) :
    value (fuel + 1) (normalizeNewlines text) = moved (value (fuel + 1) text) := by
  have quote : WithinLine '"' := by simp [WithinLine]
  have bracket : WithinLine '[' := by simp [WithinLine]
  have brace : WithinLine '\x7b' := by simp [WithinLine]
  have closingBracket : WithinLine ']' := by simp [WithinLine]
  have closingBrace : WithinLine '\x7d' := by simp [WithinLine]
  -- what opens a value is no line end, so both texts begin with it
  conv_lhs => unfold value
  split
  next shape =>
    obtain ⟨rest, rfl, rfl⟩ := (normalizeNewlines_eq_cons_iff quote).mp shape
    rw [stringBody_moved, value]
    exact (moved_map _ fun chars => Json.string (String.ofList chars)).symm
  next shape =>
    obtain ⟨rest, rfl, rfl⟩ := (normalizeNewlines_eq_cons_iff bracket).mp shape
    rw [value, skipSpace_normalizeNewlines]
    generalize skipSpace rest = entered
    split
    next shape =>
      obtain ⟨rest, rfl, rfl⟩ := (normalizeNewlines_eq_cons_iff closingBracket).mp shape
      rfl
    next nonempty =>
      rw [inner.items]
      split
      next => exact (nonempty _ (normalizeNewlines_cons closingBracket.1)).elim
      next => exact (moved_map _ Json.array).symm
  next shape =>
    obtain ⟨rest, rfl, rfl⟩ := (normalizeNewlines_eq_cons_iff brace).mp shape
    rw [value, skipSpace_normalizeNewlines]
    generalize skipSpace rest = entered
    split
    next shape =>
      obtain ⟨rest, rfl, rfl⟩ := (normalizeNewlines_eq_cons_iff closingBrace).mp shape
      rfl
    next nonempty =>
      rw [inner.members]
      split
      next => exact (nonempty _ (normalizeNewlines_cons closingBrace.1)).elim
      next => exact (moved_map _ Json.object).symm
  next noText noList noObject =>
    rw [value, scalar_moved]
    · rintro rest rfl
      exact noText _ (normalizeNewlines_cons quote.1)
    · rintro rest rfl
      exact noList _ (normalizeNewlines_cons bracket.1)
    · rintro rest rfl
      exact noObject _ (normalizeNewlines_cons brace.1)

private theorem items_moved (inner : AllMoved fuel) (text : List Char) :
    items (fuel + 1) (normalizeNewlines text) = moved (items (fuel + 1) text) := by
  have comma : WithinLine ',' := by simp [WithinLine]
  have bracket : WithinLine ']' := by simp [WithinLine]
  unfold items
  rw [inner.value]
  cases value fuel text with
  | error stop => rfl
  | ok read =>
    obtain ⟨item, after⟩ := read
    simp only [moved_ok, skipSpace_normalizeNewlines]
    generalize skipSpace after = left
    split
    next shape =>
      obtain ⟨rest, rfl, rfl⟩ := (normalizeNewlines_eq_cons_iff comma).mp shape
      rw [skipSpace_normalizeNewlines, inner.items]
      exact (moved_map _ (item :: ·)).symm
    next shape =>
      obtain ⟨rest, rfl, rfl⟩ := (normalizeNewlines_eq_cons_iff bracket).mp shape
      rfl
    next more closed =>
      split
      next => exact (more _ (normalizeNewlines_cons comma.1)).elim
      next => exact (closed _ (normalizeNewlines_cons bracket.1)).elim
      next => rfl

def memberValue (fuel : Nat) (key : String) (known : List (String × Json)) (rest : List Char) :
    Reading (List (String × Json)) :=
  match value fuel (skipSpace rest) with
  | .error stop => .error stop
  | .ok (item, rest) =>
    match skipSpace rest with
    | ',' :: rest => members fuel (setMember key item known) (skipSpace rest)
    | '\x7d' :: rest => .ok (setMember key item known, rest)
    | rest => .error (.flawed .commaExpected rest)

private theorem memberValue_moved (inner : AllMoved fuel) (key : String) (known : List (String × Json)) (rest : List Char) :
    memberValue fuel key known (normalizeNewlines rest) = moved (memberValue fuel key known rest) := by
  have comma : WithinLine ',' := by simp [WithinLine]
  have brace : WithinLine '\x7d' := by simp [WithinLine]
  unfold memberValue
  rw [skipSpace_normalizeNewlines, inner.value]
  cases value fuel (skipSpace rest) with
  | error stop => rfl
  | ok read =>
    obtain ⟨item, after⟩ := read
    simp only [moved_ok, skipSpace_normalizeNewlines]
    generalize skipSpace after = left
    split
    next shape =>
      obtain ⟨rest, rfl, rfl⟩ := (normalizeNewlines_eq_cons_iff comma).mp shape
      rw [skipSpace_normalizeNewlines, inner.members]
      rfl
    next shape =>
      obtain ⟨rest, rfl, rfl⟩ := (normalizeNewlines_eq_cons_iff brace).mp shape
      rfl
    next more closed =>
      split
      next => exact (more _ (normalizeNewlines_cons comma.1)).elim
      next => exact (closed _ (normalizeNewlines_cons brace.1)).elim
      next => rfl

private theorem members_moved (inner : AllMoved fuel) (known : List (String × Json)) (text : List Char) :
    members (fuel + 1) known (normalizeNewlines text) = moved (members (fuel + 1) known text) := by
  have quote : WithinLine '"' := by simp [WithinLine]
  have colon : WithinLine ':' := by simp [WithinLine]
  conv_lhs => unfold members
  split
  next shape =>
    obtain ⟨rest, rfl, rfl⟩ := (normalizeNewlines_eq_cons_iff quote).mp shape
    rw [stringBody_moved, members]
    cases stringBody ('"' :: rest) rest with
    | error stop => rfl
    | ok read =>
      obtain ⟨key, after⟩ := read
      simp only [moved_ok, skipSpace_normalizeNewlines]
      generalize skipSpace after = left
      split
      next shape =>
        obtain ⟨rest, rfl, rfl⟩ := (normalizeNewlines_eq_cons_iff colon).mp shape
        exact memberValue_moved inner (String.ofList key) known rest
      next noColon =>
        split
        next => exact (noColon _ (normalizeNewlines_cons colon.1)).elim
        next => rfl
  next noKey =>
    rw [members]
    · rfl
    · rintro rest rfl
      exact noKey _ (normalizeNewlines_cons quote.1)

theorem all_moved (fuel : Nat) : AllMoved fuel := by
  induction fuel with
  | zero =>
    refine ⟨?_, ?_, ?_⟩
    · intro text
      rw [value, value]
      rfl
    · intro text
      rw [items, items]
      rfl
    · intro known text
      rw [members, members]
      rfl
  | succ fuel inner => exact ⟨value_moved inner, items_moved inner, members_moved inner⟩

/-! ### Documents -/

theorem document_moved (text : List Char) : document (normalizeNewlines text) = (document text).mapError movedStop := by
  have mark : WithinLine '\ufeff' := by simp [WithinLine]
  conv_lhs => unfold document
  split
  next shape =>
    obtain ⟨rest, rfl, rfl⟩ := (normalizeNewlines_eq_cons_iff mark).mp shape
    rw [document]
    rfl
  next unmarked =>
    rw [document]
    · -- the fuel counts no spaces, so it is the same for both texts
      rw [countP_normalizeNewlines, skipSpace_normalizeNewlines, (all_moved _).value]
      cases value (2 * text.countP (!isSpace ·) + 1) (skipSpace text) with
      | error stop => rfl
      | ok read =>
        obtain ⟨json, after⟩ := read
        simp only [moved_ok, skipSpace_normalizeNewlines]
        cases skipSpace after with
        | nil => rfl
        | cons c rest =>
          have trailing : normalizeNewlines (c :: rest) ≠ [] := mt normalizeNewlines_eq_nil_iff.mp (List.cons_ne_nil c rest)
          split
          next shape => exact absurd shape trailing
          next => rfl
    · rintro rest rfl
      exact unmarked _ (normalizeNewlines_cons mark.1)

/-- The line ends change no value and no flaw, only the position of a flaw. -/
theorem read_withLineFeeds (content : String) :
    Json.read (withLineFeeds content) = Json.read content ∨
      ∃ flaw there here, Json.read content = .error (.flawed flaw there) ∧
        Json.read (withLineFeeds content) = .error (.flawed flaw here) := by
  unfold Json.read
  rw [withLineFeeds, String.toList_ofList, document_moved]
  cases document content.toList with
  | ok json => exact Or.inl rfl
  | error stop =>
    cases stop with
    | flawed flaw rest => exact Or.inr ⟨flaw, _, _, rfl, rfl⟩
    | oversized digits => exact Or.inl rfl

/-- The source of a document is only named when the document is refused. -/
theorem ofJson_ok_iff {json : Json} {descriptor : Descriptor} (source other : String) :
    Descriptor.ofJson source json = .ok descriptor ↔ Descriptor.ofJson other json = .ok descriptor := by
  cases json with
  | object members =>
    simp only [Descriptor.ofJson, Descriptor.ofMembers]
    cases Json.optionalString? (members.lookup "package") with
    | none => simp
    | some packageName =>
      cases ((members.lookup "type_parameters").getD (.array [])).strings? with
      | none => simp
      | some typeParameters => cases (members.lookup "parameters").getD (.array []) <;> simp
  | _ => simp [Descriptor.ofJson]

theorem parse_ok_iff {source text : String} {descriptor : Descriptor} :
    Descriptor.parse source text = .ok descriptor ↔
      ∃ json, Json.read text = .ok json ∧ Descriptor.ofJson source json = .ok descriptor := by
  unfold Descriptor.parse
  cases Json.read text with
  | ok json => simp
  | error fault => cases fault <;> simp

/-- Loading a file of text gives a descriptor exactly when parsing the text gives it. When both
refuse the text they agree on why, though not on the place of a flaw. -/
theorem loading_agrees_with_parsing {files : FileSystem} {path : FilePath} {content : String}
    (held : files.content? path = some (encodeUtf8 content)) :
    (∀ source descriptor,
      Descriptor.load files path = .ok descriptor ↔ Descriptor.parse source content = .ok descriptor) ∧
    (Descriptor.load files path = Descriptor.parse path.toString content ∨
      ∃ flaw there here,
        Descriptor.parse path.toString content = .error (.configuration (.invalidJson path.toString flaw there)) ∧
        Descriptor.load files path = .error (.configuration (.invalidJson path.toString flaw here))) := by
  have loaded : Descriptor.load files path = Descriptor.parse path.toString (withLineFeeds content) := by
    rw [Descriptor.load_eq, held]
    simp only [Descriptor.ofBytes, Utf8Codec.decode_encodeUtf8]
    rfl
  have readings := read_withLineFeeds content
  constructor
  · intro source descriptor
    have values (json : Json) : Json.read (withLineFeeds content) = .ok json ↔ Json.read content = .ok json := by
      obtain same | ⟨flaw, there, here, before, after⟩ := readings
      · rw [same]
      · simp [before, after]
    rw [loaded, parse_ok_iff, parse_ok_iff]
    simp only [values, ofJson_ok_iff path.toString source]
  · rw [loaded]
    obtain same | ⟨flaw, there, here, before, after⟩ := readings
    · left
      rw [Descriptor.parse, Descriptor.parse, same]
    · right
      refine ⟨flaw, there, here, ?_, ?_⟩
      · rw [Descriptor.parse, before]
      · rw [Descriptor.parse, after]

/-- A document with line ends of three kinds, and what it is translated to. -/
theorem mixed_line_ends_are_loaded :
    let content := "\x7b\r\"package\"\r\n:\n\"geo\"\r\r\n\x7d\r"
    let files : FileSystem := { entries := [(["d.json"], .file (encodeUtf8 content))], workingDirectory := [] }
    let path := FilePath.ofString "d.json"
    files.content? path = some (encodeUtf8 content) ∧
      withLineFeeds content = "\x7b\n\"package\"\n:\n\"geo\"\n\n\x7d\n" ∧
      Descriptor.parse "<string>" content = .ok { packageName := "geo" } ∧
      Descriptor.load files path = .ok { packageName := "geo" } := by
  intro content files path
  have held : files.content? path = some (encodeUtf8 content) := rfl
  have parsed : Descriptor.parse "<string>" content = .ok { packageName := "geo" } := by decide +kernel
  have fed : withLineFeeds content = "\x7b\n\"package\"\n:\n\"geo\"\n\n\x7d\n" := by decide
  exact ⟨held, fed, parsed, ((loading_agrees_with_parsing held).1 _ _).mpr parsed⟩

/-- Within a string a line end is a flaw, translated or not. -/
example : Descriptor.parse "d" "\"a\r\nb\"" = .error (.configuration (.invalidJson "d" .controlCharacter ⟨1, 3, 2⟩)) ∧
    Descriptor.parse "d" (withLineFeeds "\"a\r\nb\"") =
      .error (.configuration (.invalidJson "d" .controlCharacter ⟨1, 3, 2⟩)) := by
  constructor <;> decide +kernel

end ParamBundle.Proofs.LoadedText
