import ParamBundle.Text.Utf8
import Mathlib.Data.List.Basic

/-! UTF-8 read and written. The reader takes one byte at a time, so the proof first says what
it makes of a whole sequence, and then that the sequences it takes are those of the
characters. Bytes can be read exactly when they were written. -/

namespace ParamBundle.Proofs.Utf8Codec
open Text

variable {offset : Nat} {begun : Utf8Sequence} {next lead : UInt8} {tails bytes rest : List UInt8} {chars : List Char}

/-! ### One byte -/

def Takes (begun : Utf8Sequence) (next : UInt8) : Prop := begun.low ≤ next.toNat ∧ next.toNat ≤ begun.high

def taken (begun : Utf8Sequence) (next : UInt8) : Utf8Sequence :=
  { begun with
    length := begun.length + 1, missing := begun.missing - 1, low := 0x80, high := 0xbf
    bits := begun.bits * 64 + (next.toNat - 0x80) }

private theorem decode_last (takes : Takes begun next) (missing : begun.missing = 1) :
    decodeUtf8From offset (some begun) (next :: rest) =
      (Char.ofNat (taken begun next).bits :: ·) <$> decodeUtf8From (offset + 1) none rest := by
  rw [decodeUtf8From]
  exact (if_pos takes).trans (if_pos missing)

private theorem decode_next (takes : Takes begun next) (missing : begun.missing ≠ 1) :
    decodeUtf8From offset (some begun) (next :: rest) = decodeUtf8From (offset + 1) (some (taken begun next)) rest := by
  rw [decodeUtf8From]
  exact (if_pos takes).trans (if_neg missing)

/-- A sequence stops at a byte that it cannot take, and at the end of the text. -/
theorem takes_of_decode (read : decodeUtf8From offset (some begun) bytes = .ok chars) :
    ∃ next rest, bytes = next :: rest ∧ Takes begun next := by
  cases bytes with
  | nil => cases read
  | cons next rest =>
    rw [decodeUtf8From] at read
    split at read
    next takes => exact ⟨next, rest, rfl, takes⟩
    · cases read

/-! ### Whole sequences -/

def IsTail (byte : UInt8) : Prop := 0x80 ≤ byte.toNat ∧ byte.toNat ≤ 0xbf

def gathered (bits : Nat) (bytes : List UInt8) : Nat := bytes.foldl (fun bits byte => bits * 64 + (byte.toNat - 0x80)) bits

/-- The bytes that a begun sequence still takes: the next one within its own bounds, then
tails until none is missing. -/
structure Completes (begun : Utf8Sequence) (next : UInt8) (tails : List UInt8) : Prop where
  takes : Takes begun next
  further : ∀ byte ∈ tails, IsTail byte
  missing : begun.missing = tails.length + 1

private theorem decode_completed (completes : Completes begun next tails) :
    decodeUtf8From offset (some begun) (next :: tails ++ rest) =
      (Char.ofNat (gathered begun.bits (next :: tails)) :: ·) <$> decodeUtf8From (offset + 1 + tails.length) none rest := by
  induction tails generalizing offset begun next with
  | nil => exact decode_last completes.takes completes.missing
  | cons byte tails ih =>
    obtain ⟨here, others⟩ := List.forall_mem_cons.mp completes.further
    have missing : begun.missing = tails.length + 1 + 1 := completes.missing
    have goes : Completes (taken begun next) byte tails := ⟨here, others, by simp [taken, missing]⟩
    have code : gathered (taken begun next).bits (byte :: tails) = gathered begun.bits (next :: byte :: tails) := by
      simp only [gathered, List.foldl_cons, taken]
    have places : offset + 1 + 1 + tails.length = offset + 1 + (byte :: tails).length := by
      rw [List.length_cons]
      omega
    rw [List.cons_append, decode_next completes.takes (by omega), ← places, ← code]
    exact ih goes

/-- A sequence that is read to its end is complete. -/
theorem completes_of_decode {count : Nat} (missing : begun.missing = count + 1)
    (read : decodeUtf8From offset (some begun) bytes = .ok chars) :
    ∃ next tails rest, bytes = next :: tails ++ rest ∧ Completes begun next tails := by
  induction count generalizing offset begun bytes with
  | zero =>
    obtain ⟨next, rest, rfl, takes⟩ := takes_of_decode read
    exact ⟨next, [], rest, rfl, takes, by simp, missing⟩
  | succ count ih =>
    obtain ⟨next, rest, rfl, takes⟩ := takes_of_decode read
    rw [decode_next takes (by omega)] at read
    obtain ⟨byte, tails, rest, rfl, completes⟩ := ih (by simp [taken, missing]) read
    refine ⟨next, byte :: tails, rest, rfl, takes, ?_, ?_⟩
    · exact List.forall_mem_cons.mpr ⟨completes.takes, completes.further⟩
    · have count : (taken begun next).missing = tails.length + 1 := completes.missing
      simp only [taken, missing] at count
      rw [missing, List.length_cons]
      omega

/-! ### Characters -/

theorem toNat_ofNat {code : Nat} (valid : code < 0xd800 ∨ 0xdfff < code ∧ code < 0x110000) :
    (Char.ofNat code).toNat = code := by
  have isValid : code.isValidChar := valid
  rw [Char.ofNat, dif_pos isValid]
  rfl

private theorem byte_eq {code : Nat} {byte : UInt8} (same : code = byte.toNat) : UInt8.ofNat code = byte := by
  rw [same, UInt8.ofNat_toNat]

private theorem toNat_byte (code : Nat) (small : code < 256) : (UInt8.ofNat code).toNat = code := UInt8.toNat_ofNat_of_lt small

/-- How long a sequence is shows in its lead alone. -/
inductive Leads (offset : Nat) (lead : UInt8) : Utf8Sequence → Prop where
  | two (low : 0xc2 ≤ lead.toNat) (high : lead.toNat ≤ 0xdf) :
      Leads offset lead ⟨offset, 1, lead, 1, 0x80, 0xbf, lead.toNat - 0xc0⟩
  | three (low : 0xe0 ≤ lead.toNat) (high : lead.toNat ≤ 0xef) :
      Leads offset lead ⟨offset, 1, lead, 2, if lead.toNat = 0xe0 then 0xa0 else 0x80,
        if lead.toNat = 0xed then 0x9f else 0xbf, lead.toNat - 0xe0⟩
  | four (low : 0xf0 ≤ lead.toNat) (high : lead.toNat ≤ 0xf4) :
      Leads offset lead ⟨offset, 1, lead, 3, if lead.toNat = 0xf0 then 0x90 else 0x80,
        if lead.toNat = 0xf4 then 0x8f else 0xbf, lead.toNat - 0xf0⟩

theorem start?_eq_some_iff : Utf8Sequence.start? offset lead = some begun ↔ Leads offset lead begun := by
  unfold Utf8Sequence.start?
  constructor
  · intro found
    dsimp only at found
    split at found
    · cases found
    · split at found
      · cases found
        exact .two (by omega) (by omega)
      · split at found
        · cases found
          exact .three (by omega) (by omega)
        · split at found
          · cases found
            exact .four (by omega) (by omega)
          · cases found
  · intro leads
    cases leads with
    | two low high => rw [if_neg (by omega), if_pos (by omega)]
    | three low high => rw [if_neg (by omega), if_neg (by omega), if_pos (by omega)]
    | four low high => rw [if_neg (by omega), if_neg (by omega), if_neg (by omega), if_pos (by omega)]

/-- The bounds on the byte after the lead keep out what has a shorter form, the surrogates
and what lies past the last character, so that writing the code gives the bytes again. -/
theorem encodeChar_gathered (leads : Leads offset lead begun) (completes : Completes begun next tails) :
    encodeChar (Char.ofNat (gathered begun.bits (next :: tails))) = lead :: next :: tails := by
  obtain ⟨⟨above, below⟩, further, missing⟩ := completes
  cases leads with
  | two low high =>
    obtain rfl : tails = [] := by simpa using missing
    dsimp only at above below
    change encodeChar (Char.ofNat ((lead.toNat - 0xc0) * 64 + (next.toNat - 0x80))) = _
    rw [encodeChar, toNat_ofNat (by omega), if_neg (by omega), if_pos (by omega), byte_eq, byte_eq]
    all_goals omega
  | three low high =>
    obtain ⟨last, rfl⟩ : ∃ last, tails = [last] := List.length_eq_one_iff.mp (by simpa using missing.symm)
    obtain ⟨lastAbove, lastBelow⟩ : IsTail last := further last List.mem_cons_self
    have bounds : 0x80 ≤ next.toNat ∧ next.toNat ≤ 0xbf ∧ (lead.toNat = 0xe0 → 0xa0 ≤ next.toNat) ∧
        (lead.toNat = 0xed → next.toNat ≤ 0x9f) := by
      dsimp only at above below
      grind
    change encodeChar (Char.ofNat
      (((lead.toNat - 0xe0) * 64 + (next.toNat - 0x80)) * 64 + (last.toNat - 0x80))) = _
    rw [encodeChar, toNat_ofNat (by omega), if_neg (by omega), if_neg (by omega), if_pos (by omega), byte_eq, byte_eq,
      byte_eq]
    all_goals omega
  | four low high =>
    obtain ⟨third, last, rfl⟩ : ∃ third last, tails = [third, last] := List.length_eq_two.mp (by simpa using missing.symm)
    obtain ⟨thirdAbove, thirdBelow⟩ : IsTail third := further third (by simp)
    obtain ⟨lastAbove, lastBelow⟩ : IsTail last := further last (by simp)
    have bounds : 0x80 ≤ next.toNat ∧ next.toNat ≤ 0xbf ∧ (lead.toNat = 0xf0 → 0x90 ≤ next.toNat) ∧
        (lead.toNat = 0xf4 → next.toNat ≤ 0x8f) := by
      dsimp only at above below
      grind
    change encodeChar (Char.ofNat ((((lead.toNat - 0xf0) * 64 + (next.toNat - 0x80)) * 64 + (third.toNat - 0x80)) * 64 +
      (last.toNat - 0x80))) = _
    rw [encodeChar, toNat_ofNat (by omega), if_neg (by omega), if_neg (by omega), if_neg (by omega), byte_eq, byte_eq,
      byte_eq, byte_eq]
    all_goals omega

/-- The bytes of a character past the first 128: a lead, the byte after it and tails. -/
structure Sequence (offset : Nat) (c : Char) (lead : UInt8) (begun : Utf8Sequence) (next : UInt8)
    (tails : List UInt8) : Prop where
  written : encodeChar c = lead :: next :: tails
  leads : Leads offset lead begun
  completes : Completes begun next tails
  code : gathered begun.bits (next :: tails) = c.toNat

private theorem sequence_of_char (offset : Nat) {c : Char} (far : 0x80 ≤ c.toNat) :
    ∃ lead begun next tails, Sequence offset c lead begun next tails := by
  have valid : c.toNat < 0xd800 ∨ 0xdfff < c.toNat ∧ c.toNat < 0x110000 := c.valid
  -- the last byte of every sequence, and those before it in the longer ones
  have last := toNat_byte (0x80 + c.toNat % 64) (by omega)
  have third := toNat_byte (0x80 + c.toNat / 64 % 64) (by omega)
  have next := toNat_byte (0x80 + c.toNat / 4096 % 64) (by omega)
  by_cases two : c.toNat < 0x800
  · have lead := toNat_byte (0xc0 + c.toNat / 64) (by omega)
    have written : encodeChar c = [.ofNat (0xc0 + c.toNat / 64), .ofNat (0x80 + c.toNat % 64)] := by
      rw [encodeChar, if_neg (by omega), if_pos two]
    refine ⟨_, _, _, _, written, .two ?_ ?_, ⟨⟨?_, ?_⟩, ?_, rfl⟩, ?_⟩
    · omega
    · omega
    · dsimp only
      omega
    · dsimp only
      omega
    · simp
    · simp only [gathered, List.foldl_cons, List.foldl_nil]
      omega
  by_cases three : c.toNat < 0x10000
  · have lead := toNat_byte (0xe0 + c.toNat / 4096) (by omega)
    have written : encodeChar c = [.ofNat (0xe0 + c.toNat / 4096), .ofNat (0x80 + c.toNat / 64 % 64),
        .ofNat (0x80 + c.toNat % 64)] := by
      rw [encodeChar, if_neg (by omega), if_neg two, if_pos three]
    refine ⟨_, _, _, _, written, .three ?_ ?_, ⟨⟨?_, ?_⟩, ?_, rfl⟩, ?_⟩
    · omega
    · omega
    · dsimp only
      split <;> omega
    · dsimp only
      split <;> omega
    · simp only [List.forall_mem_singleton, IsTail]
      omega
    · simp only [gathered, List.foldl_cons, List.foldl_nil]
      omega
  · have lead := toNat_byte (0xf0 + c.toNat / 262144) (by omega)
    have written : encodeChar c = [.ofNat (0xf0 + c.toNat / 262144), .ofNat (0x80 + c.toNat / 4096 % 64),
        .ofNat (0x80 + c.toNat / 64 % 64), .ofNat (0x80 + c.toNat % 64)] := by
      rw [encodeChar, if_neg (by omega), if_neg two, if_neg three]
    refine ⟨_, _, _, _, written, .four ?_ ?_, ⟨⟨?_, ?_⟩, ?_, rfl⟩, ?_⟩
    · omega
    · omega
    · dsimp only
      split <;> omega
    · dsimp only
      split <;> omega
    · simp only [List.forall_mem_cons, IsTail]
      exact ⟨by omega, by omega, by simp⟩
    · simp only [gathered, List.foldl_cons, List.foldl_nil]
      omega

/-! ### Whole texts -/

private theorem decode_begun (leads : Leads offset lead begun) :
    decodeUtf8From offset none (lead :: rest) = decodeUtf8From (offset + 1) (some begun) rest := by
  have far : ¬lead.toNat < 0x80 := by
    cases leads <;> omega
  rw [decodeUtf8From, if_neg far, start?_eq_some_iff.mpr leads]

theorem decode_char (c : Char) :
    decodeUtf8From offset none (encodeChar c ++ rest) =
      (c :: ·) <$> decodeUtf8From (offset + (encodeChar c).length) none rest := by
  by_cases near : c.toNat < 0x80
  · have byte := toNat_byte c.toNat (by omega)
    have written : encodeChar c = [.ofNat c.toNat] := by rw [encodeChar, if_pos near]
    rw [written, List.singleton_append, decodeUtf8From, byte, if_pos near, Char.ofNat_toNat]
    rfl
  · obtain ⟨lead, begun, next, tails, sequence⟩ := sequence_of_char offset (Nat.le_of_not_lt near)
    have places : offset + 1 + 1 + tails.length = offset + (encodeChar c).length := by
      rw [sequence.written]
      simp only [List.length_cons]
      omega
    rw [← places, sequence.written, List.cons_append, decode_begun sequence.leads, decode_completed sequence.completes,
      sequence.code, Char.ofNat_toNat]

theorem decode_encoded (chars : List Char) : decodeUtf8From offset none (chars.flatMap encodeChar) = .ok chars := by
  induction chars generalizing offset with
  | nil => rfl
  | cons c chars ih =>
    rw [List.flatMap_cons, decode_char, ih]
    rfl

private theorem map_cons_ok {c : Char} {read : Except Utf8Fault (List Char)} (done : (c :: ·) <$> read = .ok chars) :
    ∃ others, chars = c :: others ∧ read = .ok others := by
  cases read with
  | error fault => cases done
  | ok others => exact ⟨others, (Except.ok.inj done).symm, rfl⟩

/-- Bytes that are read begin with a whole character. -/
theorem char_of_decode (read : decodeUtf8From offset none (lead :: bytes) = .ok chars) :
    ∃ c rest others after, lead :: bytes = encodeChar c ++ rest ∧ chars = c :: others ∧
      decodeUtf8From after none rest = .ok others := by
  by_cases near : lead.toNat < 0x80
  · have code : (Char.ofNat lead.toNat).toNat = lead.toNat := toNat_ofNat (by omega)
    have written : encodeChar (Char.ofNat lead.toNat) = [lead] := by
      rw [encodeChar, code, if_pos near, byte_eq rfl]
    rw [decodeUtf8From, if_pos near] at read
    obtain ⟨others, rfl, further⟩ := map_cons_ok read
    exact ⟨_, bytes, others, _, by rw [written, List.singleton_append], rfl, further⟩
  · cases started : Utf8Sequence.start? offset lead with
    | none =>
      rw [decodeUtf8From, if_neg near, started] at read
      cases read
    | some begun =>
      have leads := start?_eq_some_iff.mp started
      have missing : ∃ count, begun.missing = count + 1 := by
        cases leads <;> exact ⟨_, rfl⟩
      obtain ⟨count, missing⟩ := missing
      rw [decode_begun leads] at read
      obtain ⟨next, tails, rest, rfl, completes⟩ := completes_of_decode missing read
      rw [decode_completed completes] at read
      obtain ⟨others, rfl, further⟩ := map_cons_ok read
      exact ⟨_, rest, others, _, by rw [encodeChar_gathered leads completes]; rfl, rfl, further⟩

theorem encoded_of_decode (read : decodeUtf8From offset none bytes = .ok chars) : bytes = chars.flatMap encodeChar := by
  induction chars generalizing offset bytes with
  | nil =>
    cases bytes with
    | nil => rfl
    | cons lead bytes =>
      obtain ⟨c, rest, others, after, -, impossible, -⟩ := char_of_decode read
      cases impossible
  | cons c chars ih =>
    cases bytes with
    | nil => cases read
    | cons lead bytes =>
      obtain ⟨c, rest, others, after, written, same, further⟩ := char_of_decode read
      cases same
      rw [written, List.flatMap_cons, ih further]

theorem decode_ok_iff : decodeUtf8 bytes = .ok chars ↔ bytes = chars.flatMap encodeChar := by
  constructor
  · exact encoded_of_decode
  · intro written
    rw [written]
    exact decode_encoded chars

theorem decode_encodeUtf8 (text : String) : decodeUtf8 (encodeUtf8 text) = .ok text.toList := decode_encoded text.toList

def IsUtf8 (bytes : List UInt8) : Prop := ∃ text, bytes = encodeUtf8 text

theorem isUtf8_of_decode (read : decodeUtf8 bytes = .ok chars) : bytes = encodeUtf8 (String.ofList chars) := by
  rw [encodeUtf8, String.toList_ofList]
  exact decode_ok_iff.mp read

/-- Bytes that are no text are refused, wherever they go wrong. -/
theorem not_isUtf8_of_decode {fault : Utf8Fault} (refused : decodeUtf8 bytes = .error fault) : ¬ IsUtf8 bytes := by
  intro isText
  obtain ⟨text, rfl⟩ := isText
  rw [decode_encodeUtf8] at refused
  cases refused

end ParamBundle.Proofs.Utf8Codec
