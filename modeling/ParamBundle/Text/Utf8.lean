import ParamBundle.Text.Quoted

/-! UTF-8 over lists of bytes. Decoding reads one byte at a time and remembers the
sequence that has begun; a fault names the bytes of that sequence and what is wrong
with it. -/

namespace ParamBundle.Text

inductive Utf8Defect where
  | invalidStart
  | invalidContinuation
  | unfinished
deriving DecidableEq

structure Utf8Fault where
  offset : Nat
  /-- Number of bytes the faulty sequence had before it broke off. -/
  length : Nat
  lead : UInt8
  defect : Utf8Defect
deriving DecidableEq

def encodeChar (c : Char) : List UInt8 :=
  let code := c.toNat
  if code < 0x80 then [.ofNat code]
  else if code < 0x800 then [.ofNat (0xc0 + code / 64), .ofNat (0x80 + code % 64)]
  else if code < 0x10000 then
    [.ofNat (0xe0 + code / 4096), .ofNat (0x80 + code / 64 % 64), .ofNat (0x80 + code % 64)]
  else
    [.ofNat (0xf0 + code / 262144), .ofNat (0x80 + code / 4096 % 64),
      .ofNat (0x80 + code / 64 % 64), .ofNat (0x80 + code % 64)]

def encodeUtf8 (text : String) : List UInt8 := text.toList.flatMap encodeChar

/-- A sequence that has begun. The bounds on its next byte keep out overlong forms,
surrogates and codes past the last character; later bytes have the usual bounds. -/
structure Utf8Sequence where
  offset : Nat
  length : Nat
  lead : UInt8
  missing : Nat
  low : Nat
  high : Nat
  bits : Nat

def Utf8Sequence.start? (offset : Nat) (lead : UInt8) : Option Utf8Sequence :=
  let code := lead.toNat
  if code < 0xc2 then none
  else if code < 0xe0 then some ⟨offset, 1, lead, 1, 0x80, 0xbf, code - 0xc0⟩
  else if code < 0xf0 then
    some ⟨offset, 1, lead, 2, if code = 0xe0 then 0xa0 else 0x80,
      if code = 0xed then 0x9f else 0xbf, code - 0xe0⟩
  else if code < 0xf5 then
    some ⟨offset, 1, lead, 3, if code = 0xf0 then 0x90 else 0x80,
      if code = 0xf4 then 0x8f else 0xbf, code - 0xf0⟩
  else none

def Utf8Sequence.fault (sequence : Utf8Sequence) (defect : Utf8Defect) : Utf8Fault :=
  ⟨sequence.offset, sequence.length, sequence.lead, defect⟩

def decodeUtf8From (offset : Nat) : Option Utf8Sequence → List UInt8 → Except Utf8Fault (List Char)
  | none, [] => .ok []
  | some begun, [] => .error (begun.fault .unfinished)
  | none, byte :: rest =>
    if byte.toNat < 0x80 then
      (Char.ofNat byte.toNat :: ·) <$> decodeUtf8From (offset + 1) none rest
    else
      match Utf8Sequence.start? offset byte with
      | some begun => decodeUtf8From (offset + 1) (some begun) rest
      | none => .error ⟨offset, 1, byte, .invalidStart⟩
  | some begun, byte :: rest =>
    if begun.low ≤ byte.toNat ∧ byte.toNat ≤ begun.high then
      let bits := begun.bits * 64 + (byte.toNat - 0x80)
      if begun.missing = 1 then
        (Char.ofNat bits :: ·) <$> decodeUtf8From (offset + 1) none rest
      else
        decodeUtf8From (offset + 1) (some { begun with
          length := begun.length + 1, missing := begun.missing - 1
          low := 0x80, high := 0xbf, bits }) rest
    else .error (begun.fault .invalidContinuation)

def decodeUtf8 (bytes : List UInt8) : Except Utf8Fault (List Char) := decodeUtf8From 0 none bytes

def Utf8Defect.message : Utf8Defect → String
  | .invalidStart => "invalid start byte"
  | .invalidContinuation => "invalid continuation byte"
  | .unfinished => "unexpected end of data"

/-- One faulty byte is shown by value, several by their first and last offset. -/
def Utf8Fault.message (fault : Utf8Fault) : String :=
  let place :=
    if fault.length = 1 then
      let shown := String.ofList (hexadecimal 2 fault.lead.toNat)
      s!"byte 0x{shown} in position {fault.offset}"
    else s!"bytes in position {fault.offset}-{fault.offset + fault.length - 1}"
  s!"'utf-8' codec can't decode {place}: {fault.defect.message}"

end ParamBundle.Text
