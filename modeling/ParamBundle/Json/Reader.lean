import ParamBundle.Json.NumberLiteral
import ParamBundle.Json.StringLiteral
import ParamBundle.Text.Basic

/-! Values, lists, objects and whole documents. -/

namespace ParamBundle.Json

/-- The words that stand for a value. -/
def words : List (String × Json) :=
  [("null", .null), ("true", .bool true), ("false", .bool false), ("NaN", .number .undefined),
    ("Infinity", .number (.infinite false)), ("-Infinity", .number (.infinite true))]

def word? (text : List Char) : Option (Json × List Char) :=
  words.findSome? fun (word, value) => (Text.dropStart? word.toList text).map (value, ·)

def scalar (text : List Char) : Reading Json :=
  match word? text with
  | some read => .ok read
  | none =>
    match text with
    | '-' :: rest => unsignedNumber true text rest
    | _ => unsignedNumber false text text

mutual

/-- A value that begins right here. Each level of nesting and each further item takes one
from the fuel, which the caller chooses so large that it cannot run out. -/
def value : Nat → List Char → Reading Json
  | 0, text => .error (.flawed .valueExpected text)
  | fuel + 1, text =>
    match text with
    | '"' :: rest =>
      (stringBody text rest).map fun (chars, rest) => (.string (String.ofList chars), rest)
    | '[' :: rest =>
      match skipSpace rest with
      | ']' :: rest => .ok (.array [], rest)
      | rest => (items fuel rest).map fun (items, rest) => (.array items, rest)
    | '\x7b' :: rest =>
      match skipSpace rest with
      | '\x7d' :: rest => .ok (.object [], rest)
      | rest => (members fuel [] rest).map fun (members, rest) => (.object members, rest)
    | _ => scalar text

def items : Nat → List Char → Reading (List Json)
  | 0, text => .error (.flawed .valueExpected text)
  | fuel + 1, text =>
    match value fuel text with
    | .error stop => .error stop
    | .ok (item, rest) =>
      match skipSpace rest with
      | ',' :: rest => (items fuel (skipSpace rest)).map fun (items, rest) => (item :: items, rest)
      | ']' :: rest => .ok ([item], rest)
      | rest => .error (.flawed .commaExpected rest)

/-- The members still to come, added to those `known` already. -/
def members : Nat → List (String × Json) → List Char → Reading (List (String × Json))
  | 0, _, text => .error (.flawed .keyExpected text)
  | fuel + 1, known, text =>
    match text with
    | '"' :: rest =>
      match stringBody text rest with
      | .error stop => .error stop
      | .ok (key, rest) =>
        match skipSpace rest with
        | ':' :: rest =>
          match value fuel (skipSpace rest) with
          | .error stop => .error stop
          | .ok (item, rest) =>
            let known := setMember (String.ofList key) item known
            match skipSpace rest with
            | ',' :: rest => members fuel known (skipSpace rest)
            | '\x7d' :: rest => .ok (known, rest)
            | rest => .error (.flawed .commaExpected rest)
        | rest => .error (.flawed .colonExpected rest)
    | _ => .error (.flawed .keyExpected text)

end

/-- A value and the items of a list may start at the same character, so a text needs two
steps for each of its characters that is not a space. -/
def document (text : List Char) : Except Stop Json :=
  match text with
  | '\ufeff' :: _ => .error (.flawed .byteOrderMark text)
  | _ =>
    match value (2 * text.countP (!isSpace ·) + 1) (skipSpace text) with
    | .error stop => .error stop
    | .ok (json, rest) =>
      match skipSpace rest with
      | [] => .ok json
      | rest => .error (.flawed .trailingText rest)

/-- Lines and columns count from one, offsets from zero. -/
structure Position where
  line : Nat
  column : Nat
  offset : Nat
deriving DecidableEq

/-- Where the last `left` characters of the text begin. -/
def Position.before (text : List Char) (left : Nat) : Position :=
  let passed := text.take (text.length - left)
  { line := passed.count '\n' + 1
    column := (passed.reverse.takeWhile (· ≠ '\n')).length + 1
    offset := passed.length }

inductive ReadFault where
  | flawed (flaw : Flaw) (position : Position)
  | oversized (digits : Nat)
deriving DecidableEq

def ReadFault.message : ReadFault → String
  | .flawed flaw position =>
    s!"{flaw.message}: line {position.line} column {position.column} (char {position.offset})"
  | .oversized digits =>
    s!"Exceeds the limit ({integerDigitLimit} digits) for integer string conversion: " ++
      s!"value has {digits} digits; use sys.set_int_max_str_digits() to increase the limit"

def read (text : String) : Except ReadFault Json :=
  match document text.toList with
  | .ok json => .ok json
  | .error (.flawed flaw rest) => .error (.flawed flaw (.before text.toList rest.length))
  | .error (.oversized digits) => .error (.oversized digits)

end ParamBundle.Json
