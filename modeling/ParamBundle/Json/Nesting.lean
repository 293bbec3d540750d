import ParamBundle.Json.Reader

/-! Nesting. A reader that makes a call for each list and object has room for so many of
them inside each other; one more, and it breaks off where the last one begins. -/

namespace ParamBundle.Json

inductive Bracket where
  | list
  | object
deriving DecidableEq

/-- What the reader is doing while it enters a bracket, as it is reported. -/
def Bracket.activity : Bracket → String
  | .list => " while decoding a JSON array from a unicode string"
  | .object => " while decoding a JSON object from a unicode string"

mutual

/-- The first bracket of a value that the reader meets without room to enter it. What lies
behind a fault of the text is not met. -/
def valueOverreach? : Nat → Nat → List Char → Option Bracket
  | 0, _, _ => none
  | fuel + 1, room, text =>
    match text, room with
    | '[' :: _, 0 => some .list
    | '[' :: rest, room + 1 =>
      match skipSpace rest with
      | ']' :: _ => none
      | rest => itemsOverreach? fuel room rest
    | '\x7b' :: _, 0 => some .object
    | '\x7b' :: rest, room + 1 =>
      match skipSpace rest with
      | '\x7d' :: _ => none
      | rest => membersOverreach? fuel room rest
    | _, _ => none

def itemsOverreach? : Nat → Nat → List Char → Option Bracket
  | 0, _, _ => none
  | fuel + 1, room, text =>
    match valueOverreach? fuel room text, value fuel text with
    | some bracket, _ => some bracket
    | none, .error _ => none
    | none, .ok (_, rest) =>
      match skipSpace rest with
      | ',' :: rest => itemsOverreach? fuel room (skipSpace rest)
      | _ => none

def membersOverreach? : Nat → Nat → List Char → Option Bracket
  | 0, _, _ => none
  | fuel + 1, room, text =>
    match text with
    | '"' :: rest =>
      match stringBody text rest with
      | .error _ => none
      | .ok (_, rest) =>
        match skipSpace rest with
        | ':' :: rest =>
          match valueOverreach? fuel room (skipSpace rest), value fuel (skipSpace rest) with
          | some bracket, _ => some bracket
          | none, .error _ => none
          | none, .ok (_, rest) =>
            match skipSpace rest with
            | ',' :: rest => membersOverreach? fuel room (skipSpace rest)
            | _ => none
        | _ => none
    | _ => none

end

/-- The first bracket of a document without room for it. The fuel is that of the reader. -/
def overreach? (room : Nat) (text : List Char) : Option Bracket :=
  match text with
  | '\ufeff' :: _ => none
  | _ => valueOverreach? (2 * text.countP (!isSpace ·) + 1) room (skipSpace text)

end ParamBundle.Json
