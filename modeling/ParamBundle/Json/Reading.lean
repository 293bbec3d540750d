import ParamBundle.Json.Basic

/-! What readers of JSON text share. A reader takes the characters that are left and
answers with what it read and what is left after it. A fault carries the characters
from where it was met, which fixes its position in the whole text. -/

namespace ParamBundle.Json

inductive Flaw where
  | byteOrderMark
  | valueExpected
  | keyExpected
  | colonExpected
  | commaExpected
  | trailingText
  | unclosedString
  | controlCharacter
  | unknownEscape
  | malformedCodeEscape
deriving DecidableEq

def Flaw.message : Flaw → String
  | .byteOrderMark => "Unexpected UTF-8 BOM (decode using utf-8-sig)"
  | .valueExpected => "Expecting value"
  | .keyExpected => "Expecting property name enclosed in double quotes"
  | .colonExpected => "Expecting ':' delimiter"
  | .commaExpected => "Expecting ',' delimiter"
  | .trailingText => "Extra data"
  | .unclosedString => "Unterminated string starting at"
  | .controlCharacter => "Invalid control character at"
  | .unknownEscape => "Invalid \\escape"
  | .malformedCodeEscape => "Invalid \\uXXXX escape"

inductive Stop where
  | flawed (flaw : Flaw) (rest : List Char)
  /-- An integer with more digits than are converted. -/
  | oversized (digits : Nat)

abbrev Reading (α : Type) := Except Stop (α × List Char)

def isSpace (c : Char) : Bool := c = ' ' || c = '\t' || c = '\n' || c = '\r'

def skipSpace (text : List Char) : List Char := text.dropWhile isSpace

end ParamBundle.Json
