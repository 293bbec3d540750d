/-! Terminal control sequences. Output that may not reach a terminal is printed without
them: an escape character, a bracket, parameters and one letter. -/

namespace ParamBundle.Text

def isSequenceParameter (c : Char) : Bool := c.isDigit || c == ';' || c == '?'

/-- What follows a sequence, from what follows its bracket. -/
def afterSequence? : List Char → Option (List Char)
  | [] => none
  | c :: rest =>
    if isSequenceParameter c then afterSequence? rest
    else if c.isAlpha then some rest
    else none

theorem afterSequence?_length {text rest : List Char} (found : afterSequence? text = some rest) :
    rest.length < text.length := by
  induction text with
  | nil => cases found
  | cons c text ih =>
    unfold afterSequence? at found
    split at found
    · exact Nat.lt_succ_of_lt (ih found)
    · split at found
      · cases found
        exact Nat.lt_succ_self _
      · cases found

def dropSequences : List Char → List Char
  | '\x1b' :: '[' :: rest =>
    match _ : afterSequence? rest with
    | some after => dropSequences after
    | none => '\x1b' :: '[' :: dropSequences rest
  | c :: rest => c :: dropSequences rest
  | [] => []
termination_by text => text.length
decreasing_by
  · have := afterSequence?_length ‹_›
    simp only [List.length_cons]
    omega
  · simp only [List.length_cons]
    omega
  · simp

def printable (text : String) : String := String.ofList (dropSequences text.toList)

end ParamBundle.Text
