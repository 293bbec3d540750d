import ParamBundle.Descriptor.Reader
import ParamBundle.FileSystem
import ParamBundle.Json.Nesting
import ParamBundle.Text.Basic

/-! Descriptor files are UTF-8 texts with the line ends of any system. The machine on which
one is loaded may refuse to look at the file or to read it, and may have too little room
for a text that is nested deeply. -/

namespace ParamBundle

/-- What the machine below a run does not let it do. One that is described no further lets
it do everything. -/
structure Host where
  lookUp : FilePath → Option Refusal := fun _ => none
  read : FilePath → Option Refusal := fun _ => none
  /-- What the reader of JSON was doing when a text outgrew its room. -/
  outgrown : String → Option String := fun _ => none

/-- Nothing is refused, but only so many lists and objects fit inside each other. -/
def Host.limited (room : Nat) : Host where
  outgrown text := (Json.overreach? room text.toList).map (·.activity)

namespace Descriptor

def ofText (host : Host) (source text : String) : Except Fault Descriptor :=
  match host.outgrown text with
  | some activity => .error (.tooDeep activity)
  | none => parse source text

def ofBytes (host : Host) (source : String) (bytes : List UInt8) : Except Fault Descriptor :=
  match Text.decodeUtf8 bytes with
  | .ok chars => ofText host source (String.ofList (Text.normalizeNewlines chars))
  | .error fault => .error (.undecodable fault)

def loadOn (host : Host) (files : FileSystem) (path : FilePath) : Except Fault Descriptor :=
  match host.lookUp path with
  | some refusal => .error (.refused refusal path.toString)
  | none =>
    match files.content? path with
    | none => .error (.configuration (.noDescriptorFile path.toString))
    | some bytes =>
      match host.read path with
      | some refusal => .error (.refused refusal path.toString)
      | none => ofBytes host path.toString bytes

/-- Loads where nothing is refused and every text has room. -/
def load (files : FileSystem) (path : FilePath) : Except Fault Descriptor := loadOn {} files path

theorem load_eq (files : FileSystem) (path : FilePath) :
    load files path =
      match files.content? path with
      | some bytes => ofBytes {} path.toString bytes
      | none => .error (.configuration (.noDescriptorFile path.toString)) := by
  unfold load loadOn
  cases files.content? path <;> rfl

end Descriptor
end ParamBundle
