import ParamBundle.Json.Reader
import ParamBundle.NameSet
import ParamBundle.Style
import ParamBundle.Text.Quoted
import ParamBundle.Text.Utf8

/-! Everything that can stop a generation, by cause. Only the functions at the end of
each section know the wording. A rejection blames the input and comes before any effect;
a storage fault comes from the file system, a misuse from the calling program. -/

namespace ParamBundle

/-- Why a parameter cannot become a field, in its entry or when it is rendered. -/
inductive ParameterFault where
  | entryNotObject
  | entryWithoutName
  | entryWithoutType
  | flagNotBoolean (key : String)
  | modifiersNotTexts
  | annotationsNotList
  | documentationNotText
  | annotationNotObject
  | annotationNotTexts
  | noName
  | emptyBaseName
  | noType
  | notArray (typeText : String)
deriving DecidableEq

def ParameterFault.message : ParameterFault → String
  | .entryNotObject => "parameter entry must be an object"
  | .entryWithoutName => "parameter entry has no 'name'"
  | .entryWithoutType => "parameter entry has no 'type'"
  | .flagNotBoolean key => s!"'{key}' must be true or false"
  | .modifiersNotTexts => "'modifiers' must be a list of strings"
  | .annotationsNotList => "'annotations' must be a list"
  | .documentationNotText => "'doc' must be a string or null"
  | .annotationNotObject => "annotation entry must be an object"
  | .annotationNotTexts => "annotation 'name' and 'arguments' must be strings or null"
  | .noName => "parameter has no name"
  | .emptyBaseName => "name is empty once the parameter naming convention is removed"
  | .noType => "parameter has no type"
  | .notArray typeText => s!"variable-arity type '{typeText}' is not an array type"

/-- An empty name cannot be shown, so it counts as none. -/
def malformedParameterText (name : Option String) (reason : String) : String :=
  let shown :=
    match name with
    | none => "<unnamed>"
    | some name => if name.isEmpty then "<unnamed>" else s!"'{name}'"
  s!"Malformed parameter {shown}: {reason}"

/-- The settings without which no class is rendered. -/
inductive RequiredSetting where
  | className
  | packageName
  | style
deriving DecidableEq

def RequiredSetting.label : RequiredSetting → String
  | .className => "class name"
  | .packageName => "package name"
  | .style => "style configuration"

inductive ConfigurationFault where
  | invalidJson (source : String) (flaw : Json.Flaw) (position : Json.Position)
  | documentNotObject (source : String)
  | packageNotText (source : String)
  | typeParametersNotTexts (source : String)
  | parametersNotList (source : String)
  | styleNotObject
  | unknownSettings (keys : NameSet)
  | settingOfWrongType (setting : Style.Setting)
  | invalidClassName (shown : String)
  | packageNameNotText
  | invalidPackageName (name : String)
  | blankTypeParameter
  | unset (settings : List RequiredSetting)
  | noDescriptorFile (path : String)
deriving DecidableEq

def ConfigurationFault.message : ConfigurationFault → String
  | .invalidJson source flaw position =>
    s!"Invalid descriptor {source}: {(Json.ReadFault.flawed flaw position).message}"
  | .documentNotObject source => s!"Invalid descriptor {source}: expected a JSON object"
  | .packageNotText source => s!"Invalid descriptor {source}: 'package' must be a string"
  | .typeParametersNotTexts source =>
    s!"Invalid descriptor {source}: 'type_parameters' must be a list of strings"
  | .parametersNotList source => s!"Invalid descriptor {source}: 'parameters' must be a list"
  | .styleNotObject => "'style' must be an object"
  | .unknownSettings keys => "Unknown style settings: " ++ ", ".intercalate keys.toList
  | .settingOfWrongType setting =>
    let expected := if setting = .finalParameters then "bool" else "str"
    s!"Style setting '{setting.key}' must be a {expected}"
  | .invalidClassName shown => s!"Invalid class name: '{shown}'"
  | .packageNameNotText => "Package name must be a string, use '' for the default package"
  | .invalidPackageName name => s!"Invalid package name: '{name}'"
  | .blankTypeParameter => "Type parameters must not be blank"
  | .unset settings =>
    "Cannot render before setting: " ++ ", ".intercalate (settings.map (·.label))
  | .noDescriptorFile path => s!"Descriptor file does not exist: {path}"

inductive StorageError where
  | absent
  | occupied
  | notDirectory
  | isDirectory
deriving DecidableEq

def StorageError.message : StorageError → String
  | .absent => "[Errno 2] No such file or directory"
  | .occupied => "[Errno 17] File exists"
  | .notDirectory => "[Errno 20] Not a directory"
  | .isDirectory => "[Errno 21] Is a directory"

/-- Any other error of the system, by number and reason. The numbers that only say that
nothing is there are answers and not refusals, and a file is no pipe that could break. -/
structure Refusal where
  number : Nat
  reason : String
  refuses : number ∉ [2, 9, 20, 32, 40]
deriving DecidableEq

def Refusal.message (refusal : Refusal) : String := s!"[Errno {refusal.number}] {refusal.reason}"

inductive Misuse where
  | absentParameter (name : String)
  | notIterable (type : String)
  | notPath (type : String)
deriving DecidableEq

def Misuse.message : Misuse → String
  | .absentParameter name => Text.quoted name
  | .notIterable type => s!"'{type}' object is not iterable"
  | .notPath type => s!"expected str, bytes or os.PathLike object, not {type}"

inductive Fault where
  | configuration (cause : ConfigurationFault)
  | malformed (name : Option String) (cause : ParameterFault)
  | undecodable (cause : Text.Utf8Fault)
  | oversizedInteger (digits : Nat)
  | missingParameters (command : String) (names : List String)
  | unknownCommand (name : String) (known : List String)
  | namelessCommand (label : String)
  | nullInPath
  | storage (error : StorageError) (path : String)
  | refused (cause : Refusal) (path : String)
  | tooDeep (activity : String)
  | misuse (cause : Misuse)
deriving DecidableEq

namespace Fault

def message : Fault → String
  | configuration cause => cause.message
  | malformed name cause => malformedParameterText name cause.message
  | undecodable cause => cause.message
  | oversizedInteger digits => (Json.ReadFault.oversized digits).message
  | missingParameters command names =>
    s!"Missing required parameters for {command}: " ++ ", ".intercalate names
  | unknownCommand name known =>
    let listed := ", ".intercalate known
    let available := if listed.isEmpty then "none" else listed
    s!"Unknown refactoring: {name} (available: {available})"
  | namelessCommand label => s!"Command class {label} must have a 'name' attribute"
  | nullInPath => "embedded null byte"
  | storage error path => s!"{error.message}: {Text.quoted path}"
  | refused cause path => s!"{cause.message}: {Text.quoted path}"
  | tooDeep activity => s!"maximum recursion depth exceeded{activity}"
  | misuse cause => cause.message

/-- A rejection blames what was given: the descriptor, the names or the paths. -/
def isRejection : Fault → Bool
  | storage .. | refused .. | tooDeep _ | misuse _ => false
  | _ => true

end Fault
end ParamBundle
