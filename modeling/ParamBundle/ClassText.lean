import ParamBundle.Member
import ParamBundle.Text.Basic

/-! The text of the generated class: package clause, header, fields, constructor, getters
and setters. Each block lists the members in the same order. -/

namespace ParamBundle

structure ClassModel where
  packageName : String
  className : String
  typeParameters : List String
  members : List Member
deriving DecidableEq

namespace Member

def documentationLines (member : Member) : List String :=
  match member.documentation with
  | some text => if text.isEmpty then [] else [text]
  | none => []

/-- A field without a setter is final. -/
def fieldLine (member : Member) : String :=
  "\t" ++ member.annotations ++ (if member.setterRequired then "private " else "private final ") ++
    member.storageType ++ " " ++ member.fieldName ++ ";"

def fieldLines (member : Member) : List String :=
  member.documentationLines ++ [member.fieldLine]

def assignmentLine (member : Member) : String := "\t\t" ++ member.assignment.text

def getterLines (member : Member) : List String :=
  ["",
    "\t" ++ member.annotations ++ "public " ++ member.storageType ++ " " ++ member.getterName ++
      "()\x7b",
    "\t\treturn " ++ member.fieldName ++ ";",
    "\t\x7d"]

def setterLines (member : Member) : List String :=
  if member.setterRequired then
    ["",
      "\tpublic void " ++ member.setterName ++ "(" ++ member.declaration ++ ")\x7b",
      member.assignmentLine,
      "\t\x7d"]
  else []

end Member

namespace ClassModel

def packageLines (model : ClassModel) : List String :=
  if model.packageName.isEmpty then [] else ["package " ++ model.packageName ++ ";"]

def header (model : ClassModel) : String :=
  let parameters :=
    if model.typeParameters.isEmpty then "" else "<" ++ ",".intercalate model.typeParameters ++ ">"
  "public class " ++ model.className ++ parameters ++ "\x7b"

def constructorLine (model : ClassModel) : String :=
  "\tpublic " ++ model.className ++ "(" ++ ", ".intercalate (model.members.map (·.declaration)) ++
    ")\x7b"

def constructorLines (model : ClassModel) : List String :=
  ["", model.constructorLine] ++ model.members.map (·.assignmentLine) ++ ["\t\x7d"]

def lines (model : ClassModel) : List String :=
  model.packageLines ++ [model.header] ++ model.members.flatMap (·.fieldLines) ++
    model.constructorLines ++ model.members.flatMap (·.getterLines) ++
    model.members.flatMap (·.setterLines) ++ ["\x7d"]

def text (model : ClassModel) : String := Text.unlines model.lines

end ClassModel
end ParamBundle
