import VectorForge.Component
import VectorForge.Config
import VectorForge.Text.Blank

/-! The rules that a configuration has to keep. They are checked in a fixed order, and the
first one that is broken is the answer. -/

namespace VectorForge

inductive ConfigFault where
  | emptyExtension
  | emptyIndent
  | emptyNewline
  | emptyNamespace
  | invalidIdentifier (name : String)
  | keywordArgument (name : String)
  | duplicateArgument (name : String)
  | reservedArgument (name : String)
  deriving DecidableEq

def ConfigFault.message : ConfigFault → String
  | .emptyExtension => "file extension must not be empty"
  | .emptyIndent => "indent unit must not be empty"
  | .emptyNewline => "line terminator must not be empty"
  | .emptyNamespace => "namespace must not be empty"
  | .invalidIdentifier name => "`" ++ name ++ "` is not a valid argument name"
  | .keywordArgument name => "argument name `" ++ name ++ "` is a C# keyword"
  | .duplicateArgument name => "argument name `" ++ name ++ "` is used more than once"
  | .reservedArgument name =>
    "argument name `" ++ name ++ "` collides with a component or member parameter"

namespace Config

/-- The reserved words of the generated language; none of them can name a parameter. -/
def keywords : List String :=
  ["abstract", "as", "base", "bool", "break", "byte", "case", "catch", "char", "checked",
    "class", "const", "continue", "decimal", "default", "delegate", "do", "double", "else",
    "enum", "event", "explicit", "extern", "false", "finally", "fixed", "float", "for",
    "foreach", "goto", "if", "implicit", "in", "int", "interface", "internal", "is", "lock",
    "long", "namespace", "new", "null", "object", "operator", "out", "override", "params",
    "private", "protected", "public", "readonly", "ref", "return", "sbyte", "sealed", "short",
    "sizeof", "stackalloc", "static", "string", "struct", "switch", "this", "throw", "true",
    "try", "typeof", "uint", "ulong", "unchecked", "unsafe", "ushort", "using", "virtual",
    "void", "volatile", "while"]

/-- The names that generated members use for themselves. -/
def reservedNames : List String :=
  Component.all.map Component.name ++ ["min", "max", "other", "obj", "ix", "value"]

/-- A letter or an underscore, then letters, digits and underscores, all of them ASCII. -/
def isIdentifier (name : String) : Bool :=
  match name.toList with
  | [] => false
  | first :: rest =>
    (first.isAlpha || first == '_') && rest.all fun char => char.isAlphanum || char == '_'

/-- Checks one argument name against the rules and the names before it. -/
def checkName (earlier : List String) (name : String) : Except ConfigFault Unit :=
  if !isIdentifier name then .error (.invalidIdentifier name)
  else if name ∈ keywords then .error (.keywordArgument name)
  else if name ∈ reservedNames then .error (.reservedArgument name)
  else if name ∈ earlier then .error (.duplicateArgument name)
  else .ok ()

/-- Checks argument names in order. -/
def checkNames (earlier : List String) : List String → Except ConfigFault Unit
  | [] => .ok ()
  | name :: rest => do
    checkName earlier name
    checkNames (name :: earlier) rest

def validate (config : Config) : Except ConfigFault Unit :=
  if config.extension.isEmpty then .error .emptyExtension
  else if config.emit.style.indent.isEmpty then .error .emptyIndent
  else if config.emit.style.newline.isEmpty then .error .emptyNewline
  else if Text.isBlank config.emit.namespaceName then .error .emptyNamespace
  else checkNames [] config.emit.arguments.toList

end Config

end VectorForge
