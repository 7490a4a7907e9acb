import VectorForge.Section
import VectorForge.Members.Constructors
import VectorForge.Members.Conversions
import VectorForge.Members.Equality
import VectorForge.Members.Functions
import VectorForge.Members.Indexers
import VectorForge.Members.Properties

/-! What a generated file holds. A plan lists the sections of a struct; the file is
the opening lines, the struct's header and the sections in that order. -/

namespace VectorForge

/-- Numeric vectors carry arithmetic, boolean ones only the results of comparisons. -/
inductive Plan where
  | numeric
  | boolean
  deriving DecidableEq

namespace Plan

def ofKind : Kind → Plan
  | .bool => .boolean
  | _ => .numeric

def sections : Plan → List Section
  | .numeric => Section.all
  | .boolean => [.properties, .constructors, .logicalOperators, .objectOperators]

/-- The formatter a plan works with. The numeric plan refuses boolean types; the
boolean plan takes only the dimension of the type it is given. -/
def formatter (plan : Plan) (type : VectorType) (options : Options) : Except Fault Formatter :=
  match plan with
  | .numeric =>
    if type.kind.isNumeric then .ok ⟨type, options⟩
    else .error (.unsupportedKind type.kind.element "the numeric plan")
  | .boolean => .ok ⟨⟨.bool, type.dimension⟩, options⟩

def numericSection (formatter : Formatter) : Section → Except Fault Program
  | .properties => Members.numericProperties formatter
  | .swizzles => Members.indexers formatter
  | .constructors => Members.constructors formatter
  | .mathOperators => .members <$> Members.arithmetic formatter
  | .logicalOperators => .members <$> Members.comparisons formatter
  | .objectOperators => .members <$> Members.equality formatter
  | .functions => Members.functions formatter
  | .converters => .members <$> Members.conversions formatter

def booleanSection (formatter : Formatter) : Section → Except Fault Program
  | .properties => Members.booleanProperties formatter
  | .constructors => Members.constructors formatter
  | .logicalOperators => .members <$> Members.booleanComparisons formatter
  | .objectOperators => .members <$> Members.equality formatter
  | other => .error (.unsupportedKind Kind.bool.element other.region)

/-- What a section writes, without its region markers. -/
def sectionProgram (plan : Plan) (formatter : Formatter) : Section → Except Fault Program :=
  match plan with
  | .numeric => numericSection formatter
  | .boolean => booleanSection formatter

/-- One line for each namespace the file opens, and a blank line after the last. -/
def usingLines : List String → Program
  | [] => .done
  | [last] => .write ("using " ++ last ++ ";") 2
  | first :: rest => .write ("using " ++ first ++ ";") ++ usingLines rest

def preamble (options : Options) : Program :=
  usingLines options.usings ++ .write ("namespace " ++ options.namespaceName ++ ";") 2

def fileProgram (plan : Plan) (formatter : Formatter) : Except Fault Program := do
  let header ← formatter.format "public struct {T} : IEquatable<{T}>"
  let regions ← plan.sections.mapM fun part => do
    let body ← plan.sectionProgram formatter part
    return Program.region part.region body
  return preamble formatter.options ++ .write header ++ .block (.join regions)

def sectionLines (plan : Plan) (type : VectorType) (options : Options) (part : Section) :
    Except Fault (List Line) := do
  let formatter ← plan.formatter type options
  let program ← plan.sectionProgram formatter part
  program.text

def fileLines (plan : Plan) (type : VectorType) (options : Options) : Except Fault (List Line) := do
  let formatter ← plan.formatter type options
  let program ← plan.fileProgram formatter
  program.text

def render (plan : Plan) (type : VectorType) (options : Options) : Except Fault String :=
  options.style.layout <$> plan.fileLines type options

end Plan

/-- The file of a type, by the plan for its kind. -/
def generate (type : VectorType) (options : Options) : Except Fault String :=
  (Plan.ofKind type.kind).render type options

end VectorForge
