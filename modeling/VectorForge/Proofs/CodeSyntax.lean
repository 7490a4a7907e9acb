import VectorForge.Layout

/-! The part of the target language that generated structs are made of, and how each of
its forms is written, from expressions to the text of lines. All of it is spelled out here;
no function that generates a file has a part in it. A body keeps apart what the text alone
runs together: a variable, a field, a method and a type are different forms even where they
are spelled alike. -/

namespace VectorForge.Proofs.CodeSyntax

def arithmeticSymbols : List String := ["+", "-", "*", "/", "%"]

def comparisonSymbols : List String := [">", ">=", "<", "<=", "==", "!="]

inductive Expression where
  | name (word : String)
  | this
  | number (value : Int)
  | literal (text : String)
  /-- An interpolated string: a label and the parts shown in parentheses behind it. -/
  | shown (label : String) (parts : List Expression)
  | select (object : Expression) (component : String)
  /-- The struct's own indexer. -/
  | entry (indices : List Expression)
  | call (method : String) (arguments : List Expression)
  | invoke (object : Expression) (method : String) (arguments : List Expression)
  /-- A constructor call whose type is known from the context. -/
  | build (arguments : List Expression)
  | raise (fault : String) (arguments : List Expression)
  | group (inner : Expression)
  | negative (operand : Expression)
  | cast (type : String) (operand : Expression)
  /-- Operands with the same infix symbol between them. -/
  | chain (symbol : String) (operands : List Expression)
  | choice (condition first second : Expression)
  | test (object : Expression) (type bound : String)

namespace Expression

mutual

def text : Expression → String
  | .name word => word
  | .this => "this"
  | .number value => toString value
  | .literal text => "\"" ++ text ++ "\""
  | .shown label parts => "$\"" ++ label ++ "(" ++ ", ".intercalate (holes parts) ++ ")\""
  | .select object component => object.text ++ "." ++ component
  | .entry indices => "this[" ++ ", ".intercalate (texts indices) ++ "]"
  | .call method arguments => method ++ "(" ++ ", ".intercalate (texts arguments) ++ ")"
  | .invoke object method arguments =>
    object.text ++ "." ++ method ++ "(" ++ ", ".intercalate (texts arguments) ++ ")"
  | .build arguments => "new(" ++ ", ".intercalate (texts arguments) ++ ")"
  | .raise fault arguments =>
    "throw new " ++ fault ++ "(" ++ ", ".intercalate (texts arguments) ++ ")"
  | .group inner => "(" ++ inner.text ++ ")"
  | .negative operand => "-" ++ operand.text
  | .cast type operand => "(" ++ type ++ ")" ++ operand.text
  | .chain symbol operands => (" " ++ symbol ++ " ").intercalate (texts operands)
  | .choice condition first second =>
    condition.text ++ " ? " ++ first.text ++ " : " ++ second.text
  | .test object type bound => object.text ++ " is " ++ type ++ " " ++ bound

def texts : List Expression → List String
  | [] => []
  | first :: rest => first.text :: texts rest

/-- The parts of an interpolated string, each between braces. -/
def holes : List Expression → List String
  | [] => []
  | first :: rest => ("\x7b" ++ first.text ++ "\x7d") :: holes rest

end

mutual

def tested : Expression → List (String × String)
  | .name _ | .this | .number _ | .literal _ => []
  | .shown _ parts => testedIn parts
  | .select object _ => object.tested
  | .entry indices => testedIn indices
  | .call _ arguments | .build arguments | .raise _ arguments => testedIn arguments
  | .invoke object _ arguments => object.tested ++ testedIn arguments
  | .group inner => inner.tested
  | .negative operand | .cast _ operand => operand.tested
  | .chain _ operands => testedIn operands
  | .choice condition first second => condition.tested ++ first.tested ++ second.tested
  | .test object type bound => object.tested ++ [(bound, type)]

def testedIn : List Expression → List (String × String)
  | [] => []
  | first :: rest => first.tested ++ testedIn rest

end

theorem texts_map (items : List α) (form : α → Expression) :
    texts (items.map form) = items.map fun item => (form item).text := by
  induction items with
  | nil => rfl
  | cons item items ih => simp [texts, ih]

theorem holes_map (items : List α) (form : α → Expression) :
    holes (items.map form) = items.map fun item => "\x7b" ++ (form item).text ++ "\x7d" := by
  induction items with
  | nil => rfl
  | cons item items ih => simp [holes, ih]

end Expression

structure Parameter where
  type : String
  name : String
  isReference : Bool := true
  /-- The value of an argument left out. -/
  preset : Option String := none
  deriving DecidableEq

def Parameter.text (parameter : Parameter) : String :=
  (if parameter.isReference then "in " else "") ++ parameter.type ++ " " ++ parameter.name
    ++ (match parameter.preset with
      | some value => " = " ++ value
      | none => "")

def parametersText (parameters : List Parameter) : String :=
  ", ".intercalate (parameters.map Parameter.text)

structure Assignment where
  target : Expression
  value : Expression

def Assignment.text (assignment : Assignment) : String :=
  assignment.target.text ++ " = " ++ assignment.value.text ++ ";"

def assignmentsText (assignments : List Assignment) : String :=
  " ".intercalate (assignments.map Assignment.text)

inductive Role where
  | property (name returns : String)
  | method (name returns : String)
  | operator (symbol returns : String)
  | conversion (target : String) (isImplicit : Bool)
  deriving DecidableEq

/-- The name under which a member is declared. -/
def Role.name : Role → String
  | .property name _ | .method name _ => name
  | .operator symbol _ => "operator " ++ symbol
  | .conversion target _ => "operator " ++ target

def Role.result : Role → String
  | .property _ returns | .method _ returns | .operator _ returns => returns
  | .conversion target _ => target

structure Heading where
  role : Role
  parameters : List Parameter := []
  isOverride : Bool := false
  isInline : Bool := false

/-- All that stands in front of a member's body. A property has no parameter list, and only
methods and properties say that they leave the struct as it is. -/
def Heading.text (heading : Heading) : String :=
  let override := if heading.isOverride then "override " else ""
  let parameters := "(" ++ parametersText heading.parameters ++ ")"
  match heading.role with
  | .property name returns => "public " ++ override ++ "readonly " ++ returns ++ " " ++ name
  | .method name returns =>
    "public " ++ override ++ "readonly " ++ returns ++ " " ++ name ++ parameters
  | .operator symbol returns =>
    "public static " ++ override ++ returns ++ " operator " ++ symbol ++ parameters
  | .conversion target isImplicit =>
    "public static " ++ override ++ (if isImplicit then "implicit" else "explicit")
      ++ " operator " ++ target ++ parameters

structure Operation extends Heading where
  body : Expression

def Operation.inlined (operation : Operation) : Operation := { operation with isInline := true }

/-- Texts on lines of their own, at depth zero. -/
def listed (texts : List String) : List Line := texts.map fun text => ⟨0, text, 1⟩

/-- Lines that stand one level deeper. -/
def deepened (lines : List Line) : List Line :=
  lines.map fun line => { line with depth := line.depth + 1 }

def braced (lines : List Line) (ending : String := "") : List Line :=
  ⟨0, "\x7b", 1⟩ :: deepened lines ++ [⟨0, "\x7d" ++ ending, 1⟩]

def marked (region : String) (lines : List Line) : List Line :=
  ⟨0, "#region " ++ region, 1⟩ :: lines ++ [⟨0, "#endregion " ++ region, 1⟩]

/-- The arguments of an open call, each on its own line. The last one closes the call. -/
def argumentLines : List String → List Line
  | [] => []
  | [last] => [⟨1, last ++ ");", 1⟩]
  | first :: rest => ⟨1, first ++ ",", 1⟩ :: argumentLines rest

def inlineAttribute : String := "[MethodImpl(MethodImplOptions.AggressiveInlining)]"

def hiddenAttribute : String := "[DebuggerBrowsable(DebuggerBrowsableState.Never)]"

/-- The attributes in front of a member. -/
def Heading.attributes (heading : Heading) : List Line :=
  if heading.isInline then listed [inlineAttribute] else []

/-- What lines look like: each one stands behind its indents and before its terminators. -/
def linesText (indent newline : String) (lines : List Line) : String :=
  String.join (lines.map fun line =>
    String.join (List.replicate line.depth indent) ++ line.text
      ++ String.join (List.replicate line.breaks newline))

theorem linesText_append (indent newline : String) (first second : List Line) :
    linesText indent newline (first ++ second) =
      linesText indent newline first ++ linesText indent newline second := by
  simp [linesText]

/-- A line at depth zero stands in front of those behind it with nothing but its terminator
between. -/
theorem linesText_outer (indent newline text : String) (rest : List Line) :
    linesText indent newline (⟨0, text, 1⟩ :: rest) =
      text ++ newline ++ linesText indent newline rest := by
  simp [linesText]

inductive Declaration where
  | constant (type name : String) (value : Expression)
  | fields (type : String) (names : List String)
  | constructor (type : String) (parameters : List Parameter) (body : List Assignment)
  /-- An indexer that chooses a field by its number. -/
  | numbered (type : String) (index : Parameter) (arms : List (Nat × Expression))
      (otherwise : Expression)
  /-- An indexer that builds its result; it can have a setter. -/
  | indexer (type : String) (indices : List Parameter) (getter : Expression)
      (setter : Option (List Assignment))
  | operation (declared : Operation)
  /-- A member that builds its result, with every argument on a line of its own. -/
  | spread (heading : Heading) (arguments : List Expression)

def constantText (type name : String) (value : Expression) : String :=
  "public static readonly " ++ type ++ " " ++ name ++ " = " ++ value.text ++ ";"

def fieldsText (type : String) (names : List String) : String :=
  "public " ++ type ++ " " ++ ", ".intercalate names ++ ";"

def constructorText (type : String) (parameters : List Parameter) (body : List Assignment) :
    String :=
  "public " ++ type ++ "(" ++ parametersText parameters ++ ") \x7b " ++ assignmentsText body
    ++ " \x7d"

def indexerText (modifier type : String) (indices : List Parameter) : String :=
  "public " ++ modifier ++ type ++ " this[" ++ parametersText indices ++ "]"

def Declaration.lines : Declaration → List Line
  | .constant type name value => listed [constantText type name value]
  | .fields type names => listed [fieldsText type names]
  | .constructor type parameters body => listed [constructorText type parameters body]
  | .numbered type index arms otherwise =>
    let reading := arms.map fun (number, field) => toString number ++ " => " ++ field.text ++ ","
    let writing := arms.map fun (number, field) =>
      "case " ++ toString number ++ ": " ++ field.text ++ " = value; break;"
    listed [hiddenAttribute, indexerText "" type [index]] ++ braced
      (listed ["readonly get"]
        ++ braced (listed ["return " ++ index.name ++ " switch"]
          ++ braced (listed (reading ++ ["_ => " ++ otherwise.text])) ";")
        ++ listed ["set"]
        ++ braced (listed ["switch (" ++ index.name ++ ")"]
          ++ braced (listed (writing ++ ["default: " ++ otherwise.text ++ ";"]))))
  | .indexer type indices getter (some setter) =>
    listed [hiddenAttribute, indexerText "" type indices] ++ braced (listed
      ["readonly get => " ++ getter.text ++ ";",
        "set \x7b " ++ assignmentsText setter ++ " \x7d"])
  | .indexer type indices getter none =>
    listed [hiddenAttribute, indexerText "readonly " type indices ++ " => " ++ getter.text ++ ";"]
  | .operation declared =>
    declared.attributes ++ listed [declared.text ++ " => " ++ declared.body.text ++ ";"]
  | .spread heading arguments =>
    heading.attributes ++ listed [heading.text ++ " => new("]
      ++ argumentLines (Expression.texts arguments)

def parameterVariables (parameters : List Parameter) : List (String × String) :=
  parameters.map fun parameter => (parameter.name, parameter.type)

/-- The variables that a body can use, each with its type. A setter has one for the value
that is assigned. -/
def Declaration.scope : Declaration → List (String × String)
  | .constant .. | .fields .. => []
  | .constructor _ parameters _ => parameterVariables parameters
  | .numbered type index _ _ => parameterVariables [index] ++ [("value", type)]
  | .indexer type indices _ setter =>
    parameterVariables indices ++ (if setter.isSome then [("value", type)] else [])
  | .operation declared => parameterVariables declared.parameters ++ declared.body.tested
  | .spread heading arguments =>
    parameterVariables heading.parameters ++ Expression.testedIn arguments

def headerText (name : String) : String := "public struct " ++ name ++ " : IEquatable<" ++ name ++ ">"

structure Struct where
  name : String
  /-- The members of each region, under the region's name. -/
  regions : List (String × List Declaration)

namespace Struct

def declarations (struct : Struct) : List Declaration := struct.regions.flatMap Prod.snd

def lines (struct : Struct) : List Line :=
  ⟨0, headerText struct.name, 1⟩ :: braced (struct.regions.flatMap fun (region, declarations) =>
      marked region (declarations.flatMap Declaration.lines))

end Struct

end VectorForge.Proofs.CodeSyntax
