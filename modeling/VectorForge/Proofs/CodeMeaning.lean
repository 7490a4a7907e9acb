import Mathlib.Data.Bool.Basic
import Mathlib.Order.Lattice
import VectorForge.Proofs.StructCode

/-! What generated code computes. Expressions are evaluated as they are declared, and a call
of a member is answered by the body of the member that it selects. Numbers are exact; the
arithmetic on them and the routines of static classes are given from outside. -/

namespace VectorForge.Proofs.CodeMeaning
open CodeSyntax

inductive Datum (α : Type) where
  | number (value : α)
  | truth (value : Bool)
  /-- A struct with its fields in the order of their declaration. -/
  | vector (type : String) (fields : List (String × Datum α))
  /-- A value that is only known to be an `object`. -/
  | boxed (value : Datum α)

/-- Why there is no value. -/
inductive Halt where
  | thrown (fault : String)
  /-- The code does not mean anything where it stands. -/
  | stuck
  /-- Calls are nested deeper than was allowed. -/
  | deep

abbrev Result := Except Halt

namespace Datum

/-- An exact number belongs to every numeric type. -/
def isA (type : String) : Datum α → Bool
  | number _ => type ∈ Kind.numeric.map Kind.element
  | truth _ => type = Kind.bool.element
  | vector name _ => type = name
  | boxed _ => type = "object"

/-- The value itself or, if it is boxed, what is inside, provided that it has the type. -/
def unboxed? (type : String) : Datum α → Option (Datum α)
  | boxed value => if value.isA type then some value else none
  | value => if value.isA type then some value else none

def structName? : Datum α → Option String
  | vector type _ => some type
  | _ => none

def field? (name : String) : Datum α → Option (Datum α)
  | vector _ fields => fields.lookup name
  | _ => none

/-- A struct with one of its fields changed. -/
def assigned? : Datum α → String → Datum α → Option (Datum α)
  | vector type fields, name, value =>
    if name ∈ fields.map Prod.fst then
      some (vector type (fields.map fun field =>
        (field.1, if field.1 = name then value else field.2)))
    else none
  | _, _, _ => none

end Datum

def orStuck : Option β → Result β
  | some value => .ok value
  | none => .error .stuck

@[simp] theorem orStuck_some (value : β) : orStuck (some value) = .ok value := rfl

def Datum.holds : Datum α → Result Bool
  | .truth value => return value
  | _ => throw .stuck

/-- How strongly the operators bind what stands on their two sides. A part of an expression that
holds together less strongly would be torn when the text is read back. -/
def strengths : List (String × Nat) :=
  [("*", 7), ("/", 7), ("%", 7), ("+", 6), ("-", 6), ("<", 5), (">", 5), ("<=", 5), (">=", 5),
    ("==", 4), ("!=", 4), ("&&", 3), ("||", 2)]

def strength (symbol : String) : Nat := (strengths.lookup symbol).getD 0

/-- How strongly the outermost parts of an expression hold together. -/
def cohesion : Expression → Nat
  | .raise .. => 0
  | .choice .. => 1
  | .chain symbol _ => strength symbol
  | .test .. => 5
  | .negative _ | .cast .. => 8
  | .number value => if value < 0 then 8 else 9
  | _ => 9

mutual

/-- No part of the expression is torn by what stands around it. -/
def intact : Expression → Bool
  | .name _ | .this | .number _ | .literal _ => true
  | .shown _ parts => allIntact parts
  | .select object _ => cohesion object = 9 && intact object
  | .entry indices => allIntact indices
  | .call _ arguments | .build arguments | .raise _ arguments => allIntact arguments
  | .invoke object _ arguments => cohesion object = 9 && intact object && allIntact arguments
  | .group inner => intact inner
  | .negative operand | .cast _ operand => cohesion operand = 9 && intact operand
  | .chain symbol operands =>
    operands.all (fun operand => strength symbol < cohesion operand) && allIntact operands
  | .choice condition first second =>
    [condition, first, second].all (fun part => 1 < cohesion part)
      && intact condition && intact first && intact second
  | .test object _ _ => 5 < cohesion object && intact object

def allIntact : List Expression → Bool
  | [] => true
  | first :: rest => intact first && allIntact rest

end

example : intact (.chain "*" [.name "n", .chain "+" [.name "m", .number 1]]) = false := rfl

/-- What the six comparisons say of two numbers. -/
def related [LinearOrder α] (symbol : String) (first second : α) : Bool :=
  match symbol with
  | "==" => first = second
  | "!=" => first ≠ second
  | "<" => first < second
  | ">" => second < first
  | "<=" => first ≤ second
  | ">=" => second ≤ first
  | _ => false

/-- What code takes from outside: arithmetic and the routines of static classes. -/
structure Library (α : Type) where
  literal : Int → α
  negated : α → α
  cast : String → α → α
  arithmetic : String → α → α → Result α
  routine : String → String → List (Datum α) → Result (Datum α)

inductive Call (α : Type) where
  | build (type : String) (arguments : List (Datum α))
  | operator (symbol : String) (operands : List (Datum α))
  | convert (target : String) (source : Datum α)
  | method (self : Datum α) (name : String) (arguments : List (Datum α))
  | property (self : Datum α) (name : String)
  | entry (self : Datum α) (indices : List (Datum α))

/-- What the names in a body stand for. -/
structure Frame (α : Type) where
  locals : List (String × Datum α) := []
  self : Option (Datum α) := none

namespace Frame

def find? (frame : Frame α) (name : String) : Option (Datum α) :=
  (frame.locals.lookup name).or (frame.self.bind (Datum.field? name))

def binding (frame : Frame α) (name : String) (value : Datum α) : Frame α :=
  { frame with locals := (name, value) :: frame.locals }

/-- The class that a name stands for where nothing else bears the name. -/
def class? (frame : Frame α) : Expression → Option String
  | .name word => if (frame.find? word).isNone then some word else none
  | _ => none

end Frame

section Evaluation
variable [LinearOrder α] (library : Library α) (calls : Call α → Result (Datum α))

def applied (symbol : String) : Datum α → Datum α → Result (Datum α)
  | .number first, .number second =>
    if symbol ∈ comparisonSymbols then return .truth (related symbol first second)
    else .number <$> library.arithmetic symbol first second
  | .truth first, .truth second =>
    if symbol ∈ ["==", "!="] then return .truth (related symbol first second)
    else throw .stuck
  | first, second => calls (.operator symbol [first, second])

def negated : Datum α → Result (Datum α)
  | .number value => return .number (library.negated value)
  | value => calls (.operator "-" [value])

def converted (target : String) (value : Datum α) : Result (Datum α) :=
  if target = "object" then return .boxed value
  else
    match value with
    | .number number => return .number (library.cast target number)
    | value => calls (.convert target value)

/-- The field or else the property of a value. -/
def selected (name : String) (value : Datum α) : Result (Datum α) :=
  match value.field? name with
  | some field => return field
  | none => calls (.property value name)

mutual

def evaluate (frame : Frame α) : Expression → Result (Datum α)
  | .name word => orStuck (frame.find? word)
  | .this => orStuck frame.self
  | .number value => return .number (library.literal value)
  | .select object component => do
    selected calls component (← evaluate frame object)
  | .entry indices => do
    calls (.entry (← orStuck frame.self) (← evaluateAll frame indices))
  | .call method arguments => do
    if (frame.find? method).isSome then throw .stuck
    calls (.method (← orStuck frame.self) method (← evaluateAll frame arguments))
  | .invoke object method arguments => do
    match frame.class? object with
    | some holder => library.routine holder method (← evaluateAll frame arguments)
    | none =>
      calls (.method (← evaluate frame object) method (← evaluateAll frame arguments))
  | .raise fault _ => throw (.thrown fault)
  | .group inner => evaluate frame inner
  | .negative operand => do
    negated library calls (← evaluate frame operand)
  | .cast type operand => do
    converted library calls type (← evaluate frame operand)
  | .chain symbol operands => do
    if symbol = "&&" then return .truth (← everyHolds frame operands)
    if symbol = "||" then return .truth (← someHolds frame operands)
    match ← evaluateAll frame operands with
    | first :: rest => rest.foldlM (applied library calls symbol) first
    | [] => throw .stuck
  | .choice condition first second => do
    if ← (← evaluate frame condition).holds then evaluate frame first
    else evaluate frame second
  | .literal _ | .shown .. | .build _ | .test .. => throw .stuck

def evaluateAll (frame : Frame α) : List Expression → Result (List (Datum α))
  | [] => return []
  | first :: rest => return (← evaluate frame first) :: (← evaluateAll frame rest)

/-- Whether all conditions hold. A test that succeeds gives a name to the tested value, and
the conditions behind it can use that name. -/
def everyHolds (frame : Frame α) : List Expression → Result Bool
  | [] => return true
  | .test object type bound :: rest => do
    match (← evaluate frame object).unboxed? type with
    | some value => everyHolds (frame.binding bound value) rest
    | none => return false
  | first :: rest => do
    if ← (← evaluate frame first).holds then everyHolds frame rest else return false

def someHolds (frame : Frame α) : List Expression → Result Bool
  | [] => return false
  | first :: rest => do
    if ← (← evaluate frame first).holds then return true else someHolds frame rest

end

-- The equations of these definitions are made here, once for all the proofs that use them.
attribute [local simp] evaluate evaluateAll everyHolds someHolds

/-- The value of a body. Only here does `new` stand alone, and then it makes the type that
the member returns. -/
def returned (type : String) (frame : Frame α) (body : Expression) : Result (Datum α) :=
  if intact body then
    match body with
    | .build arguments => do calls (.build type (← evaluateAll library calls frame arguments))
    | body => evaluate library calls frame body
  else throw .stuck

end Evaluation

/-- Gives the arguments to the parameters. What was left out is filled in. -/
def bound? (fill : Parameter → Option (Datum α)) :
    List Parameter → List (Datum α) → Option (List (String × Datum α))
  | [], [] => some []
  | [], _ :: _ => none
  | parameter :: parameters, [] =>
    (fill parameter).bind fun value =>
      (bound? fill parameters []).map fun locals => (parameter.name, value) :: locals
  | parameter :: parameters, value :: values =>
    if value.isA parameter.type then
      (bound? fill parameters values).map fun locals => (parameter.name, value) :: locals
    else none

def operation? : Declaration → Option Operation
  | .operation declared => some declared
  | .spread heading arguments => some { heading with body := .build arguments }
  | _ => none

def constructing? : Declaration → Option (List Parameter × List Assignment)
  | .constructor _ parameters body => some (parameters, body)
  | _ => none

def fields? : Declaration → Option (List (String × String))
  | .fields type names => some (names.map fun name => (name, type))
  | _ => none

def operations (struct : Struct) : List Operation :=
  struct.declarations.filterMap operation?

def constructors (struct : Struct) : List (List Parameter × List Assignment) :=
  struct.declarations.filterMap constructing?

def isOperator (symbol : String) : Role → Bool
  | .operator other _ => other = symbol
  | _ => false

def isConversion (target : String) : Role → Bool
  | .conversion other _ => other = target
  | _ => false

def isMethod (name : String) : Role → Bool
  | .method other _ => other = name
  | _ => false

def isProperty (name : String) : Role → Bool
  | .property other _ => other = name
  | _ => false

/-- The operation with this role whose parameters take the arguments. -/
def overload? (operations : List Operation) (hasRole : Role → Bool) (arguments : List (Datum α)) :
    Option (Operation × List (String × Datum α)) :=
  (operations.filter fun operation => hasRole operation.role).findSome? fun operation =>
    (bound? (fun _ => none) operation.parameters arguments).map fun locals =>
      (operation, locals)

section Program
variable [LinearOrder α] (library : Library α) (structs : List Struct)

def struct? (name : String) : Option Struct := structs.find? (·.name = name)

def operationsOf (value : Datum α) : List Operation :=
  ((value.structName?.bind (struct? structs)).map operations).getD []

def Library.ofText? : String → Option (Datum α)
  | "0" => some (.number (library.literal 0))
  | "false" => some (.truth false)
  | _ => none

def preset? (parameter : Parameter) : Option (Datum α) :=
  parameter.preset.bind library.ofText?

/-- The constructor that takes the arguments. One that takes them all goes before one that
fills some in. -/
def constructor? (struct : Struct) (arguments : List (Datum α)) :
    Option (List (String × Datum α) × List Assignment) :=
  let taking (fill : Parameter → Option (Datum α)) :=
    (constructors struct).findSome? fun (parameters, body) =>
      (bound? fill parameters arguments).map fun locals => (locals, body)
  (taking fun _ => none).or (taking (preset? library))

def zero (type : String) : Datum α :=
  if type = Kind.bool.element then .truth false else .number (library.literal 0)

/-- A struct before its constructor has run. -/
def blank (struct : Struct) : Datum α :=
  .vector struct.name ((struct.declarations.filterMap fields?).flatten.map fun (name, type) =>
    (name, zero library type))

variable (calls : Call α → Result (Datum α))

def assign (locals : List (String × Datum α)) (self : Datum α) (assignment : Assignment) :
    Result (Datum α) := do
  let value ← returned library calls "" { locals, self := some self } assignment.value
  match assignment.target with
  | .name word =>
    if (locals.lookup word).isSome then throw .stuck else orStuck (self.assigned? word value)
  | .select .this word => orStuck (self.assigned? word value)
  | _ => throw .stuck

def perform (self : Option (Datum α)) :
    Option (Operation × List (String × Datum α)) → Result (Datum α)
  | some (operation, locals) =>
    returned library calls operation.role.result { locals, self } operation.body
  | none => throw .stuck

/-- What an indexer returns if its parameters take the indices. -/
def entered? (self : Datum α) (indices : List (Datum α)) : Declaration → Option (Result (Datum α))
  | .numbered type index arms otherwise =>
    (bound? (fun _ => none) [index] indices).map fun locals =>
      let arm := arms.find? fun (number, _) =>
        match indices with
        | [.number value] => library.literal number = value
        | _ => false
      returned library calls type { locals, self := some self } (arm.elim otherwise Prod.snd)
  | .indexer type parameters getter _ =>
    (bound? (fun _ => none) parameters indices).map fun locals =>
      returned library calls type { locals, self := some self } getter
  | _ => none

def run : Call α → Result (Datum α)
  | .build type arguments => do
    let struct ← orStuck (struct? structs type)
    let (locals, body) ← orStuck (constructor? library struct arguments)
    body.foldlM (assign library calls locals) (blank library struct)
  | .operator symbol operands =>
    perform library calls none
      (overload? (operands.flatMap (operationsOf structs)) (isOperator symbol) operands)
  | .convert target source =>
    let declared := operationsOf structs source
      ++ ((struct? structs target).map operations).getD []
    perform library calls none (overload? declared (isConversion target) [source])
  | .method self name arguments =>
    perform library calls (some self)
      (overload? (operationsOf structs self) (isMethod name) arguments)
  | .property self name =>
    perform library calls (some self)
      (overload? (operationsOf structs self) (isProperty name) [])
  | .entry self indices => do
    let struct ← orStuck (self.structName?.bind (struct? structs))
    let outcome ← orStuck (struct.declarations.findSome? (entered? library calls self indices))
    outcome

/-- The answer to a call, when calls may be nested so deep. -/
def answer : Nat → Call α → Result (Datum α)
  | 0 => fun _ => throw .deep
  | depth + 1 => run library structs (answer depth)

/-- What an expression evaluates to, however deep calls may be nested beyond some depth. -/
def Evaluates (frame : Frame α) (expression : Expression) (outcome : Result (Datum α)) : Prop :=
  ∃ enough, ∀ depth, enough ≤ depth →
    evaluate library (answer library structs depth) frame expression = outcome

/-- What a call is answered with, however deep calls may be nested beyond some depth. -/
def Answers (call : Call α) (outcome : Result (Datum α)) : Prop :=
  ∃ enough, ∀ depth, enough ≤ depth → answer library structs depth call = outcome

variable {library structs} {frame : Frame α} {expression : Expression} {call : Call α}
  {outcome other : Result (Datum α)}

theorem Evaluates.of_depth (enough : Nat)
    (holds : ∀ further,
      evaluate library (answer library structs (further + enough)) frame expression = outcome) :
    Evaluates library structs frame expression outcome := by
  refine ⟨enough, ?_⟩
  intro depth deep
  obtain ⟨further, rfl⟩ := Nat.exists_eq_add_of_le' deep
  exact holds further

/-- What holds from some depth on can only be one thing. -/
theorem eventually_unique {values : Nat → β} {one another : β}
    (first : ∃ enough, ∀ depth, enough ≤ depth → values depth = one)
    (second : ∃ enough, ∀ depth, enough ≤ depth → values depth = another) : one = another := by
  obtain ⟨enough, holds⟩ := first
  obtain ⟨plenty, too⟩ := second
  exact (holds _ (Nat.le_max_left enough plenty)).symm.trans (too _ (Nat.le_max_right enough plenty))

theorem Evaluates.unique (one : Evaluates library structs frame expression outcome)
    (another : Evaluates library structs frame expression other) : outcome = other :=
  eventually_unique one another

theorem Answers.unique (one : Answers library structs call outcome)
    (another : Answers library structs call other) : outcome = other :=
  eventually_unique one another

theorem Answers.of_run (enough : Nat)
    (holds : ∀ depth, enough ≤ depth → run library structs (answer library structs depth) call = outcome) :
    Answers library structs call outcome := by
  refine ⟨enough + 1, ?_⟩
  intro depth deep
  obtain ⟨further, rfl⟩ := Nat.exists_eq_add_of_le' deep
  exact holds (further + enough) (Nat.le_add_left enough further)

end Program

end VectorForge.Proofs.CodeMeaning
