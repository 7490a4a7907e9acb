import Mathlib.Data.List.Nodup
import VectorForge.Proofs.AcceptedNames
import VectorForge.Proofs.MemberCode

/-! When the declarations of a struct fit the vector types they name. Only vectors have
components, and the generator counts them in several places: those of the struct, of a
sub-vector, of a mask and of a conversion's other end. -/

namespace VectorForge.Proofs.FamilyTyping
open CodeSyntax MemberCode AcceptedNames

def engineTypes : List (String × List String) :=
  [2, 3, 4].flatMap fun size =>
    let fields := ["X", "Y", "Z", "W"].take size
    [("Vector" ++ toString size, fields), ("Vector" ++ toString size ++ "I", fields)]

/-- All vector types that code can name, with their fields. -/
def vectorTypes : List (String × List String) :=
  VectorType.all.map (fun type => (type.name, each type Component.name)) ++ engineTypes

def fields? (type : String) : Option (List String) := vectorTypes.lookup type

def plainTypes : List String := ["int", "float", "double", "bool", "string", "object"]

def Named (type : String) : Prop :=
  type ∈ plainTypes ∨ type ∈ engineTypes.map Prod.fst ∨
    ∃ generated ∈ VectorType.all, type = generated.name

/-- The static classes whose routines bodies call. -/
def staticClasses : List String := ["Mathf", "Toolbox", "HashCode"]

structure Context where
  fields : List String
  scope : List (String × String)

/-- An expression fits where `new` has to take `count` arguments, or cannot stand at all.
A bare name is a variable or else a field, and what is selected is a field of its object. -/
inductive Context.Fits (context : Context) : (count : Option Nat) → Expression → Prop where
  | variable {count name type} : context.scope.lookup name = some type →
      Fits context count (.name name)
  | field {count name} : context.scope.lookup name = none → name ∈ context.fields →
      Fits context count (.name name)
  | this {count} : Fits context count .this
  | number {count value} : Fits context count (.number value)
  | literal {count text} : Fits context count (.literal text)
  | shown {count label parts} : (∀ part ∈ parts, Fits context none part) →
      Fits context count (.shown label parts)
  | selectVariable {count name type fields component} : context.scope.lookup name = some type →
      fields? type = some fields → component ∈ fields →
      Fits context count (.select (.name name) component)
  | selectThis {count component} : component ∈ context.fields →
      Fits context count (.select .this component)
  | entry {count indices} : (∀ index ∈ indices, Fits context none index) →
      Fits context count (.entry indices)
  | call {count method arguments} : (∀ argument ∈ arguments, Fits context none argument) →
      Fits context count (.call method arguments)
  | routine {count holder method arguments} : holder ∈ staticClasses →
      (∀ argument ∈ arguments, Fits context none argument) →
      Fits context count (.invoke (.name holder) method arguments)
  | invoke {count object method arguments} : Fits context none object →
      (∀ argument ∈ arguments, Fits context none argument) →
      Fits context count (.invoke object method arguments)
  | build {arguments} : (∀ argument ∈ arguments, Fits context none argument) →
      Fits context (some arguments.length) (.build arguments)
  | raise {count fault arguments} : (∀ argument ∈ arguments, Fits context none argument) →
      Fits context count (.raise fault arguments)
  | group {count inner} : Fits context none inner → Fits context count (.group inner)
  | negative {count operand} : Fits context none operand → Fits context count (.negative operand)
  | cast {count type operand} : type ∈ plainTypes → Fits context none operand →
      Fits context count (.cast type operand)
  | chain {count symbol operands} : (∀ operand ∈ operands, Fits context none operand) →
      Fits context count (.chain symbol operands)
  | choice {count condition first second} : Fits context none condition → Fits context none first →
      Fits context none second → Fits context count (.choice condition first second)
  | test {count object type bound} : Fits context none object → Named type →
      Fits context count (.test object type bound)

def isComparison : Role → Bool
  | .operator symbol _ => symbol ∈ comparisonSymbols
  | _ => false

section Declarations
variable (type mask : VectorType)

/-- How many arguments `new` takes in the body of a member: one for each component of the
result. A comparison leaves out those that only one of the operands and the mask have. -/
inductive Takes (role : Role) : Option Nat → Prop where
  | nothing : fields? (role.result) = none → Takes role none
  | components {fields} : isComparison role = false →
      fields? (role.result) = some fields → Takes role (some fields.length)
  | shared {fields} : isComparison role = true → role.result = mask.name →
      fields? mask.name = some fields →
      min type.dimension.size mask.dimension.size ≤ fields.length →
      Takes role (some (min type.dimension.size mask.dimension.size))

def signatureTypes : Declaration → List String
  | .constant type _ _ | .fields type _ => [type]
  | .constructor type parameters _ => type :: parameters.map Parameter.type
  | .numbered type index _ _ => [type, index.type]
  | .indexer type indices _ _ => type :: indices.map Parameter.type
  | .operation declared => declared.role.result :: declared.parameters.map Parameter.type
  | .spread heading _ => heading.role.result :: heading.parameters.map Parameter.type

def Context.Assigns (context : Context) (assignments : List Assignment) : Prop :=
  ∀ assignment ∈ assignments,
    context.Fits none assignment.target ∧ context.Fits none assignment.value

def BodyFits (context : Context) : Declaration → Prop
  | .constant type _ value =>
    (∃ fields, fields? type = some fields ∧ 2 ≤ fields.length) ∧ context.Fits (some 2) value
  | .fields _ names => names = context.fields
  | .constructor _ _ body => context.Assigns body
  | .numbered _ _ arms otherwise =>
    (∀ arm ∈ arms, context.Fits none arm.2) ∧ context.Fits none otherwise
  | .indexer type _ getter setter =>
    ∃ fields, fields? type = some fields ∧ context.Fits (some fields.length) getter ∧
      ∀ assignments, setter = some assignments → context.Assigns assignments
  | .operation declared =>
    ∃ count, Takes type mask declared.role count ∧ context.Fits count declared.body
  | .spread heading arguments =>
    ∃ count, Takes type mask heading.role count ∧ context.Fits count (.build arguments)

structure DeclarationFits (declaration : Declaration) : Prop where
  named : ∀ name ∈ signatureTypes declaration, Named name
  /-- What a variable is called is an identifier and no keyword. -/
  identifiers : ∀ name ∈ declaration.scope.map Prod.fst,
    Config.isIdentifier name = true ∧ name ∉ Config.keywords
  distinct : (declaration.scope.map Prod.fst).Nodup
  body : BodyFits type mask ⟨each type Component.name, declaration.scope⟩ declaration

/-- What a member of a struct is told apart by: its name and the types of its parameters. -/
def headingSignature (heading : Heading) : String × List String :=
  (heading.role.name, heading.parameters.map Parameter.type)

def signatures : Declaration → List (String × List String)
  | .constant _ name _ => [(name, [])]
  | .fields _ names => names.map fun name => (name, [])
  | .constructor type parameters _ => [(type, parameters.map Parameter.type)]
  | .numbered _ index _ _ => [("this", [index.type])]
  | .indexer _ indices _ _ => [("this", indices.map Parameter.type)]
  | .operation declared => [headingSignature declared.toHeading]
  | .spread heading _ => [headingSignature heading]

/-- The types that a declaration converts between, from the one to the other. -/
def conversion? : Declaration → Option (String × String)
  | .operation declared =>
    match declared.role, declared.parameters with
    | .conversion target _, [source] => some (source.type, target)
    | _, _ => none
  | _ => none

structure StructFits (struct : Struct) : Prop where
  name : struct.name = type.name
  declarations : ∀ declaration ∈ struct.declarations, DeclarationFits type mask declaration
  /-- One of the constructors has a parameter for each component. -/
  constructed : ∃ parameters body, .constructor type.name parameters body ∈ struct.declarations ∧
    parameters.map Parameter.name = each type Component.name
  signatures : (struct.declarations.flatMap signatures).Nodup

end Declarations

variable {type mask : VectorType} {names : ArgumentNames}

theorem fields_generated (type : VectorType) : fields? type.name = some (each type Component.name) := by
  obtain ⟨kind, dimension⟩ := type
  cases kind <;> cases dimension <;> rfl

theorem mem_all (type : VectorType) : type ∈ VectorType.all := by
  obtain ⟨kind, dimension⟩ := type
  cases kind <;> cases dimension <;> decide

theorem names_distinct : (VectorType.all.map VectorType.name).Nodup := by
  decide

theorem name_injective {first second : VectorType} (same : first.name = second.name) :
    first = second :=
  List.inj_on_of_nodup_map names_distinct (mem_all first) (mem_all second) same

theorem named_generated (type : VectorType) : Named type.name := .inr (.inr ⟨type, mem_all type, rfl⟩)

theorem named_element (kind : Kind) : Named kind.element := by
  refine .inl ?_
  cases kind <;> decide

theorem named_int : Named "int" := .inl (by decide)

theorem named_bool : Named "bool" := .inl (by decide)

theorem named_string : Named "string" := .inl (by decide)

theorem named_object : Named "object" := .inl (by decide)

theorem two_le_size (type : VectorType) : 2 ≤ type.dimension.size := by
  cases type.dimension <;> decide

@[simp] theorem length_each (type : VectorType) (form : Component → α) :
    (each type form).length = type.dimension.size := by
  obtain ⟨kind, dimension⟩ := type
  cases dimension <;> rfl

theorem forall_each {form : Component → α} {property : α → Prop}
    (holds : ∀ component ∈ type.dimension.components, property (form component)) :
    ∀ item ∈ each type form, property item := by
  intro item member
  obtain ⟨component, inside, rfl⟩ := List.mem_map.mp member
  exact holds component inside

section Expressions
variable {context : Context} {count : Option Nat}

theorem part_fits {vector : String} {source : VectorType} {component : Component}
    (found : context.scope.lookup vector = some source.name)
    (inside : component ∈ source.dimension.components) : context.Fits count (part vector component) :=
  .selectVariable found (fields_generated source) (List.mem_map_of_mem inside)

theorem own_fits {component : Component} (shown : context.scope.lookup component.name = none)
    (inside : component.name ∈ context.fields) : context.Fits count (own component) :=
  .field shown inside

theorem pair_fits {symbol : String} {left right : Expression} (first : context.Fits none left)
    (second : context.Fits none right) : context.Fits count (pair symbol left right) :=
  .chain (by simp [first, second])

theorem name_fits {name : String} (type : String)
    (found : context.scope.lookup name = some type) : context.Fits count (.name name) :=
  .variable found

theorem arguments_fit {arguments : List Expression} {size : Nat} (length : arguments.length = size)
    (fits : ∀ argument ∈ arguments, context.Fits none argument) :
    context.Fits (some size) (.build arguments) := length ▸ .build fits

theorem build_fits {form : Component → Expression}
    (fits : ∀ component ∈ type.dimension.components, context.Fits none (form component)) :
    context.Fits (some type.dimension.size) (.build (each type form)) :=
  arguments_fit (length_each type form) (forall_each fits)

end Expressions

/-- Parameters with known types and with different names, all of them identifiers. -/
structure ParametersFit (parameters : List Parameter) : Prop where
  named : ∀ name ∈ parameters.map Parameter.type, Named name
  identifiers : ∀ name ∈ parameters.map Parameter.name,
    Config.isIdentifier name = true ∧ name ∉ Config.keywords
  distinct : (parameters.map Parameter.name).Nodup

theorem names_of_variables (parameters : List Parameter) :
    (parameterVariables parameters).map Prod.fst = parameters.map Parameter.name := by
  simp [parameterVariables, Function.comp_def]

theorem operation_fits {operation : Operation} {count : Option Nat}
    (plain : operation.body.tested = []) (returned : Named operation.role.result)
    (given : ParametersFit operation.parameters) (takes : Takes type mask operation.role count)
    (fits : Context.Fits ⟨each type Component.name, parameterVariables operation.parameters⟩ count
      operation.body) : DeclarationFits type mask (.operation operation) := by
  have scope : (Declaration.operation operation).scope =
      parameterVariables operation.parameters := by simp [Declaration.scope, plain]
  constructor
  · simpa [signatureTypes, returned] using given.named
  · rw [scope, names_of_variables]
    exact given.identifiers
  · rw [scope, names_of_variables]
    exact given.distinct
  · rw [scope]
    exact ⟨count, takes, fits⟩

theorem takes_generated {role : Role} {target : VectorType} (plain : isComparison role = false)
    (returned : role.result = target.name) : Takes type mask role (some target.dimension.size) := by
  have takes : Takes type mask role (some (each target Component.name).length) := .components plain
    (by rw [returned]; exact fields_generated target)
  rwa [length_each] at takes

theorem vectorPair_fits (accepted : Accepted names) : ParametersFit (vectorPair type names) := by
  constructor
  · simp [vectorPair, named_generated]
  · have first := accepted.first
    have second := accepted.second
    simp [vectorPair, first.identifier, first.keyword, second.identifier, second.keyword]
  · simpa [vectorPair] using accepted.second_ne_first.symm

theorem sourceVector_fits {source : String} (accepted : Accepted names) (named : Named source) :
    ParametersFit (sourceVector source names) := by
  have single := accepted.single
  constructor <;> simp [sourceVector, named, single.identifier, single.keyword]

theorem operands_fit {symbol : String} {count : Option Nat} {component : Component}
    {fields : List String} (accepted : Accepted names)
    (inside : component ∈ type.dimension.components) :
    Context.Fits ⟨fields, parameterVariables (vectorPair type names)⟩ count
      (pair symbol (part names.first component) (part names.second component)) := by
  refine pair_fits (part_fits ?_ inside) (part_fits ?_ inside)
  · simp [parameterVariables, vectorPair]
  · simp [parameterVariables, vectorPair, List.lookup_cons, beq_false_of_ne accepted.second_ne_first]

theorem single_fits {count : Option Nat} {component : Component} {source : VectorType}
    {fields : List String} (inside : component ∈ source.dimension.components) :
    Context.Fits ⟨fields, parameterVariables (sourceVector source.name names)⟩ count
      (part names.single component) :=
  part_fits (by simp [parameterVariables, sourceVector]) inside

theorem own_beside {name source : String} {count : Option Nat} {component : Component}
    (usable : Usable name) (inside : component ∈ type.dimension.components) :
    Context.Fits ⟨each type Component.name, [(name, source)]⟩ count (own component) :=
  own_fits (by simp [List.lookup_cons, beq_false_of_ne (usable.ne_component component)])
    (List.mem_map_of_mem inside)

theorem own_alone {count : Option Nat} {component : Component}
    (inside : component ∈ type.dimension.components) :
    Context.Fits ⟨each type Component.name, []⟩ count (own component) :=
  own_fits rfl (List.mem_map_of_mem inside)

theorem fields_element (kind : Kind) : fields? kind.element = none := by
  cases kind <;> rfl

theorem noParameters_fit : ParametersFit [] := by
  constructor <;> simp

end VectorForge.Proofs.FamilyTyping
