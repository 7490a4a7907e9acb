import VectorForge.Proofs.MemberCode

/-! The code of the conversions. The engine's vectors spell the components with capital
letters and have at most four of them. -/

namespace VectorForge.Proofs.ConversionCode
open CodeSyntax TemplateText MemberCode

variable (formatter : Formatter)

def engineField : Component → String
  | .x => "X"
  | .y => "Y"
  | .z => "Z"
  | .w => "W"
  | .c4 => ""

theorem engineName_eq {component : Component} (named : component ≠ .c4) :
    component.engineName = .ok (engineField component) := by
  cases component <;> first | rfl | contradiction

/-- Only vectors of five components have one without a letter. -/
theorem unnamed_notMem {dimension : Dimension} (small : dimension.size ≤ 4) :
    Component.c4 ∉ dimension.components := by
  cases dimension with
  | two | three | four => decide
  | five => simp [Dimension.size] at small

def rounding (type : VectorType) (mode : Rounding) : Operation where
  role := .method (mode.verb ++ "ToInt") (VectorType.mk .int type.dimension).name
  body := .build (each type fun component =>
    routine "Mathf" (mode.verb ++ "ToInt") [own component])

theorem rounding_eq (mode : Rounding) :
    Members.rounding formatter mode = .ok (rounding formatter.target mode).member := by
  have filled (component : Component) :
      formatter.formatAt component "Mathf.{MODE}ToInt({L})" [("MODE", mode.verb)] =
        .ok (routine "Mathf" (mode.verb ++ "ToInt") [own component]).text := by
    have text : (routine "Mathf" (mode.verb ++ "ToInt") [own component]).text =
        "Mathf." ++ mode.verb ++ "ToInt(" ++ component.name ++ ")" := by
      simp [routine, own, Expression.text, Expression.texts, String.append_assoc]
    rw [text]
    exact render_of_segments [.text "Mathf.", .slot "MODE", .text "ToInt(", .slot "L",
      .text ")"] rfl rfl
  simp only [Members.rounding, arguments_eq formatter filled, bind, Except.bind, pure, Except.pure]
  rfl

def toEngine (type : VectorType) (names : ArgumentNames) (engine : String) (isImplicit : Bool) :
    Operation where
  role := .conversion engine isImplicit
  parameters := sourceVector type.name names
  body := .build (each type (part names.single))

theorem toEngine_eq (engine : String) (isImplicit : Bool) :
    Members.toEngine formatter engine isImplicit =
      .ok (toEngine formatter.target formatter.options.arguments engine isImplicit).member := by
  have filled (component : Component) : formatter.formatAt component "{VA}.{L}" =
      .ok (part formatter.options.arguments.single component).text :=
    render_of_segments [.slot "VA", .text ".", .slot "L"] rfl rfl
  simp only [Members.toEngine, singleVector_eq, arguments_eq formatter filled, bind, Except.bind,
    pure, Except.pure]
  rfl

def fromEngine (type : VectorType) (names : ArgumentNames) (engine : String) (isImplicit : Bool) :
    Operation where
  role := .conversion type.name isImplicit
  parameters := sourceVector engine names
  body := .build (each type fun component => .select (.name names.single) (engineField component))

theorem fromEngine_eq (engine : String) (isImplicit : Bool)
    (named : formatter.target.dimension.size ≤ 4) :
    Members.fromEngine formatter engine isImplicit =
      .ok (fromEngine formatter.target formatter.options.arguments engine isImplicit).member := by
  have lettered : ∀ component ∈ formatter.dimension.components,
      component.engineName = .ok (engineField component) := by
    intro component member
    apply engineName_eq
    rintro rfl
    exact unnamed_notMem named member
  simp only [Members.fromEngine, mapM_ok lettered, sourceVector_eq, bind, Except.bind, pure,
    Except.pure]
  simp only [fromEngine, Operation.member, Heading.member, Expression.text, each,
    Expression.texts_map, List.map_map]
  rfl

/-- A component of the source, cast where the conversion is explicit. -/
def castPart (type : VectorType) (names : ArgumentNames) (isImplicit : Bool)
    (component : Component) : Expression :=
  if isImplicit then part names.single component
  else .cast type.kind.element (part names.single component)

def fromKind (type : VectorType) (names : ArgumentNames) (source : Kind) (isImplicit : Bool) :
    Operation where
  role := .conversion type.name isImplicit
  parameters := sourceVector (VectorType.mk source type.dimension).name names
  body := .build (each type (castPart type names isImplicit))

theorem fromKind_eq (source : Kind) (isImplicit : Bool) :
    Members.fromKind formatter source isImplicit =
      .ok (fromKind formatter.target formatter.options.arguments source isImplicit).member := by
  let cast := if isImplicit then "" else "(" ++ formatter.element ++ ")"
  have filled (component : Component) :
      formatter.formatAt component "{CAST}{VA}.{L}" [("CAST", cast)] =
        .ok (castPart formatter.target formatter.options.arguments isImplicit component).text := by
    have text : (castPart formatter.target formatter.options.arguments isImplicit component).text =
        cast ++ formatter.options.arguments.single ++ "." ++ component.name := by
      cases isImplicit <;>
        simp [castPart, cast, part, Expression.text, Formatter.element, String.append_assoc]
    rw [text]
    exact render_of_segments [.slot "CAST", .slot "VA", .text ".", .slot "L"] rfl rfl
  simp only [Members.fromKind, sourceVector_eq, cast, arguments_eq formatter filled, bind,
    Except.bind, pure, Except.pure]
  rfl

def conversion (type : VectorType) (names : ArgumentNames) : Conversion → Operation
  | .rounding mode => rounding type mode
  | .toEngine engine isImplicit => toEngine type names engine isImplicit
  | .fromEngine engine isImplicit => fromEngine type names engine isImplicit
  | .fromKind source isImplicit => fromKind type names source isImplicit

def conversions (type : VectorType) (names : ArgumentNames) : List Operation :=
  type.conversions.map (conversion type names)

theorem size_of_fromEngine {type : VectorType} {engine : String} {isImplicit : Bool}
    (declared : .fromEngine engine isImplicit ∈ type.conversions) : type.dimension.size ≤ 4 := by
  obtain ⟨kind, dimension⟩ := type
  cases dimension with
  | two | three | four => simp [Dimension.size]
  | five =>
    cases kind <;> simp [VectorType.conversions, VectorType.engineVector?, VectorType.kindSources,
      Dimension.size] at declared

theorem conversions_eq :
    Members.conversions formatter =
      .ok ((conversions formatter.target formatter.options.arguments).map Operation.member) := by
  have made : ∀ step ∈ formatter.target.conversions, Members.conversion formatter step =
      .ok (conversion formatter.target formatter.options.arguments step).member := by
    intro step declared
    cases step with
    | rounding mode => exact rounding_eq formatter mode
    | toEngine engine isImplicit => exact toEngine_eq formatter engine isImplicit
    | fromEngine engine isImplicit =>
      exact fromEngine_eq formatter engine isImplicit (size_of_fromEngine declared)
    | fromKind source isImplicit => exact fromKind_eq formatter source isImplicit
  rw [Members.conversions, mapM_ok made]
  simp [conversions]

end VectorForge.Proofs.ConversionCode
