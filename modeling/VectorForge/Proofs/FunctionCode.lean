import VectorForge.Members.Functions
import VectorForge.Proofs.MemberCode

/-! The code of the functions and the conversions. -/

namespace VectorForge.Proofs.FunctionCode
open CodeSyntax TemplateText MemberCode

variable (formatter : Formatter)

/-- The static class that has the square root of a kind. -/
def rootHolder : Kind → String
  | .int => "Toolbox"
  | _ => "Mathf"

def rootMethod : Kind → String
  | .int => "ISqrt"
  | _ => "Sqrt"

def rootName (kind : Kind) : String := rootHolder kind ++ "." ++ rootMethod kind

theorem squareRoot_eq {kind : Kind} (numeric : kind.isNumeric) :
    kind.squareRoot = .ok (rootName kind) := by
  cases kind <;> first | rfl | cases numeric

/-- A routine of two arguments folded over the components. -/
def nested (method : String) : List Component → Expression
  | [] => .name ""
  | [component] => own component
  | component :: rest => routine "Mathf" method [own component, nested method rest]

theorem nested_text (method : String) (components : List Component) :
    Formatter.nest ("Mathf." ++ method) (components.map Component.name) =
      (nested method components).text := by
  induction components with
  | nil => rfl
  | cons component rest ih =>
    cases rest with
    | nil => rfl
    | cons next rest =>
      simp only [List.map_cons] at ih
      simp [Formatter.nest, nested, routine, own, Expression.text, Expression.texts, ih, String.append_assoc]

theorem nested_tested (method : String) (components : List Component) :
    (nested method components).tested = [] := by
  induction components with
  | nil => rfl
  | cons component rest ih =>
    cases rest with
    | nil => rfl
    | cons next rest => simp [nested, routine, own, Expression.tested, Expression.testedIn, ih]

def sqrMagnitude (type : VectorType) : Operation where
  role := .method "SqrMagnitude" type.kind.element
  body := .chain "+" (each type fun component => pair "*" (own component) (own component))

def magnitude (type : VectorType) : Operation where
  role := .method "Magnitude" type.kind.element
  body := routine (rootHolder type.kind) (rootMethod type.kind) [.call "SqrMagnitude" []]

def normalized (type : VectorType) : Operation where
  role := .method "Normalized" type.name
  body := pair "/" .this (.call "Magnitude" [])

def absolute (type : VectorType) : Operation where
  role := .method "Abs" type.name
  body := .build (each type fun component => routine "Mathf" "Abs" [own component])

def extreme (type : VectorType) (name method : String) : Operation where
  role := .method name type.kind.element
  body := nested method type.dimension.components

def sqrDistance (type : VectorType) : Operation where
  role := .method "SqrDistance" type.kind.element
  parameters := [{ type := type.name, name := "other" }]
  body := .invoke (.group (pair "-" (.name "other") .this)) "SqrMagnitude" []

def distance (type : VectorType) (names : ArgumentNames) : Operation where
  role := .method "Distance" type.kind.element
  parameters := sourceVector type.name names
  body := routine (rootHolder type.kind) (rootMethod type.kind)
    [.call "SqrDistance" [.name names.single]]

def measures (type : VectorType) : List Operation :=
  [sqrMagnitude type, magnitude type, normalized type, absolute type,
    extreme type "MinValue" "Min", extreme type "MaxValue" "Max"]

theorem measures_eq :
    Members.measures formatter (rootName formatter.target.kind) =
      .ok ((measures formatter.target).map Operation.member) := by
  have square (component : Component) : formatter.formatAt component "{L} * {L}" =
      .ok (pair "*" (own component) (own component)).text := by
    rw [pair_text]
    exact render_of_segments [.slot "L", .text " ", .text "*", .text " ", .slot "L"] rfl rfl
  have positive (component : Component) : formatter.formatAt component "Mathf.Abs({L})" =
      .ok (routine "Mathf" "Abs" [own component]).text :=
    render_of_segments [.text "Mathf.Abs(", .slot "L", .text ")"] rfl rfl
  have squares := chain_eq formatter "+" square
  have least := nested_text "Min" formatter.target.dimension.components
  have greatest := nested_text "Max" formatter.target.dimension.components
  simp only [String.reduceAppend] at squares least greatest
  simp only [Members.measures, squares, arguments_eq formatter positive, bind, Except.bind, pure,
    Except.pure, Formatter.nestedCall, Formatter.dimension, least, greatest]
  have root : (magnitude formatter.target).body.text =
      rootName formatter.target.kind ++ "(SqrMagnitude())" := by
    simp [magnitude, routine, rootName, Expression.text, Expression.texts, String.append_assoc]
  rw [← root]
  rfl

def distances (type : VectorType) (names : ArgumentNames) : List Operation :=
  [sqrDistance type, distance type names]

theorem distances_eq :
    Members.distances formatter (rootName formatter.target.kind) =
      .ok ((distances formatter.target formatter.options.arguments).map Operation.member) := by
  have other : formatter.format "in {T} other" =
      .ok (parametersText [{ type := formatter.target.name, name := "other" }]) := by
    rw [reference_text]
    exact render_of_segments [.text "in ", .slot "T", .text " ", .text "other"] rfl rfl
  let root := rootName formatter.target.kind
  have body : formatter.format "{SQRT}(SqrDistance({VA}))" [("SQRT", root)] =
      .ok (distance formatter.target formatter.options.arguments).body.text := by
    have filled : formatter.format "{SQRT}(SqrDistance({VA}))" [("SQRT", root)] =
        .ok (root ++ "(" ++ "SqrDistance" ++ "(" ++ formatter.options.arguments.single ++ ")" ++ ")") :=
      render_of_segments [.slot "SQRT", .text "(", .text "SqrDistance", .text "(", .slot "VA",
        .text ")", .text ")"] rfl rfl
    rw [filled]
    simp [distance, routine, root, rootName, Expression.text, Expression.texts,
      String.append_assoc, -String.reduceAppend]
  simp only [Members.distances, other, singleVector_eq, body, root, bind, Except.bind, pure,
    Except.pure]
  rfl

/-- A method that builds a vector from one call for each component. -/
def componentCalls (type : VectorType) (name : String) (parameters : List Parameter)
    (form : Component → Expression) : Declaration :=
  .spread { role := .method name type.name, parameters, isInline := true } (each type form)

theorem componentCalls_eq {call : String} (name : String) (parameters : List Parameter)
    {form : Component → Expression}
    (filled : ∀ component, formatter.formatAt component call = .ok (form component).text) :
    Generates (Members.componentCalls formatter name (parametersText parameters) call)
      [componentCalls formatter.target name parameters form] := by
  have items : formatter.dimension.components.mapM (formatter.formatAt · call) =
      .ok (formatter.dimension.components.map fun component => (form component).text) :=
    mapM_ok fun component _ => filled component
  refine ⟨_, by simp only [Members.componentCalls, items]; rfl, fun region => ?_⟩
  rw [List.flatMap_singleton, componentCalls, ← spread_lines, each, Expression.texts_map]
  exact .spread _ _

/-- The component of the struct or that of the argument, whichever the routine chooses. -/
def chosen (names : ArgumentNames) (method : String) (component : Component) : Expression :=
  routine "Mathf" method [own component, part names.single component]

theorem chosen_text (names : ArgumentNames) (method : String) (component : Component) :
    (chosen names method component).text = "Mathf." ++ method ++ "(" ++ component.name ++ ", "
      ++ names.single ++ "." ++ component.name ++ ")" := by
  simp [chosen, routine, own, part, Expression.text, Expression.texts, String.append_assoc]

def clamped (component : Component) : Expression :=
  routine "Mathf" "Clamp" [own component, part "min" component, part "max" component]

theorem clamped_filled (component : Component) :
    formatter.formatAt component "Mathf.Clamp({L}, min.{L}, max.{L})" =
      .ok (clamped component).text := by
  have text : (clamped component).text = "Mathf" ++ "." ++ "Clamp" ++ "(" ++ component.name
      ++ ", " ++ "min" ++ "." ++ component.name ++ ", " ++ "max" ++ "." ++ component.name ++ ")" := by
    simp [clamped, routine, own, part, Expression.text, Expression.texts, String.append_assoc,
      -String.reduceAppend]
  rw [text]
  exact render_of_segments [.text "Mathf", .text ".", .text "Clamp", .text "(", .slot "L",
    .text ", ", .text "min", .text ".", .slot "L", .text ", ", .text "max", .text ".", .slot "L",
    .text ")"] rfl rfl

def range (type : VectorType) : List Parameter :=
  [{ type := type.name, name := "min" }, { type := type.name, name := "max" }]

theorem range_eq :
    formatter.format "in {T} min, in {T} max" = .ok (parametersText (range formatter.target)) := by
  rw [range, references_text]
  exact render_of_segments [.text "in ", .slot "T", .text " ", .text "min", .text ", ", .text "in ",
    .slot "T", .text " ", .text "max"] rfl rfl

def functions (type : VectorType) (names : ArgumentNames) : List Declaration :=
  ((measures type ++ distances type names).map Operation.inlined).map .operation
    ++ [componentCalls type "Min" (sourceVector type.name names) (chosen names "Min")]
    ++ [componentCalls type "Max" (sourceVector type.name names) (chosen names "Max")]
    ++ [componentCalls type "Clamp" (range type) clamped]

theorem functions_eq (numeric : formatter.target.kind.isNumeric) :
    Generates (Members.functions formatter)
      (functions formatter.target formatter.options.arguments) := by
  let names := formatter.options.arguments
  have least (component : Component) : formatter.formatAt component "Mathf.Min({L}, {VA}.{L})" =
      .ok (chosen names "Min" component).text := by
    rw [chosen_text]
    exact render_of_segments [.text "Mathf.", .text "Min", .text "(", .slot "L", .text ", ",
      .slot "VA", .text ".", .slot "L", .text ")"] rfl rfl
  have greatest (component : Component) : formatter.formatAt component "Mathf.Max({L}, {VA}.{L})" =
      .ok (chosen names "Max" component).text := by
    rw [chosen_text]
    exact render_of_segments [.text "Mathf.", .text "Max", .text "(", .slot "L", .text ", ",
      .slot "VA", .text ".", .slot "L", .text ")"] rfl rfl
  obtain ⟨first, firstMade, firstWrites⟩ := componentCalls_eq formatter "Min"
    (sourceVector formatter.target.name names) least
  obtain ⟨second, secondMade, secondWrites⟩ := componentCalls_eq formatter "Max"
    (sourceVector formatter.target.name names) greatest
  obtain ⟨third, thirdMade, thirdWrites⟩ := componentCalls_eq formatter "Clamp"
    (range formatter.target) (clamped_filled formatter)
  let short := (measures formatter.target ++ distances formatter.target names).map Operation.inlined
  refine ⟨.members (short.map Operation.member) ++ first ++ second ++ third, ?_, fun region => ?_⟩
  · have inlined : short.map Operation.member = ((measures formatter.target
        ++ distances formatter.target names).map Operation.member).map Member.inlined := by
      simp only [short, List.map_map]
      rfl
    simp only [Members.functions, squareRoot_eq numeric, measures_eq, distances_eq,
      singleVector_eq, range_eq, firstMade, secondMade, thirdMade, bind, Except.bind, pure,
      Except.pure, inlined, List.map_append, names]
  · simp only [functions, List.flatMap_append]
    exact (((operations_written region short).append (firstWrites region)).append
      (secondWrites region)).append (thirdWrites region)

end VectorForge.Proofs.FunctionCode
