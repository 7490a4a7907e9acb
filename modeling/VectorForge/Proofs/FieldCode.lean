import VectorForge.Members.Constructors
import VectorForge.Members.Indexers
import VectorForge.Members.Properties
import VectorForge.Proofs.MemberCode

/-! The code of the members that stand for the components themselves: fields, constants,
properties of boolean vectors, constructors and indexers. -/

namespace VectorForge.Proofs.FieldCode
open CodeSyntax ProgramText TemplateText MemberCode
open Formatter (comma)

variable (formatter : Formatter)

def constantValue (x y : Int) : Expression := .build [.number x, .number y]

theorem constant_eq (name : String) (x y : Int) :
    Members.constant formatter name x y =
      .ok (constantText formatter.target.name name (constantValue x y)) := by
  have text : constantText formatter.target.name name (constantValue x y) =
      "public static readonly " ++ formatter.target.name ++ " " ++ name ++ " = " ++ "new("
        ++ toString x ++ ", " ++ toString y ++ ")" ++ ";" := by
    unfold constantText
    simp [constantValue, Expression.text, Expression.texts, String.append_assoc,
      -String.reduceAppend]
  rw [text]
  exact render_of_segments [.text "public static readonly ", .slot "T", .text " ", .slot "NAME",
    .text " = ", .text "new(", .slot "X", .text ", ", .slot "Y", .text ")", .text ";"] rfl rfl

theorem fields_eq :
    Members.fields formatter =
      .ok (fieldsText formatter.target.kind.element (each formatter.target Component.name)) := by
  let names := comma.intercalate (each formatter.target Component.name)
  have filled : formatter.format "public {NT} {FIELDS};" [("FIELDS", names)] =
      .ok (fieldsText formatter.target.kind.element (each formatter.target Component.name)) :=
    render_of_segments [.text "public ", .slot "NT", .text " ", .slot "FIELDS", .text ";"] rfl rfl
  simp only [names] at filled
  simp only [Members.fields, names_eq, filled, bind, Except.bind]

def fields (type : VectorType) : Declaration :=
  .fields type.kind.element (each type Component.name)

def numericProperties (type : VectorType) : List Declaration :=
  Members.namedConstants.map (fun (name, x, y) => .constant type.name name (constantValue x y))
    ++ [fields type]

theorem numericProperties_eq :
    Generates (Members.numericProperties formatter) (numericProperties formatter.target) := by
  let text : String × Int × Int → String := fun (name, x, y) =>
    constantText formatter.target.name name (constantValue x y)
  have constants : Members.namedConstants.mapM
      (fun (name, x, y) => Members.constant formatter name x y) =
        .ok (Members.namedConstants.map text) :=
    mapM_ok fun (name, x, y) _ => constant_eq formatter name x y
  refine ⟨_, by simp only [Members.numericProperties, constants, fields_eq]; rfl, fun region => ?_⟩
  exact Writes.writeAll (Members.namedConstants.map text
    ++ [fieldsText formatter.target.kind.element (each formatter.target Component.name)])

def adjacent : List Component → List Expression
  | first :: second :: rest => pair "==" (own first) (own second) :: adjacent (second :: rest)
  | _ => []

theorem adjacent_texts (components : List Component) :
    Members.adjacent (components.map Component.name) = Expression.texts (adjacent components) := by
  induction components with
  | nil => rfl
  | cons first rest ih =>
    cases rest with
    | nil => rfl
    | cons second rest =>
      rw [List.map_cons, List.map_cons, Members.adjacent, ← List.map_cons, ih, adjacent,
        Expression.texts, pair_text]
      simp [own, Expression.text, String.append_assoc]

theorem adjacent_tested (components : List Component) :
    Expression.testedIn (adjacent components) = [] := by
  induction components with
  | nil => rfl
  | cons first rest ih =>
    cases rest with
    | nil => rfl
    | cons second rest =>
      rw [adjacent, Expression.testedIn, ih]
      rfl

/-- One for a component that holds, zero for another. -/
def counted (component : Component) : Expression :=
  .group (.choice (own component) (.number 1) (.number 0))

def maskProperties (type : VectorType) : List Operation :=
  [{ role := .property "AllTrue" "bool", body := .chain "&&" (each type own) },
    { role := .property "AnyTrue" "bool", body := .chain "||" (each type own) },
    { role := .property "AllEqual" "bool", body := .chain "&&" (adjacent type.dimension.components) },
    { role := .property "TrueCount" "int", body := .chain "+" (each type counted) }]

theorem maskProperties_eq :
    Members.maskProperties formatter =
      .ok ((maskProperties formatter.target).map Operation.member) := by
  have one (component : Component) : formatter.formatAt component "({L} ? 1 : 0)" =
      .ok (counted component).text := by
    have text : (counted component).text =
        "(" ++ component.name ++ " ? " ++ "1" ++ " : " ++ "0" ++ ")" := by
      simp only [counted, own, Expression.text, String.append_assoc]
      rfl
    rw [text]
    exact render_of_segments [.text "(", .slot "L", .text " ? ", .text "1", .text " : ", .text "0",
      .text ")"] rfl rfl
  have all := chain_eq formatter "&&" (own_filled formatter)
  have any := chain_eq formatter "||" (own_filled formatter)
  have count := chain_eq formatter "+" one
  simp only [String.reduceAppend] at all any count
  simp only [Members.maskProperties, Formatter.names, all, any, count, Formatter.dimension,
    adjacent_texts, bind, Except.bind, pure, Except.pure]
  rfl

def booleanProperties (type : VectorType) : List Declaration :=
  fields type :: (maskProperties type).map .operation

theorem booleanProperties_eq :
    Generates (Members.booleanProperties formatter) (booleanProperties formatter.target) :=
  ⟨_, by simp only [Members.booleanProperties, fields_eq, maskProperties_eq]; rfl,
    fun region => (Writes.write _).append (operations_written region _)⟩

theorem assignments_eq {template : String} {form : Component → Assignment}
    (filled : ∀ component, formatter.formatAt component template = .ok (form component).text) :
    formatter.sequence template " " = .ok (assignmentsText (each formatter.target form)) := by
  rw [assignmentsText, each, List.map_map]
  exact sequence_eq formatter filled " "

def broadcastParameter (type : VectorType) (names : ArgumentNames) : Parameter where
  type := type.kind.element
  name := names.scalar
  isReference := false

def broadcastBody (type : VectorType) (names : ArgumentNames) : List Assignment :=
  each type fun component => ⟨own component, .name names.scalar⟩

theorem broadcast_eq :
    Members.broadcast formatter = .ok (constructorText formatter.target.name
      [broadcastParameter formatter.target formatter.options.arguments]
      (broadcastBody formatter.target formatter.options.arguments)) := by
  let names := formatter.options.arguments
  have body : formatter.sequence "{L} = {NA};" " " =
      .ok (assignmentsText (broadcastBody formatter.target names)) :=
    assignments_eq formatter fun _ =>
      render_of_segments [.slot "L", .text " = ", .slot "NA", .text ";"] rfl rfl
  simp only [names] at body
  have text : constructorText formatter.target.name [broadcastParameter formatter.target names]
        (broadcastBody formatter.target names) =
      "public " ++ formatter.target.name ++ "(" ++ formatter.target.kind.element ++ " "
        ++ names.scalar ++ ") \x7b " ++ assignmentsText (broadcastBody formatter.target names)
        ++ " \x7d" := by
    unfold constructorText
    simp [parametersText, Parameter.text, broadcastParameter, String.append_assoc]
  simp only [Members.broadcast, body, bind, Except.bind]
  rw [text]
  exact render_of_segments [.text "public ", .slot "T", .text "(", .slot "NT", .text " ",
    .slot "NA", .text ") \x7b ", .slot "BODY", .text " \x7d"] rfl rfl

/-- A parameter of its own for a component; it can be left out. -/
def componentParameter (type : VectorType) (component : Component) : Parameter where
  type := type.kind.element
  name := component.name
  isReference := false
  preset := some type.kind.defaultLiteral

def componentwiseBody (type : VectorType) : List Assignment :=
  each type fun component => ⟨.select .this component.name, own component⟩

theorem componentwise_eq :
    Members.componentwise formatter = .ok (constructorText formatter.target.name
      (each formatter.target (componentParameter formatter.target))
      (componentwiseBody formatter.target)) := by
  have parameter (component : Component) :
      formatter.formatAt component "{NT} {L} = {DEFAULT}"
          [("DEFAULT", formatter.target.kind.defaultLiteral)] =
        .ok (componentParameter formatter.target component).text := by
    have text : (componentParameter formatter.target component).text =
        formatter.target.kind.element ++ " " ++ component.name ++ " = "
          ++ formatter.target.kind.defaultLiteral := by
      simp [Parameter.text, componentParameter, String.append_assoc]
    rw [text]
    exact render_of_segments [.slot "NT", .text " ", .slot "L", .text " = ", .slot "DEFAULT"] rfl rfl
  have parameters : formatter.sequence "{NT} {L} = {DEFAULT}" comma
      [("DEFAULT", formatter.target.kind.defaultLiteral)] =
        .ok (parametersText (each formatter.target (componentParameter formatter.target))) := by
    rw [parametersText, each, List.map_map]
    exact sequence_eq formatter parameter comma
  have body : formatter.sequence "this.{L} = {L};" " " =
      .ok (assignmentsText (componentwiseBody formatter.target)) :=
    assignments_eq formatter fun _ =>
      render_of_segments [.text "this", .text ".", .slot "L", .text " = ", .slot "L", .text ";"]
        rfl rfl
  simp only [Members.componentwise, parameters, body, bind, Except.bind]
  exact render_of_segments [.text "public ", .slot "T", .text "(", .slot "PARAMS",
    .text ") \x7b ", .slot "BODY", .text " \x7d"] rfl rfl

def constructors (type : VectorType) (names : ArgumentNames) : List Declaration :=
  [.constructor type.name [broadcastParameter type names] (broadcastBody type names),
    .constructor type.name (each type (componentParameter type)) (componentwiseBody type)]

theorem constructors_eq :
    Generates (Members.constructors formatter)
      (constructors formatter.target formatter.options.arguments) :=
  ⟨_, by simp only [Members.constructors, broadcast_eq, componentwise_eq]; rfl,
    fun _ => Writes.writeAll _⟩

def index : Parameter where
  type := "int"
  name := "ix"
  isReference := false

/-- What the indexer of single components does with any other number. -/
def outOfRange (type : VectorType) : Expression :=
  .raise "ArgumentOutOfRangeException" [.call "nameof" [.name "ix"], .name "ix",
    .literal (type.name ++ " component index must be in [0, " ++ toString (type.dimension.size - 1)
      ++ "]")]

def componentIndexer (type : VectorType) : Declaration :=
  .numbered type.kind.element index (each type fun component => (component.index, own component))
    (outOfRange type)

theorem outOfRange_eq : Members.outOfRange formatter = (outOfRange formatter.target).text := by
  have opening : "throw new ArgumentOutOfRangeException(nameof(ix), ix, \"" =
      "throw new ArgumentOutOfRangeException(" ++ ("nameof(ix), " ++ ("ix, " ++ "\"")) := rfl
  unfold Members.outOfRange outOfRange
  simp [Expression.text, Expression.texts, Formatter.typeName, Formatter.dimension,
    String.append_assoc]
  rw [opening]
  simp only [String.append_assoc]

theorem indexHeader_eq :
    formatter.format "public {NT} this[int ix]" =
      .ok (indexerText "" formatter.target.kind.element [index]) :=
  render_of_segments [.text "public ", .text "", .slot "NT", .text " this[", .text "int ix",
    .text "]"] rfl rfl

theorem componentIndexer_eq :
    Generates (Members.componentIndexer formatter) [componentIndexer formatter.target] := by
  refine ⟨_, by simp only [Members.componentIndexer, indexHeader_eq]; rfl, fun region => ?_⟩
  rw [List.flatMap_singleton]
  have reading (more : List String) : Writes region
      (.block (.write "return ix switch"
        ++ .block (.writeAll (formatter.dimension.components.map Members.readArm ++ more)) ";"))
      (braced (listed ["return ix switch"]
        ++ braced (listed (formatter.dimension.components.map Members.readArm ++ more)) ";")) :=
    ((Writes.write _).append ((Writes.writeAll _).block ";")).block
  have writing (more : List String) : Writes region
      (.block (.write "switch (ix)"
        ++ .block (.writeAll (formatter.dimension.components.map Members.writeArm ++ more))))
      (braced (listed ["switch (ix)"]
        ++ braced (listed (formatter.dimension.components.map Members.writeArm ++ more)))) :=
    ((Writes.write _).append (Writes.writeAll _).block).block
  have written : Writes region _ _ := (Writes.writeAll [hiddenHint,
      indexerText "" formatter.target.kind.element [index]]).append
    ((((Writes.write "readonly get").append (reading ["_ => " ++ Members.outOfRange formatter])).append
      (Writes.write "set")).append
        (writing ["default: " ++ Members.outOfRange formatter ++ ";"])).block
  simp only [outOfRange_eq] at written ⊢
  simp only [Declaration.lines, componentIndexer, each, List.map_map]
  exact written

def swizzleParameter (component : Component) : Parameter where
  type := "int"
  name := "i" ++ component.name
  isReference := false

/-- The component of the struct with the number given for a component of the sub-vector. -/
def chosen (component : Component) : Expression := .entry [.name ("i" ++ component.name)]

/-- A component of the sub-vector becomes that of the struct with the given number. -/
def taken (component : Component) : Assignment := ⟨chosen component, part "value" component⟩

def swizzle (type : VectorType) (size : Dimension) : Declaration :=
  let part : VectorType := ⟨type.kind, size⟩
  .indexer part.name (each part swizzleParameter) (.build (each part chosen))
    (if size.size ≤ type.dimension.size then some (each part taken) else none)

theorem swizzle_eq (size : Dimension) :
    Generates (Members.swizzle formatter size) [swizzle formatter.target size] := by
  let part : VectorType := ⟨formatter.target.kind, size⟩
  have parameter (component : Component) : formatter.formatAt component "int i{L}" =
      .ok (swizzleParameter component).text := by
    have text : (swizzleParameter component).text = "int" ++ " " ++ "i" ++ component.name := by
      simp [swizzleParameter, Parameter.text, String.append_assoc, -String.reduceAppend]
    rw [text]
    exact render_of_segments [.text "int", .text " ", .text "i", .slot "L"] rfl rfl
  have number (component : Component) : formatter.formatAt component "this[i{L}]" =
      .ok (chosen component).text := by
    have text : (chosen component).text = "this[" ++ "i" ++ component.name ++ "]" := by
      simp [chosen, Expression.text, Expression.texts, String.append_assoc, -String.reduceAppend]
    rw [text]
    exact render_of_segments [.text "this[", .text "i", .slot "L", .text "]"] rfl rfl
  have assigned (component : Component) :
      formatter.formatAt component "this[i{L}] = value.{L};" = .ok (taken component).text := by
    have text : (taken component).text = "this[" ++ "i" ++ component.name ++ "]" ++ " = "
        ++ "value" ++ "." ++ component.name ++ ";" := by
      simp [taken, chosen, MemberCode.part, Assignment.text, Expression.text, Expression.texts,
        String.append_assoc, -String.reduceAppend]
    rw [text]
    exact render_of_segments [.text "this[", .text "i", .slot "L", .text "]", .text " = ",
      .text "value", .text ".", .slot "L", .text ";"] rfl rfl
  have parameters : formatter.sequenceN "int i{L}" comma size.size =
      .ok (parametersText (each part swizzleParameter)) := by
    rw [parametersText, each, List.map_map]
    exact sequenceN_eq formatter parameter comma (size_le size)
  have getter : formatter.sequenceN "this[i{L}]" comma size.size =
      .ok (comma.intercalate (Expression.texts (each part chosen))) := by
    rw [each, Expression.texts_map]
    exact sequenceN_eq formatter number comma (size_le size)
  have setter : formatter.sequenceN "this[i{L}] = value.{L};" " " size.size =
      .ok (assignmentsText (each part taken)) := by
    rw [assignmentsText, each, List.map_map]
    exact sequenceN_eq formatter assigned " " (size_le size)
  have result (opening : String) : opening ++ "new("
      ++ comma.intercalate (Expression.texts (each part chosen)) ++ ");" =
        opening ++ (Expression.build (each part chosen)).text ++ ";" := by
    have ending : ");" = ")" ++ ";" := rfl
    rw [ending, comma]
    simp only [Expression.text, String.append_assoc]
  by_cases small : size.size ≤ formatter.target.dimension.size
  · have made : Members.swizzle formatter size = .ok (.writeAll [hiddenHint,
          indexerText "" part.name (each part swizzleParameter)]
        ++ .block (.writeAll ["readonly get => " ++ (Expression.build (each part chosen)).text ++ ";",
          "set \x7b " ++ assignmentsText (each part taken) ++ " \x7d"])) := by
      rw [← result]
      simp only [Members.swizzle, parameters, getter, setter, Formatter.dimension, small, if_true]
      rfl
    refine ⟨_, made, fun region => ?_⟩
    rw [List.flatMap_singleton, swizzle, if_pos small]
    exact (Writes.writeAll _).append (Writes.writeAll _).block
  · have made : Members.swizzle formatter size = .ok (.writeAll [hiddenHint,
        indexerText "readonly " part.name (each part swizzleParameter) ++ " => "
          ++ (Expression.build (each part chosen)).text ++ ";"]) := by
      rw [← result]
      have opening : "public readonly " = "public " ++ "readonly " := rfl
      have arrow : "] => new(" = "]" ++ (" => " ++ "new(") := rfl
      simp only [Members.swizzle, parameters, getter, Formatter.dimension, small, if_false, bind,
        Except.bind, pure, Except.pure]
      unfold indexerText
      rw [opening, arrow]
      simp only [String.append_assoc]
      rfl
    refine ⟨_, made, fun region => ?_⟩
    rw [List.flatMap_singleton, swizzle, if_neg small]
    exact Writes.writeAll _

def indexers (type : VectorType) : List Declaration :=
  componentIndexer type :: Members.swizzleSizes.map (swizzle type)

theorem indexers_eq : Generates (Members.indexers formatter) (indexers formatter.target) := by
  obtain ⟨single, singleMade, singleWrites⟩ := componentIndexer_eq formatter
  obtain ⟨parts, partsMade, partsWrite⟩ := @Generates.all _ Members.swizzleSizes _ _
    fun size _ => swizzle_eq formatter size
  refine ⟨single ++ .join parts, ?_, fun region => ?_⟩
  · unfold Members.indexers
    rw [singleMade, partsMade]
    rfl
  · rw [indexers, ← List.singleton_append, List.flatMap_append]
    exact (singleWrites region).append (partsWrite region)

end VectorForge.Proofs.FieldCode
