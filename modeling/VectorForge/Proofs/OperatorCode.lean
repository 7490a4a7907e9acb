import VectorForge.Members.Equality
import VectorForge.Proofs.MemberCode

/-! The code of the operators and of the members for value equality. -/

namespace VectorForge.Proofs.OperatorCode
open CodeSyntax TemplateText MemberCode
open Formatter (comma)

variable (formatter : Formatter)

def vectorArithmetic (type : VectorType) (names : ArgumentNames) (symbol : String) : Operation where
  role := .operator symbol type.name
  parameters := vectorPair type names
  isInline := true
  body := .build (each type fun component =>
    pair symbol (part names.first component) (part names.second component))

/-- The template that all operators on two vectors fill in. -/
theorem pair_filled (symbol : String) (component : Component) :
    formatter.formatAt component "{VA1}.{L} {S} {VA2}.{L}" [("S", symbol)] =
      .ok (pair symbol (part formatter.options.arguments.first component)
        (part formatter.options.arguments.second component)).text := by
  have filled : formatter.formatAt component "{VA1}.{L} {S} {VA2}.{L}" [("S", symbol)] =
      .ok (formatter.options.arguments.first ++ "." ++ component.name ++ " " ++ symbol ++ " "
        ++ formatter.options.arguments.second ++ "." ++ component.name) :=
    render_of_segments [.slot "VA1", .text ".", .slot "L", .text " ", .slot "S", .text " ",
      .slot "VA2", .text ".", .slot "L"] rfl rfl
  simpa [pair_text, part, Expression.text, String.append_assoc] using filled

theorem vectorArithmetic_eq (symbol : String) :
    Members.vectorArithmetic formatter symbol =
      .ok (vectorArithmetic formatter.target formatter.options.arguments symbol).member := by
  have items := arguments_eq formatter (pair_filled formatter symbol)
  simp only [Members.vectorArithmetic, vectorPair_eq, items, bind, Except.bind, pure, Except.pure]
  rfl

def scalarArithmetic (type : VectorType) (names : ArgumentNames) (symbol : String) : Operation where
  role := .operator symbol type.name
  parameters := [{ type := type.name, name := names.single },
    { type := type.kind.element, name := names.scalar, isReference := false }]
  isInline := true
  body := .build (each type fun component =>
    pair symbol (part names.single component) (.name names.scalar))

theorem scalarArithmetic_eq (symbol : String) :
    Members.scalarArithmetic formatter symbol =
      .ok (scalarArithmetic formatter.target formatter.options.arguments symbol).member := by
  have parameters : formatter.format "in {T} {VA}, {NT} {NA}" =
      .ok ("in " ++ formatter.target.name ++ " " ++ formatter.options.arguments.single ++ ", "
        ++ formatter.target.kind.element ++ " " ++ formatter.options.arguments.scalar) :=
    render_of_segments [.text "in ", .slot "T", .text " ", .slot "VA", .text ", ", .slot "NT",
      .text " ", .slot "NA"] rfl rfl
  have filled (component : Component) :
      formatter.formatAt component "{VA}.{L} {S} {NA}" [("S", symbol)] =
        .ok (pair symbol (part formatter.options.arguments.single component)
          (.name formatter.options.arguments.scalar)).text := by
    rw [pair_text]
    exact render_of_segments [.slot "VA", .text ".", .slot "L", .text " ", .slot "S", .text " ",
      .slot "NA"] rfl rfl
  simp only [Members.scalarArithmetic, parameters, arguments_eq formatter filled, bind, Except.bind,
    pure, Except.pure]
  simp [scalarArithmetic, Operation.member, Heading.member, Role.member, parametersText,
    Parameter.text, String.append_assoc]
  rfl

def negation (type : VectorType) (names : ArgumentNames) : Operation where
  role := .operator "-" type.name
  parameters := sourceVector type.name names
  isInline := true
  body := .build (each type fun component => .negative (part names.single component))

theorem negation_eq :
    Members.negation formatter =
      .ok (negation formatter.target formatter.options.arguments).member := by
  have filled (component : Component) :
      formatter.formatAt component "-{VA}.{L}" =
        .ok (Expression.negative (part formatter.options.arguments.single component)).text := by
    have filled : formatter.formatAt component "-{VA}.{L}" =
        .ok ("-" ++ formatter.options.arguments.single ++ "." ++ component.name) :=
      render_of_segments [.text "-", .slot "VA", .text ".", .slot "L"] rfl rfl
    simpa [part, Expression.text, String.append_assoc] using filled
  simp only [Members.negation, singleVector_eq, arguments_eq formatter filled, bind, Except.bind,
    pure, Except.pure]
  rfl

def arithmetic (type : VectorType) (names : ArgumentNames) : List Operation :=
  arithmeticSymbols.map (vectorArithmetic type names)
    ++ arithmeticSymbols.map (scalarArithmetic type names) ++ [negation type names]

theorem arithmetic_eq :
    Members.arithmetic formatter =
      .ok ((arithmetic formatter.target formatter.options.arguments).map Operation.member) := by
  simp only [Members.arithmetic, mapM_ok fun symbol _ => vectorArithmetic_eq formatter symbol,
    mapM_ok fun symbol _ => scalarArithmetic_eq formatter symbol, negation_eq, bind, Except.bind,
    pure, Except.pure]
  simp [arithmetic, arithmeticSymbols, Members.arithmeticSymbols]

/-- The components that both the operands and their mask have. -/
def compared (type mask : VectorType) : List Component :=
  Component.all.take (min type.dimension.size mask.dimension.size)

def comparison (type mask : VectorType) (names : ArgumentNames) (symbol : String) : Operation where
  role := .operator symbol mask.name
  parameters := vectorPair type names
  isInline := true
  body := .build ((compared type mask).map fun component =>
    pair symbol (part names.first component) (part names.second component))

theorem comparison_eq (symbol : String) :
    Members.comparison formatter symbol =
      .ok (comparison formatter.target formatter.maskType formatter.options.arguments
        symbol).member := by
  have items := sequenceN_eq formatter (pair_filled formatter symbol) comma
    (Nat.le_trans (Nat.min_le_left _ formatter.maskType.dimension.size)
      (size_le formatter.dimension))
  simp only [Members.comparison, vectorPair_eq, items, bind, Except.bind, pure, Except.pure,
    ← Expression.texts_map]
  rfl

def comparisons (type mask : VectorType) (names : ArgumentNames) : List Operation :=
  comparisonSymbols.map (comparison type mask names)

theorem comparisons_eq :
    Members.comparisons formatter =
      .ok ((comparisons formatter.target formatter.maskType formatter.options.arguments).map
        Operation.member) := by
  rw [Members.comparisons, mapM_ok fun symbol _ => comparison_eq formatter symbol]
  simp [comparisons, comparisonSymbols, Members.comparisonSymbols]

def booleanComparison (type : VectorType) (names : ArgumentNames) (symbol connective : String) :
    Operation where
  role := .operator symbol "bool"
  parameters := vectorPair type names
  isInline := true
  body := .chain connective (each type fun component =>
    pair symbol (part names.first component) (part names.second component))

theorem booleanComparison_eq (symbol connective : String) :
    Members.booleanComparison formatter symbol (" " ++ connective ++ " ") =
      .ok (booleanComparison formatter.target formatter.options.arguments symbol
        connective).member := by
  have body := chain_eq formatter connective (pair_filled formatter symbol)
  simp only [Members.booleanComparison, vectorPair_eq, body, bind, Except.bind, pure, Except.pure]
  rfl

def booleanComparisons (type : VectorType) (names : ArgumentNames) : List Operation :=
  [booleanComparison type names "==" "&&", booleanComparison type names "!=" "||"]

theorem booleanComparisons_eq :
    Members.booleanComparisons formatter =
      .ok ((booleanComparisons formatter.target formatter.options.arguments).map
        Operation.member) := by
  have equal := booleanComparison_eq formatter "==" "&&"
  have different := booleanComparison_eq formatter "!=" "||"
  simp only [String.reduceAppend] at equal different
  simp only [Members.booleanComparisons, equal, different, bind, Except.bind, pure, Except.pure]
  rfl

def equalsObject (type : VectorType) (names : ArgumentNames) : Operation where
  role := .method "Equals" "bool"
  parameters := [{ type := "object", name := "obj", isReference := false }]
  isOverride := true
  isInline := true
  body := pair "&&" (.test (.name "obj") type.name names.single)
    (.call "Equals" [.name names.single])

theorem equalsObject_eq :
    Members.equalsObject formatter =
      .ok (equalsObject formatter.target formatter.options.arguments).member := by
  have body : formatter.format "obj is {T} {VA} && Equals({VA})" =
      .ok ("obj" ++ " is " ++ formatter.target.name ++ " " ++ formatter.options.arguments.single
        ++ " && " ++ "Equals" ++ "(" ++ formatter.options.arguments.single ++ ")") :=
    render_of_segments [.text "obj", .text " is ", .slot "T", .text " ", .slot "VA", .text " && ",
      .text "Equals", .text "(", .slot "VA", .text ")"] rfl rfl
  simp only [Members.equalsObject, body, bind, Except.bind, pure, Except.pure]
  simp [equalsObject, Operation.member, Heading.member, pair_text, Expression.text,
    Expression.texts, String.append_assoc, -String.reduceAppend]
  rfl

def equalsVector (type : VectorType) (names : ArgumentNames) : Operation where
  role := .method "Equals" "bool"
  parameters := [{ type := type.name, name := names.single, isReference := false }]
  isInline := true
  body := .chain "&&" (each type fun component =>
    pair "==" (own component) (part names.single component))

theorem equalsVector_eq :
    Members.equalsVector formatter =
      .ok (equalsVector formatter.target formatter.options.arguments).member := by
  have parameters : formatter.format "{T} {VA}" =
      .ok (formatter.target.name ++ " " ++ formatter.options.arguments.single) :=
    render_of_segments [.slot "T", .text " ", .slot "VA"] rfl rfl
  have filled (component : Component) :
      formatter.formatAt component "{L} == {VA}.{L}" =
        .ok (pair "==" (own component) (part formatter.options.arguments.single component)).text := by
    have filled : formatter.formatAt component "{L} == {VA}.{L}" =
        .ok (component.name ++ " " ++ "==" ++ " " ++ formatter.options.arguments.single ++ "."
          ++ component.name) :=
      render_of_segments [.slot "L", .text " ", .text "==", .text " ", .slot "VA", .text ".",
        .slot "L"] rfl rfl
    simpa [pair_text, own, part, Expression.text, String.append_assoc] using filled
  have body := chain_eq formatter "&&" filled
  simp only [String.reduceAppend] at body
  simp only [Members.equalsVector, parameters, body, bind, Except.bind, pure, Except.pure]
  simp [equalsVector, Operation.member, Heading.member, parametersText, Parameter.text]
  rfl

def hashCode (type : VectorType) : Operation where
  role := .method "GetHashCode" "int"
  isOverride := true
  isInline := true
  body := .invoke (.name "HashCode") "Combine" (each type own)

theorem hashCode_eq :
    Members.hashCode formatter = .ok (hashCode formatter.target).member := by
  simp only [Members.hashCode, Formatter.names, arguments_eq formatter (own_filled formatter),
    bind, Except.bind, pure, Except.pure]
  simp only [hashCode, Operation.member, Heading.member, Expression.text]
  rfl

def display (type : VectorType) : Operation where
  role := .method "ToString" "string"
  isOverride := true
  body := .shown type.name (each type own)

theorem display_eq :
    Members.display formatter = .ok (display formatter.target).member := by
  have filled (component : Component) :
      formatter.formatAt component "\x7b\x7b{L}\x7d\x7d" =
        .ok ("\x7b" ++ (own component).text ++ "\x7d") :=
    render_of_segments [.text "\x7b", .slot "L", .text "\x7d"] rfl rfl
  have shown : formatter.sequence "\x7b\x7b{L}\x7d\x7d" =
      .ok (comma.intercalate (Expression.holes (each formatter.target own))) := by
    rw [each, Expression.holes_map]
    exact sequence_eq formatter filled comma
  have body : formatter.format "$\"{T}({FIELDS})\""
      [("FIELDS", comma.intercalate (Expression.holes (each formatter.target own)))] =
        .ok (display formatter.target).body.text :=
    render_of_segments [.text "$\"", .slot "T", .text "(", .slot "FIELDS", .text ")\""] rfl rfl
  simp only [Members.display, shown, body, bind, Except.bind, pure, Except.pure]
  rfl

def equality (type : VectorType) (names : ArgumentNames) : List Operation :=
  [equalsObject type names, equalsVector type names, hashCode type, display type]

theorem equality_eq :
    Members.equality formatter =
      .ok ((equality formatter.target formatter.options.arguments).map Operation.member) := by
  simp only [Members.equality, equalsObject_eq, equalsVector_eq, hashCode_eq, display_eq, bind,
    Except.bind, pure, Except.pure]
  rfl

end VectorForge.Proofs.OperatorCode
