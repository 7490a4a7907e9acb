import VectorForge.Formatter
import VectorForge.Program

/-! Arithmetic and comparison operators. All of them work component by component. -/

namespace VectorForge.Members

/-- A call of a constructor whose type is known from the context. -/
def construct (arguments : String) : String := "new(" ++ arguments ++ ")"

def vectorPair (formatter : Formatter) : Except Fault String :=
  formatter.format "in {T} {VA1}, in {T} {VA2}"

def singleVector (formatter : Formatter) : Except Fault String :=
  formatter.format "in {T} {VA}"

def arithmeticSymbols : List String := ["+", "-", "*", "/", "%"]

def comparisonSymbols : List String := [">", ">=", "<", "<=", "==", "!="]

def vectorArithmetic (formatter : Formatter) (symbol : String) : Except Fault Member := do
  let parameters ← vectorPair formatter
  let items ← formatter.sequence "{VA1}.{L} {S} {VA2}.{L}" Formatter.comma [("S", symbol)]
  return ((Member.operator symbol formatter.typeName).taking parameters).giving (construct items)
    |>.inlined

def scalarArithmetic (formatter : Formatter) (symbol : String) : Except Fault Member := do
  let parameters ← formatter.format "in {T} {VA}, {NT} {NA}"
  let items ← formatter.sequence "{VA}.{L} {S} {NA}" Formatter.comma [("S", symbol)]
  return ((Member.operator symbol formatter.typeName).taking parameters).giving (construct items)
    |>.inlined

def negation (formatter : Formatter) : Except Fault Member := do
  let parameters ← singleVector formatter
  let items ← formatter.sequence "-{VA}.{L}"
  return ((Member.operator "-" formatter.typeName).taking parameters).giving (construct items)
    |>.inlined

def arithmetic (formatter : Formatter) : Except Fault (List Member) := do
  let vectors ← arithmeticSymbols.mapM (vectorArithmetic formatter)
  let scalars ← arithmeticSymbols.mapM (scalarArithmetic formatter)
  let opposite ← negation formatter
  return vectors ++ scalars ++ [opposite]

/-- A comparison builds its mask from as many components as both types have; what
the mask has beyond them keeps the constructor's default. -/
def comparison (formatter : Formatter) (symbol : String) : Except Fault Member := do
  let mask := formatter.maskType
  let count := min formatter.dimension.size mask.dimension.size
  let parameters ← vectorPair formatter
  let items ← formatter.sequenceN "{VA1}.{L} {S} {VA2}.{L}" Formatter.comma count [("S", symbol)]
  return ((Member.operator symbol mask.name).taking parameters).giving (construct items)
    |>.inlined

def comparisons (formatter : Formatter) : Except Fault (List Member) :=
  comparisonSymbols.mapM (comparison formatter)

/-- Boolean vectors are equal as a whole: the operator gives one truth value. -/
def booleanComparison (formatter : Formatter) (symbol connective : String) : Except Fault Member := do
  let parameters ← vectorPair formatter
  let body ← formatter.sequence "{VA1}.{L} {S} {VA2}.{L}" connective [("S", symbol)]
  return ((Member.operator symbol "bool").taking parameters).giving body |>.inlined

def booleanComparisons (formatter : Formatter) : Except Fault (List Member) := do
  let equal ← booleanComparison formatter "==" " && "
  let different ← booleanComparison formatter "!=" " || "
  return [equal, different]

end VectorForge.Members
