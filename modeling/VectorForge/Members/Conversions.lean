import VectorForge.Conversion
import VectorForge.Members.Operators

/-! The members that carry out a type's conversions. -/

namespace VectorForge.Members

def rounding (formatter : Formatter) (mode : Rounding) : Except Fault Member := do
  let items ← formatter.sequence "Mathf.{MODE}ToInt({L})" Formatter.comma [("MODE", mode.verb)]
  return (Member.method (mode.verb ++ "ToInt") (formatter.related (some .int) none).name).giving
    (construct items)

def toEngine (formatter : Formatter) (engine : String) (isImplicit : Bool) : Except Fault Member := do
  let parameters ← singleVector formatter
  let items ← formatter.sequence "{VA}.{L}"
  return ((Member.conversion engine isImplicit).taking parameters).giving (construct items)

/-- The parameter list of a conversion from a vector of another type. -/
def sourceVector (formatter : Formatter) (source : String) : Except Fault String :=
  formatter.format "in {SOURCE} {VA}" [("SOURCE", source)]

def fromEngine (formatter : Formatter) (engine : String) (isImplicit : Bool) : Except Fault Member := do
  let names ← formatter.dimension.components.mapM Component.engineName
  let items := names.map fun name => formatter.options.arguments.single ++ "." ++ name
  let parameters ← sourceVector formatter engine
  return ((Member.conversion formatter.typeName isImplicit).taking parameters).giving
    (construct (Formatter.comma.intercalate items))

def fromKind (formatter : Formatter) (source : Kind) (isImplicit : Bool) : Except Fault Member := do
  let cast := if isImplicit then "" else "(" ++ formatter.element ++ ")"
  let parameters ← sourceVector formatter (formatter.related (some source) none).name
  let items ← formatter.sequence "{CAST}{VA}.{L}" Formatter.comma [("CAST", cast)]
  return ((Member.conversion formatter.typeName isImplicit).taking parameters).giving
    (construct items)

def conversion (formatter : Formatter) : Conversion → Except Fault Member
  | .rounding mode => rounding formatter mode
  | .toEngine engine isImplicit => toEngine formatter engine isImplicit
  | .fromEngine engine isImplicit => fromEngine formatter engine isImplicit
  | .fromKind source isImplicit => fromKind formatter source isImplicit

def conversions (formatter : Formatter) : Except Fault (List Member) :=
  formatter.target.conversions.mapM (conversion formatter)

end VectorForge.Members
