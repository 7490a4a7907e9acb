/-! The sections of a generated struct. Each one is written between region markers
that carry its name. -/

namespace VectorForge

inductive Section where
  | properties
  | swizzles
  | constructors
  | mathOperators
  | logicalOperators
  | objectOperators
  | functions
  | converters
  deriving DecidableEq

namespace Section

def all : List Section :=
  [.properties, .swizzles, .constructors, .mathOperators, .logicalOperators, .objectOperators,
    .functions, .converters]

/-- The name in the section's region markers. -/
def region : Section → String
  | .properties => "PROPERTIES"
  | .swizzles => "SWIZZLES"
  | .constructors => "CONSTRUCTORS"
  | .mathOperators => "MATH_OPERATORS"
  | .logicalOperators => "LOGICAL_OPERATORS"
  | .objectOperators => "OBJECT_OPERATORS"
  | .functions => "FUNCTIONS"
  | .converters => "CONVERTERS"

def ofRegion? (name : String) : Option Section := all.find? (·.region == name)

end Section

end VectorForge
