/-! Paths as texts: the names in them and the paths of the directories above. -/

namespace VectorForge.Path

/-- The names in a path. Every slash ends one and starts the next. -/
def splitNames : List Char → List (List Char)
  | [] => [[]]
  | char :: rest =>
    if char = '/' then [] :: splitNames rest
    else
      match splitNames rest with
      | [] => [[char]]
      | name :: names => (char :: name) :: names

/-- The names in a path, with an empty one wherever a slash has no name beside it. -/
def names (path : String) : List String := (splitNames path.toList).map String.ofList

def isAbsolute (path : String) : Bool := path.toList.head? == some '/'

/-- The names that lead anywhere: neither empty nor the dot, which stays. -/
def steps (path : String) : List String :=
  (names path).filter fun name => name != "" && name != "."

/-- The paths of the directories above a path, the nearest first. Dots and slashes at
the end of a path do not count as a level of their own. -/
def ancestors (path : String) : List String :=
  let lead := if isAbsolute path then "/" else ""
  let way := steps path
  (List.range' 1 (way.length - 1)).reverse.map fun count =>
    lead ++ "/".intercalate (way.take count)

/-- The bytes a single name may have. -/
def longestName : Nat := 255

/-- The bytes a whole path may have. -/
def longest : Nat := 4095

end VectorForge.Path
