import VectorForge.Formatter
import VectorForge.Member

/-! Value equality: the members through which every object is compared, hashed and
shown. -/

namespace VectorForge.Members

def equalsObject (formatter : Formatter) : Except Fault Member := do
  let body ← formatter.format "obj is {T} {VA} && Equals({VA})"
  return ((Member.method "Equals" "bool").taking "object obj").giving body |>.overriding |>.inlined

def equalsVector (formatter : Formatter) : Except Fault Member := do
  let parameters ← formatter.format "{T} {VA}"
  let body ← formatter.sequence "{L} == {VA}.{L}" " && "
  return ((Member.method "Equals" "bool").taking parameters).giving body |>.inlined

def hashCode (formatter : Formatter) : Except Fault Member := do
  let names ← formatter.names
  return (Member.method "GetHashCode" "int").giving ("HashCode.Combine(" ++ names ++ ")")
    |>.overriding |>.inlined

def display (formatter : Formatter) : Except Fault Member := do
  let shown ← formatter.sequence "\x7b\x7b{L}\x7d\x7d"
  let body ← formatter.format "$\"{T}({FIELDS})\"" [("FIELDS", shown)]
  return (Member.method "ToString" "string").giving body |>.overriding

def equality (formatter : Formatter) : Except Fault (List Member) := do
  let object ← equalsObject formatter
  let vector ← equalsVector formatter
  let hash ← hashCode formatter
  let shown ← display formatter
  return [object, vector, hash, shown]

end VectorForge.Members
