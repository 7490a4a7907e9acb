import VectorForge.Layout

/-! Members written as one expression: `public … => body;`. A member can be written
on one line or with the arguments of its body on lines of their own. -/

namespace VectorForge

def inlineHint : String := "[MethodImpl(MethodImplOptions.AggressiveInlining)]"

def hiddenHint : String := "[DebuggerBrowsable(DebuggerBrowsableState.Never)]"

structure Member where
  name : String
  returns : String
  /-- The parameter list; a property has none. -/
  parameters : Option String := some ""
  body : String := ""
  isStatic : Bool := false
  isOverride : Bool := false
  isReadonly : Bool := true
  isInline : Bool := false
  deriving DecidableEq

namespace Member

/-- A method that leaves the struct as it is. -/
def method (name returns : String) : Member := { name, returns }

def property (name returns : String) : Member := { name, returns, parameters := none }

def operator (symbol returns : String) : Member :=
  { name := "operator " ++ symbol, returns, isStatic := true, isReadonly := false }

def conversion (target : String) (isImplicit : Bool) : Member :=
  operator target (if isImplicit then "implicit" else "explicit")

/-- The member with this parameter list; a property stays without one. -/
def taking (member : Member) (parameters : String) : Member :=
  { member with parameters := member.parameters.map fun _ => parameters }

def giving (member : Member) (body : String) : Member := { member with body }

def overriding (member : Member) : Member := { member with isOverride := true }

def inlined (member : Member) : Member := { member with isInline := true }

def signature (member : Member) : String :=
  "public " ++ (if member.isStatic then "static " else "")
    ++ (if member.isOverride then "override " else "")
    ++ (if member.isReadonly then "readonly " else "")
    ++ member.returns ++ " " ++ member.name
    ++ (match member.parameters with
      | some parameters => "(" ++ parameters ++ ")"
      | none => "")

def line (member : Member) : String := member.signature ++ " => " ++ member.body ++ ";"

def hints (member : Member) : List Line :=
  if member.isInline then [⟨0, inlineHint, 1⟩] else []

def lines (member : Member) : List Line := member.hints ++ [⟨0, member.line, 1⟩]

/-- The items of a call, each on its own line. The last one closes the call. -/
def itemLines : List String → List Line
  | [] => []
  | [item] => [⟨1, item ++ ");", 1⟩]
  | item :: rest => ⟨1, item ++ ",", 1⟩ :: itemLines rest

/-- The member with its body spread over lines: the body opens a call and the items
are its arguments. -/
def spreadLines (member : Member) (items : List String) : List Line :=
  member.hints ++ ⟨0, member.signature ++ " => " ++ member.body, 1⟩ :: itemLines items

end Member

end VectorForge
