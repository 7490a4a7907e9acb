/-! White space as Unicode defines it, by the code points that have the property. -/

namespace VectorForge.Text

/-- The code point ranges with the property `White_Space`. -/
def blankRanges : List (Nat × Nat) :=
  [(0x9, 0xD), (0x20, 0x20), (0x85, 0x85), (0xA0, 0xA0), (0x1680, 0x1680), (0x2000, 0x200A),
    (0x2028, 0x2029), (0x202F, 0x202F), (0x205F, 0x205F), (0x3000, 0x3000)]

def isBlankChar (char : Char) : Bool :=
  blankRanges.any fun (first, last) => first ≤ char.toNat && char.toNat ≤ last

/-- Whether a text has nothing but white space. -/
def isBlank (text : String) : Bool := text.toList.all isBlankChar

end VectorForge.Text
