import VectorForge.Proofs.BracketedMembers

/-! The brackets of a whole file. When none of the options has a bracket, the lines in front of
the struct have none either, and the braces around its body are the first and the last brackets
of the file. -/

namespace VectorForge.Proofs.BracketedFiles
open CodeSyntax StructCode BracketReading BracketedCode BracketedMembers

/-- The text has none of the characters that are read as brackets. -/
def Unbracketed (text : String) : Prop :=
  ∀ char ∈ text.toList, char ∉ ['(', ')', '[', ']', '{', '}']

instance (text : String) : Decidable (Unbracketed text) :=
  List.decidableBAll _ text.toList

/-- None of the strings that an options record puts into a file has a bracket. -/
structure Plain (options : Options) : Prop where
  namespaceName : Unbracketed options.namespaceName
  usings : ∀ space ∈ options.usings, Unbracketed space
  indent : Unbracketed options.style.indent
  newline : Unbracketed options.style.newline
  arguments : ∀ name ∈ options.arguments.toList, Unbracketed name

theorem bracket?_other {char : Char} (other : char ∉ ['(', ')', '[', ']', '{', '}']) :
    bracket? char = none := by
  simp only [List.mem_cons, List.not_mem_nil, or_false, not_or] at other
  unfold bracket?
  split <;> simp_all

theorem Unbracketed.brackets {text : String} (plain : Unbracketed text) : brackets text = [] :=
  List.filterMap_eq_nil_iff.mpr fun char member => bracket?_other (plain char member)

theorem Plain.names {options : Options} (plain : Plain options) :
    NestedNames options.arguments where
  first := nested_of_plain (plain.arguments _ (by simp [ArgumentNames.toList])).brackets
  second := nested_of_plain (plain.arguments _ (by simp [ArgumentNames.toList])).brackets
  single := nested_of_plain (plain.arguments _ (by simp [ArgumentNames.toList])).brackets
  scalar := nested_of_plain (plain.arguments _ (by simp [ArgumentNames.toList])).brackets

theorem region_nested (part : Section) : Nested part.region := by
  cases part <;> exact fun _ => rfl

/-- What stands between the braces of the struct. -/
def bodyLines (type : VectorType) (options : Options) : List Line :=
  (Plan.ofKind type.kind).sections.flatMap fun part => marked part.region
    ((sectionCode type (options.mask.maskType type) options.arguments part).flatMap
      Declaration.lines)

theorem bodyLines_nested {options : Options} (named : NestedNames options.arguments)
    (type : VectorType) : NestedLines (bodyLines type options) := by
  apply NestedLines.flatMap
  intro part _
  apply NestedLines.marked _ (region_nested part)
  apply NestedLines.flatMap
  intro declaration member
  exact declaration_nested (sectionCode_spelled named part declaration member)

theorem usings_plain {spaces : List String} (plain : ∀ space ∈ spaces, Unbracketed space) :
    lineBrackets (usings spaces) = [] := by
  have import_plain {space : String} (plain : Unbracketed space) (breaks : Nat) :
      lineBrackets [⟨0, "using " ++ space ++ ";", breaks⟩] = [] := by
    simp only [lineBrackets, List.flatMap_singleton, brackets_append, plain.brackets]
    rfl
  induction spaces with
  | nil => rfl
  | cons first rest ih =>
    rw [List.forall_mem_cons] at plain
    cases rest with
    | nil => exact import_plain plain.1 2
    | cons second rest =>
      have split : usings (first :: second :: rest) =
          [⟨0, "using " ++ first ++ ";", 1⟩] ++ usings (second :: rest) := rfl
      rw [split, lineBrackets_append, import_plain plain.1, ih plain.2]
      rfl

theorem opening_plain {options : Options} (plain : Plain options) :
    lineBrackets (opening options) = [] := by
  rw [opening, lineBrackets_append, usings_plain plain.usings]
  simp only [lineBrackets, List.flatMap_singleton, brackets_append, plain.namespaceName.brackets]
  rfl

theorem header_plain (type : VectorType) : brackets (headerText type.name) = [] := by
  unfold headerText
  simp only [brackets_append, type_plain]
  rfl

/-- The text of the opening lines. -/
def front (options : Options) : String :=
  linesText options.style.indent options.style.newline (opening options)

/-- The text of a file behind the brace that opens the struct. -/
def behind (type : VectorType) (options : Options) : String :=
  options.style.newline ++ linesText options.style.indent options.style.newline
    (deepened (bodyLines type options) ++ [⟨0, "\x7d", 1⟩])

theorem generate_eq_behind (type : VectorType) (options : Options) :
    generate type options = .ok (front options ++ headerText type.name
      ++ options.style.newline ++ "\x7b" ++ behind type options) := by
  have lines : (declared type options).lines = ⟨0, headerText type.name, 1⟩ :: ⟨0, "\x7b", 1⟩ ::
      (deepened (bodyLines type options) ++ [⟨0, "\x7d", 1⟩]) :=
    declared_lines type options
  rw [generate_eq, fileText, lines, linesText_append, linesText_outer, linesText_outer, front,
    behind]
  simp only [String.append_assoc]

theorem behind_brackets {options : Options} (plain : Plain options) (type : VectorType) :
    brackets (behind type options) =
      lineBrackets (bodyLines type options) ++ [.closing .curly] := by
  rw [behind, brackets_append, plain.newline.brackets, List.nil_append,
    brackets_linesText plain.indent.brackets plain.newline.brackets, lineBrackets_append,
    lineBrackets_deepened]
  rfl

/-- For options without brackets, the brackets of a file are well nested, and the brace behind
the header of the struct is the first of them and closed only by the last. -/
theorem files_bracketed (type : VectorType) {options : Options} (plain : Plain options) :
    ∃ text front rest,
      generate type options = .ok text ∧
      text = front ++ headerText type.name ++ options.style.newline ++ "\x7b" ++ rest ∧
      brackets (front ++ headerText type.name ++ options.style.newline) = [] ∧
      WellNested (brackets text) ∧
      Enclosed .curly (brackets text) := by
  have before : brackets (front options ++ headerText type.name ++ options.style.newline) = [] := by
    rw [brackets_append, brackets_append, header_plain, plain.newline.brackets, front,
      brackets_linesText plain.indent.brackets plain.newline.brackets, opening_plain plain]
    rfl
  have all : brackets (front options ++ headerText type.name ++ options.style.newline ++ "\x7b"
      ++ behind type options) =
        .opening .curly :: lineBrackets (bodyLines type options) ++ [.closing .curly] := by
    rw [brackets_append, brackets_append, before, behind_brackets plain]
    rfl
  have body : WellNested (lineBrackets (bodyLines type options)) :=
    bodyLines_nested plain.names type []
  refine ⟨_, front options, behind type options, generate_eq_behind type options, rfl, before, ?_, ?_⟩
  · rw [all]
    exact body.between .curly
  · rw [all]
    exact body.enclosed .curly

theorem standard_bracketed :
    Plain {} ∧ ∃ text front rest,
      generate ⟨.int, .five⟩ {} = .ok text ∧
      text = front ++ headerText (VectorType.mk .int .five).name ++ "\n" ++ "\x7b" ++ rest ∧
      brackets (front ++ headerText (VectorType.mk .int .five).name ++ "\n") = [] ∧
      WellNested (brackets text) ∧
      Enclosed .curly (brackets text) := by
  have plain : Plain {} := by
    constructor <;> decide
  exact ⟨plain, files_bracketed ⟨.int, .five⟩ plain⟩

end VectorForge.Proofs.BracketedFiles
