import VectorForge.Plan
import VectorForge.Proofs.ConversionCode
import VectorForge.Proofs.FieldCode
import VectorForge.Proofs.FunctionCode
import VectorForge.Proofs.OperatorCode

/-! The code of a whole file. The struct depends on the type, on the mask of its
comparisons and on the argument names; the other options stand in front of it or decide
its layout. -/

namespace VectorForge.Proofs.StructCode
open CodeSyntax ProgramText TemplateText MemberCode

section Sections
variable (type mask : VectorType) (names : ArgumentNames)

def numericSection : Section → List Declaration
  | .properties => FieldCode.numericProperties type
  | .swizzles => FieldCode.indexers type
  | .constructors => FieldCode.constructors type names
  | .mathOperators => (OperatorCode.arithmetic type names).map .operation
  | .logicalOperators => (OperatorCode.comparisons type mask names).map .operation
  | .objectOperators => (OperatorCode.equality type names).map .operation
  | .functions => FunctionCode.functions type names
  | .converters => (ConversionCode.conversions type names).map .operation

def booleanSection : Section → List Declaration
  | .properties => FieldCode.booleanProperties type
  | .constructors => FieldCode.constructors type names
  | .logicalOperators => (OperatorCode.booleanComparisons type names).map .operation
  | .objectOperators => (OperatorCode.equality type names).map .operation
  | _ => []

def sectionCode : Section → List Declaration :=
  match Plan.ofKind type.kind with
  | .numeric => numericSection type mask names
  | .boolean => booleanSection type names

def structCode : Struct where
  name := type.name
  regions := (Plan.ofKind type.kind).sections.map fun part =>
    (part.region, sectionCode type mask names part)

end Sections

def usings : List String → List Line
  | [] => []
  | [last] => [⟨0, "using " ++ last ++ ";", 2⟩]
  | first :: rest => ⟨0, "using " ++ first ++ ";", 1⟩ :: usings rest

def opening (options : Options) : List Line :=
  usings options.usings ++ [⟨0, "namespace " ++ options.namespaceName ++ ";", 2⟩]

/-- The text of a file: its opening lines and then its struct. -/
def fileText (options : Options) (struct : Struct) : String :=
  linesText options.style.indent options.style.newline (opening options ++ struct.lines)

/-- The struct that a file declares. -/
def declared (type : VectorType) (options : Options) : Struct :=
  structCode type (options.mask.maskType type) options.arguments

theorem usings_written (region : Option String) (spaces : List String) :
    Writes region (Plan.usingLines spaces) (usings spaces) := by
  induction spaces with
  | nil => exact .done
  | cons first rest ih =>
    cases rest with
    | nil => exact .write _ 2
    | cons second rest => exact (Writes.write _).append ih

theorem opening_written (options : Options) :
    Writes none (Plan.preamble options) (opening options) :=
  (usings_written none options.usings).append (.write _ 2)

theorem formatter_eq (type : VectorType) (options : Options) :
    (Plan.ofKind type.kind).formatter type options = .ok ⟨type, options⟩ := by
  obtain ⟨kind, dimension⟩ := type
  cases kind <;> rfl

theorem numericSection_eq (formatter : Formatter) (numeric : formatter.target.kind.isNumeric)
    (part : Section) :
    Generates (Plan.numericSection formatter part)
      (numericSection formatter.target formatter.maskType formatter.options.arguments part) := by
  cases part with
  | properties => exact FieldCode.numericProperties_eq formatter
  | swizzles => exact FieldCode.indexers_eq formatter
  | constructors => exact FieldCode.constructors_eq formatter
  | mathOperators => exact .operations (OperatorCode.arithmetic_eq formatter)
  | logicalOperators => exact .operations (OperatorCode.comparisons_eq formatter)
  | objectOperators => exact .operations (OperatorCode.equality_eq formatter)
  | functions => exact FunctionCode.functions_eq formatter numeric
  | converters => exact .operations (ConversionCode.conversions_eq formatter)

theorem booleanSection_eq (formatter : Formatter) {part : Section}
    (planned : part ∈ Plan.boolean.sections) :
    Generates (Plan.booleanSection formatter part)
      (booleanSection formatter.target formatter.options.arguments part) := by
  cases part with
  | properties => exact FieldCode.booleanProperties_eq formatter
  | constructors => exact FieldCode.constructors_eq formatter
  | logicalOperators => exact .operations (OperatorCode.booleanComparisons_eq formatter)
  | objectOperators => exact .operations (OperatorCode.equality_eq formatter)
  | swizzles | mathOperators | functions | converters => simp [Plan.sections] at planned

theorem section_eq (type : VectorType) (options : Options) {part : Section}
    (planned : part ∈ (Plan.ofKind type.kind).sections) :
    Generates ((Plan.ofKind type.kind).sectionProgram ⟨type, options⟩ part)
      (sectionCode type (options.mask.maskType type) options.arguments part) := by
  obtain ⟨kind, dimension⟩ := type
  cases kind with
  | int | float | double => exact numericSection_eq ⟨⟨_, dimension⟩, options⟩ rfl part
  | bool => exact booleanSection_eq ⟨⟨.bool, dimension⟩, options⟩ planned

theorem regions_written {parts : List Section} {body : Section → Except Fault Program}
    {code : Section → List Declaration} (generated : ∀ part ∈ parts, Generates (body part) (code part)) :
    ∃ regions, (parts.mapM fun part => do
        let inner ← body part
        return Program.region part.region inner) = .ok regions ∧
      Writes none (.join regions)
        (parts.flatMap fun part => marked part.region ((code part).flatMap Declaration.lines)) := by
  induction parts with
  | nil => exact ⟨[], rfl, .done⟩
  | cons part parts ih =>
    obtain ⟨inner, made, writes⟩ := generated part (by simp)
    obtain ⟨rest, restMade, restWrites⟩ := ih fun other member => generated other (by simp [member])
    refine ⟨.region part.region inner :: rest, ?_, ?_⟩
    · rw [List.mapM_cons, restMade, made]
      rfl
    · rw [List.flatMap_cons]
      exact (Writes.marked_region (writes _)).append restWrites

theorem declared_lines (type : VectorType) (options : Options) :
    (declared type options).lines = ⟨0, headerText type.name, 1⟩ ::
      braced ((Plan.ofKind type.kind).sections.flatMap fun part => marked part.region
        ((sectionCode type (options.mask.maskType type) options.arguments part).flatMap
          Declaration.lines)) := by
  rw [Struct.lines, declared, structCode, List.flatMap_map]

theorem fileProgram_eq (type : VectorType) (options : Options) :
    ∃ program, (Plan.ofKind type.kind).fileProgram ⟨type, options⟩ = .ok program ∧
      Writes none program (opening options ++ (declared type options).lines) := by
  obtain ⟨regions, made, writes⟩ := regions_written fun part planned =>
    section_eq type options planned
  have header : Formatter.format ⟨type, options⟩ "public struct {T} : IEquatable<{T}>" =
      .ok (headerText type.name) :=
    render_of_segments [.text "public struct ", .slot "T", .text " : IEquatable<", .slot "T",
      .text ">"] rfl rfl
  refine ⟨Plan.preamble options ++ .write (headerText type.name) ++ .block (.join regions), ?_, ?_⟩
  · rw [Plan.fileProgram, header]
    simp only [bind, Except.bind] at made ⊢
    rw [made]
    rfl
  · have written := ((opening_written options).append (Writes.write (headerText type.name))).append
      writes.block
    rwa [List.append_assoc, List.singleton_append, ← declared_lines] at written

theorem fileLines_eq (type : VectorType) (options : Options) :
    (Plan.ofKind type.kind).fileLines type options =
      .ok (opening options ++ (declared type options).lines) := by
  obtain ⟨program, made, writes⟩ := fileProgram_eq type options
  obtain ⟨trace, ran, -⟩ := writes {} rfl
  rw [fresh_append] at ran
  rw [Plan.fileLines, formatter_eq]
  simp only [bind, Except.bind, made, Program.text, ran, Writer.finish]

theorem layout_eq (style : Style) (lines : List Line) :
    style.layout lines = linesText style.indent style.newline lines := rfl

theorem generate_eq (type : VectorType) (options : Options) :
    generate type options = .ok (fileText options (declared type options)) := by
  rw [generate, Plan.render, fileLines_eq, fileText, ← layout_eq]
  rfl

/-- A file is made for every type and under all options, whatever strings they hold: all
templates can be filled in, no step of the program fails, and when it ends every level and
every region is closed. -/
theorem generate_succeeds (type : VectorType) (options : Options) :
    ∃ formatter program,
      (Plan.ofKind type.kind).formatter type options = .ok formatter ∧
      (Plan.ofKind type.kind).fileProgram formatter = .ok program ∧
      (program.run {}).result = .ok () ∧
      (∀ entry ∈ (program.run {}).trace, entry.result = .ok ()) ∧
      (program.run {}).writer.depth = 0 ∧
      (program.run {}).writer.region = none ∧
      generate type options = .ok (options.style.layout (program.run {}).writer.lines) := by
  obtain ⟨program, made, writes⟩ := fileProgram_eq type options
  obtain ⟨trace, ran, succeeded⟩ := writes {} rfl
  refine ⟨_, program, formatter_eq type options, made, ?_⟩
  rw [fresh_append] at ran
  rw [ran]
  refine ⟨rfl, succeeded, rfl, rfl, ?_⟩
  rw [generate, Plan.render, fileLines_eq]
  rfl

end VectorForge.Proofs.StructCode
