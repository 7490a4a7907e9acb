import VectorForge.Proofs.StructCode

/-! A file is its opening lines and its sections. Each section stands in the file as it is
written alone, one level deeper, and neither the indent nor the line terminator has any part
in what is written. -/

namespace VectorForge.Proofs.FileSections
open CodeSyntax ProgramText MemberCode StructCode

/-- One write for each namespace that is used, and a blank line after the last. -/
def usingWrites (spaces : List String) : List Line :=
  spaces.dropLast.map (fun space => ⟨0, "using " ++ space ++ ";", 1⟩)
    ++ spaces.getLast?.toList.map fun space => ⟨0, "using " ++ space ++ ";", 2⟩

/-- A section between its markers, in the body of the struct. -/
def regionWrites (part : Section) (writes : List Line) : List Line :=
  ⟨1, "#region " ++ part.region, 1⟩ :: writes.map (Line.deepen 1)
    ++ [⟨1, "#endregion " ++ part.region, 1⟩]

/-- The writes of a file, from those that each section makes alone. -/
def fileWrites (type : VectorType) (spaces : List String) (namespaceName : String)
    (writes : Section → List Line) : List Line :=
  usingWrites spaces
    ++ [⟨0, "namespace " ++ namespaceName ++ ";", 2⟩,
      ⟨0, "public struct " ++ type.name ++ " : IEquatable<" ++ type.name ++ ">", 1⟩,
      ⟨0, "\x7b", 1⟩]
    ++ (Plan.ofKind type.kind).sections.flatMap (fun part => regionWrites part (writes part))
    ++ [⟨0, "\x7d", 1⟩]

theorem usingWrites_eq (spaces : List String) : usingWrites spaces = usings spaces := by
  induction spaces with
  | nil => rfl
  | cons first rest ih =>
    cases rest with
    | nil => rfl
    | cons second rest =>
      have first_written : usings (first :: second :: rest) =
          ⟨0, "using " ++ first ++ ";", 1⟩ :: usings (second :: rest) := rfl
      rw [first_written, ← ih]
      rfl

theorem marked_deepened (part : Section) (lines : List Line) :
    (marked part.region lines).map (Line.deepen 1) = regionWrites part lines := by
  simp [marked, regionWrites, Line.deepen]

/-- What a section writes when nothing stands before it. -/
def sectionWrites (type : VectorType) (options : Options) (part : Section) : List Line :=
  (sectionCode type (options.mask.maskType type) options.arguments part).flatMap Declaration.lines

theorem sectionLines_eq (type : VectorType) (options : Options) {part : Section}
    (planned : part ∈ (Plan.ofKind type.kind).sections) :
    (Plan.ofKind type.kind).sectionLines type options part =
      .ok (sectionWrites type options part) := by
  obtain ⟨program, made, writes⟩ := section_eq type options planned
  obtain ⟨trace, ran, -⟩ := writes none {} rfl
  rw [fresh_append] at ran
  rw [Plan.sectionLines, formatter_eq]
  simp only [bind, Except.bind, made, Program.text, ran, Writer.finish, sectionWrites]

theorem fileWrites_eq (type : VectorType) (options : Options) :
    fileWrites type options.usings options.namespaceName (sectionWrites type options) =
      opening options ++ (declared type options).lines := by
  have regions : (((Plan.ofKind type.kind).sections.flatMap fun part =>
        marked part.region (sectionWrites type options part)).map (Line.deepen 1)) =
      (Plan.ofKind type.kind).sections.flatMap fun part =>
        regionWrites part (sectionWrites type options part) := by
    simp only [List.map_flatMap, marked_deepened]
  rw [fileWrites, usingWrites_eq, ← regions, declared_lines, opening, braced]
  simp only [List.append_assoc, List.cons_append, List.nil_append]
  rfl

/-- The writes of a file are those of its sections between fixed lines. They are the same for
every indent and every line terminator, and the file is each of them laid out with the two. -/
theorem generate_eq_sections (type : VectorType) (options : Options) :
    ∃ (writes : Section → List Line) (file : List Line),
      file = fileWrites type options.usings options.namespaceName writes ∧
      ∀ style : Style,
        (∀ part ∈ (Plan.ofKind type.kind).sections,
          (Plan.ofKind type.kind).sectionLines type { options with style } part =
            .ok (writes part)) ∧
        (Plan.ofKind type.kind).fileLines type { options with style } = .ok file ∧
        generate type { options with style } =
          .ok (String.join (file.map fun write =>
            repeated write.depth style.indent ++ write.text
              ++ repeated write.breaks style.newline)) := by
  refine ⟨sectionWrites type options, _, rfl, ?_⟩
  intro style
  refine ⟨?_, ?_, ?_⟩
  · intro part planned
    exact sectionLines_eq type { options with style } planned
  · rw [fileLines_eq]
    exact congrArg Except.ok (fileWrites_eq type { options with style }).symm
  · rw [generate_eq]
    exact congrArg (fun lines => Except.ok (style.layout lines))
      (fileWrites_eq type { options with style }).symm

end VectorForge.Proofs.FileSections
