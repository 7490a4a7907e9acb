import VectorForge.Proofs.FileSections

/-! How far a choice reaches. A section sees only some of the argument names and hardly ever
the mask of comparisons, so another value for one option leaves all other parts of a file as
they are, whatever the value looks like. -/

namespace VectorForge.Proofs.OptionReach
open CodeSyntax MemberCode StructCode FileSections

/-- Another value for one option. The layout is not among them. -/
inductive Change where
  | namespaceName (name : String)
  | usings (spaces : List String)
  | first (name : String)
  | second (name : String)
  | single (name : String)
  | scalar (name : String)
  | mask (mask : ComparisonMask)

def Change.apply (options : Options) : Change → Options
  | .namespaceName name => { options with namespaceName := name }
  | .usings spaces => { options with usings := spaces }
  | .first name => { options with arguments := { options.arguments with first := name } }
  | .second name => { options with arguments := { options.arguments with second := name } }
  | .single name => { options with arguments := { options.arguments with single := name } }
  | .scalar name => { options with arguments := { options.arguments with scalar := name } }
  | .mask chosen => { options with mask := chosen }

/-- The parts of a file that are not the same for all options. -/
inductive Place where
  /-- The lines before the header of the struct. -/
  | opening
  | region (part : Section)

/-- Where a change of this option can be seen in the file of a type. -/
def Change.reach (type : VectorType) : Change → List Place
  | .namespaceName _ | .usings _ => [.opening]
  | .first _ | .second _ => [.region .mathOperators, .region .logicalOperators]
  | .single _ => [.region .mathOperators, .region .objectOperators, .region .functions,
      .region .converters]
  | .scalar _ => [.region .constructors, .region .mathOperators]
  | .mask _ => if type.kind.isNumeric then [.region .logicalOperators] else []

/-- The argument names that a section can see. -/
def seen (names : ArgumentNames) : Section → List String
  | .properties | .swizzles => []
  | .constructors => [names.scalar]
  | .mathOperators => names.toList
  | .logicalOperators => [names.first, names.second]
  | .objectOperators | .functions | .converters => [names.single]

section Seen
variable {type mask otherMask : VectorType} {names other : ArgumentNames} {part : Section}

theorem numericSection_seen (same : seen names part = seen other part)
    (masks : part = .logicalOperators → mask = otherMask) :
    numericSection type mask names part = numericSection type otherMask other part := by
  cases names
  cases other
  cases part with
  | properties | swizzles => rfl
  | logicalOperators =>
    obtain rfl := masks rfl
    cases same
    rfl
  | constructors | mathOperators | objectOperators | functions | converters =>
    cases same
    rfl

theorem booleanSection_seen (same : seen names part = seen other part) :
    booleanSection type names part = booleanSection type other part := by
  cases names
  cases other
  cases part with
  | properties | swizzles | mathOperators | functions | converters => rfl
  | constructors | logicalOperators | objectOperators =>
    cases same
    rfl

/-- A section is the same for all options that give it the same names and, if it compares
numbers, the same mask. -/
theorem sectionCode_seen (same : seen names part = seen other part)
    (masks : part = .logicalOperators → type.kind.isNumeric → mask = otherMask) :
    sectionCode type mask names part = sectionCode type otherMask other part := by
  obtain ⟨kind, dimension⟩ := type
  cases kind with
  | bool => exact booleanSection_seen same
  | int | float | double => exact numericSection_seen same fun logical => masks logical rfl

end Seen

theorem names_kept {type : VectorType} {options : Options} {change : Change} {part : Section}
    (outside : .region part ∉ change.reach type) :
    seen (change.apply options).arguments part = seen options.arguments part := by
  cases change with
  | namespaceName | usings | mask => rfl
  | first | second | single | scalar =>
    cases part <;> first | rfl | simp [Change.reach] at outside

theorem mask_kept {type : VectorType} {options : Options} {change : Change}
    (outside : .region .logicalOperators ∉ change.reach type) (numeric : type.kind.isNumeric) :
    (change.apply options).mask = options.mask := by
  cases change with
  | namespaceName | usings | first | second | single | scalar => rfl
  | mask => simp [Change.reach, numeric] at outside

/-- What stands in each part of a file. -/
def contents (type : VectorType) (options : Options) : Place → List Line
  | .opening => opening options
  | .region part => sectionWrites type options part

theorem contents_kept {type : VectorType} {options : Options} {change : Change} {place : Place}
    (outside : place ∉ change.reach type) :
    contents type (change.apply options) place = contents type options place := by
  cases place with
  | opening =>
    cases change with
    | namespaceName | usings => simp [Change.reach] at outside
    | first | second | single | scalar | mask => rfl
  | region part =>
    have same : sectionCode type ((change.apply options).mask.maskType type)
          (change.apply options).arguments part =
        sectionCode type (options.mask.maskType type) options.arguments part := by
      refine sectionCode_seen (names_kept outside) ?_
      rintro rfl numeric
      rw [mask_kept outside numeric]
    simp only [contents, sectionWrites, same]

/-- A file from what stands in its parts. -/
def fileOf (type : VectorType) (content : Place → List Line) : List Line :=
  content .opening
    ++ [⟨0, "public struct " ++ type.name ++ " : IEquatable<" ++ type.name ++ ">", 1⟩,
      ⟨0, "\x7b", 1⟩]
    ++ (Plan.ofKind type.kind).sections.flatMap (fun part =>
      regionWrites part (content (.region part)))
    ++ [⟨0, "\x7d", 1⟩]

/-- The parts of a type's file under these options: what each section writes alone, and what
the file has in front of its struct. -/
structure Parts (type : VectorType) (options : Options) (content : Place → List Line) : Prop where
  sections : ∀ part ∈ (Plan.ofKind type.kind).sections,
    (Plan.ofKind type.kind).sectionLines type options part = .ok (content (.region part))
  file : (Plan.ofKind type.kind).fileLines type options = .ok (fileOf type content)
  text : generate type options = .ok (options.style.layout (fileOf type content))

theorem fileOf_contents (type : VectorType) (options : Options) :
    fileOf type (contents type options) = opening options ++ (declared type options).lines := by
  rw [← fileWrites_eq, fileWrites, usingWrites_eq]
  simp [fileOf, contents, opening]

theorem contents_parts (type : VectorType) (options : Options) :
    Parts type options (contents type options) where
  sections := fun _ planned => sectionLines_eq type options planned
  file := by rw [fileLines_eq, fileOf_contents]
  text := by rw [generate_eq, fileText, ← layout_eq, fileOf_contents]

theorem apply_style (options : Options) (change : Change) :
    (change.apply options).style = options.style := by
  cases change <;> rfl

/-- A change that reaches no place is not seen in the file. -/
theorem generate_kept {type : VectorType} {change : Change} (options : Options)
    (nowhere : change.reach type = []) :
    generate type (change.apply options) = generate type options := by
  have same : contents type (change.apply options) = contents type options := by
    funext place
    exact contents_kept (by simp [nowhere])
  rw [(contents_parts type _).text, (contents_parts type options).text, same, apply_style]

/-- Fields, constants, derived properties and indexers are the same for all options. -/
theorem sectionWrites_fixed {type : VectorType} {part : Section} (options other : Options)
    (unnamed : part ∈ [.properties, .swizzles]) :
    sectionWrites type options part = sectionWrites type other part := by
  have same : sectionCode type (options.mask.maskType type) options.arguments part =
      sectionCode type (other.mask.maskType type) other.arguments part := by
    simp only [List.mem_cons, List.not_mem_nil, or_false] at unnamed
    apply sectionCode_seen
    · rcases unnamed with rfl | rfl <;> rfl
    · rintro rfl
      simp at unnamed
  rw [sectionWrites, sectionWrites, same]

/-- Every option reaches only the places listed for it, and some sections are out of reach of
all of them. -/
theorem options_confined (type : VectorType) :
    (∀ (options : Options) (change : Change), ∃ before after : Place → List Line,
      Parts type options before ∧ Parts type (change.apply options) after ∧
        ∀ place, place ∉ change.reach type → after place = before place) ∧
    (type.kind = .bool → ∀ (options : Options) (mask : ComparisonMask),
      generate type { options with mask } = generate type options) ∧
    ∃ fixed : Section → List Line, ∀ (options : Options), ∀ part ∈ [.properties, .swizzles],
      part ∈ (Plan.ofKind type.kind).sections →
        (Plan.ofKind type.kind).sectionLines type options part = .ok (fixed part) := by
  refine ⟨?_, ?_, ?_⟩
  · intro options change
    exact ⟨contents type options, contents type (change.apply options), contents_parts type options,
      contents_parts type _, fun place outside => contents_kept outside⟩
  · intro boolean options mask
    have nowhere : Change.reach type (.mask mask) = [] := by
      simp [Change.reach, boolean, Kind.isNumeric]
    have changed : { options with mask } = Change.apply options (.mask mask) := rfl
    rw [changed]
    exact generate_kept options nowhere
  · refine ⟨sectionWrites type {}, ?_⟩
    intro options part unnamed planned
    rw [sectionLines_eq type options planned, sectionWrites_fixed options {} unnamed]

end VectorForge.Proofs.OptionReach
