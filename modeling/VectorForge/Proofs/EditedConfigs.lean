import Mathlib.Data.List.Nodup
import VectorForge.Config.Record

/-! Configurations read from records that were edited after they were written. A field that is
still there is read as it was written, one that is missing has its default, a null is refused,
and entries that are no fields do not count. -/

namespace VectorForge.Proofs.EditedConfigs

/-- What has become of a field. -/
inductive Fate where
  | kept
  | dropped
  | nulled

namespace Fate

/-- What stands under a field's name after the edit. -/
def treated : Fate → Value → Option Value
  | .kept, value => some value
  | .dropped, _ => none
  | .nulled, _ => some .null

/-- What a field is read as. -/
def chosen {β : Type} (fate : Fate) (written default : β) : β :=
  match fate with
  | .kept => written
  | _ => default

end Fate

def edited (fate : String → Fate) (fields : List (String × Value)) : List (String × Value) :=
  fields.filterMap fun (name, value) => ((fate name).treated value).map (name, ·)

/-- What is left of the fields stands among entries with other names, in any order. -/
def Left (fate : String → Fate) (fields entries : List (String × Value)) : Prop :=
  ∃ others, (∀ other ∈ others, other.1 ∉ fields.map Prod.fst) ∧
    entries.Perm (edited fate fields ++ others)

/-- Reading fails if something is `refused` and gives `answer` otherwise. -/
structure Reads {β : Type} (refused : Prop) (result : Option β) (answer : β) : Prop where
  fails : refused → result = none
  succeeds : ¬ refused → result = some answer

namespace Reads
variable {β γ : Type} {refused other : Prop} {result : Option β} {answer : β}

theorem given (answer : β) : Reads False (some answer) answer := ⟨nofun, fun _ => rfl⟩

theorem of_iff (reads : Reads refused result answer) (same : other ↔ refused) :
    Reads other result answer :=
  ⟨fun fault => reads.fails (same.mp fault), fun sound => reads.succeeds (mt same.mpr sound)⟩

theorem bind {next : β → Option γ} {last : γ} (reads : Reads refused result answer)
    (onward : Reads other (next answer) last) : Reads (refused ∨ other) (result >>= next) last := by
  constructor
  · intro fault
    by_cases early : refused
    · rw [reads.fails early]
      rfl
    · rw [reads.succeeds early]
      exact onward.fails (fault.resolve_left early)
  · intro sound
    rw [reads.succeeds fun early => sound (.inl early)]
    exact onward.succeeds fun late => sound (.inr late)

end Reads

section Fields
variable {fate : String → Fate} {fields entries : List (String × Value)} {name : String}
  {value : Value} {β : Type}

theorem mem_edited {after : Value} :
    (name, after) ∈ edited fate fields ↔
      ∃ value, (name, value) ∈ fields ∧ (fate name).treated value = some after := by
  simp only [edited, List.mem_filterMap, Prod.exists, Option.map_eq_some_iff, Prod.mk.injEq]
  constructor
  · rintro ⟨_, value, member, _, treated, rfl, rfl⟩
    exact ⟨value, member, treated⟩
  · rintro ⟨value, member, treated⟩
    exact ⟨name, value, member, after, treated, rfl, rfl⟩

/-- The entries with other names cannot be taken for a field. -/
theorem Left.lookup (left : Left fate fields entries) (distinct : (fields.map Prod.fst).Nodup)
    (member : (name, value) ∈ fields) : entries.lookup name = (fate name).treated value := by
  obtain ⟨others, foreign, same⟩ := left
  have held (after : Value) :
      (name, after) ∈ entries ↔ (fate name).treated value = some after := by
    rw [same.mem_iff, List.mem_append, mem_edited]
    constructor
    · rintro (⟨written, there, treated⟩ | there)
      · obtain ⟨-, rfl⟩ := Prod.mk.inj (List.inj_on_of_nodup_map distinct there member rfl)
        exact treated
      · exact absurd (List.mem_map_of_mem member) (foreign (name, after) there)
    · exact fun treated => .inl ⟨value, member, treated⟩
  cases found : entries.lookup name with
  | some after =>
    obtain ⟨before, rest, rfl, -⟩ := List.lookup_eq_some_iff.mp found
    exact ((held after).mp (by simp)).symm
  | none =>
    cases treated : (fate name).treated value with
    | none => rfl
    | some after =>
      have absent := List.lookup_eq_none_iff.mp found _ ((held after).mpr treated)
      simp at absent

theorem Left.field (left : Left fate fields entries) (distinct : (fields.map Prod.fst).Nodup)
    (name : String) (value : Value) (member : (name, value) ∈ fields) (read : Value → Option β)
    (null : read .null = none) {refused : Prop} {answer : β}
    (reads : Reads refused (read value) answer) (default : β) :
    Reads (fate name = .nulled ∨ fate name = .kept ∧ refused)
      (Reader.field? entries name read default) ((fate name).chosen answer default) := by
  rw [Reader.field?, left.lookup distinct member]
  cases fate name with
  | kept => exact reads.of_iff (by simp)
  | dropped => exact (Reads.given default).of_iff (by simp)
  | nulled => exact ⟨fun _ => null, fun sound => absurd (.inl rfl) sound⟩

/-- A field that reads back as it was written fails only as a null. -/
theorem Left.simple (left : Left fate fields entries) (distinct : (fields.map Prod.fst).Nodup)
    (name : String) (value : Value) (member : (name, value) ∈ fields) (read : Value → Option β)
    (null : read .null = none) {answer : β} (reads : read value = some answer) (default : β) :
    Reads (fate name = .nulled) (Reader.field? entries name read default)
      ((fate name).chosen answer default) := by
  have written : Reads False (read value) answer := reads ▸ .given answer
  exact (left.field distinct name value member read null written default).of_iff (by simp)

theorem Left.text (left : Left fate fields entries) (distinct : (fields.map Prod.fst).Nodup)
    (name text : String) (member : (name, .text text) ∈ fields) (default : String) :
    Reads (fate name = .nulled) (Reader.field? entries name Value.text? default)
      ((fate name).chosen text default) :=
  left.simple distinct name (.text text) member Value.text? rfl rfl default

end Fields

/-- The fields of a record that was written. -/
def written : Value → List (String × Value)
  | .object entries => entries
  | _ => []

/-- The fields with another value under one of the names. -/
def replaced (name : String) (value : Value) (fields : List (String × Value)) :
    List (String × Value) :=
  fields.map fun field => if field.1 = name then (name, value) else field

/-- What has become of the fields of the three records that a configuration is written as. -/
structure Edit where
  config : String → Fate
  emit : String → Fate
  arguments : String → Fate

def untouched : Edit := ⟨fun _ => .kept, fun _ => .kept, fun _ => .kept⟩

/-- The value is an object that the edit makes of the written configuration. -/
def Edited (edit : Edit) (config : Config) (value : Value) : Prop :=
  ∃ arguments emit entries,
    Left edit.arguments (written config.emit.arguments.toValue) arguments ∧
    Left edit.emit (replaced "arguments" (.object arguments) (written config.emit.toValue)) emit ∧
    Left edit.config (replaced "emit" (.object emit) (written config.toValue)) entries ∧
    value = .object entries

namespace Edit
variable (edit : Edit)

/-- A field that is still there is null. Those below a record that was dropped are not there. -/
def Nulls : Prop :=
  (∃ name ∈ Config.fieldNames, edit.config name = .nulled) ∨
    edit.config "emit" = .kept ∧
      ((∃ name ∈ Options.fieldNames, edit.emit name = .nulled) ∨
        edit.emit "arguments" = .kept ∧
          ∃ name ∈ ArgumentNames.fieldNames, edit.arguments name = .nulled)

/-- The names as written where they were kept and the default ones elsewhere. -/
def restoredNames (names : ArgumentNames) : ArgumentNames :=
  let standard : ArgumentNames := {}
  { first := (edit.arguments "first").chosen names.first standard.first
    second := (edit.arguments "second").chosen names.second standard.second
    single := (edit.arguments "single").chosen names.single standard.single
    scalar := (edit.arguments "scalar").chosen names.scalar standard.scalar }

def restoredOptions (options : Options) : Options :=
  let standard : Options := {}
  { namespaceName := (edit.emit "namespace").chosen options.namespaceName standard.namespaceName
    usings := (edit.emit "usings").chosen options.usings standard.usings
    style :=
      { indent := (edit.emit "indent").chosen options.style.indent standard.style.indent
        newline := (edit.emit "newline").chosen options.style.newline standard.style.newline }
    arguments :=
      (edit.emit "arguments").chosen (edit.restoredNames options.arguments) standard.arguments
    mask := (edit.emit "comparison_mask").chosen options.mask standard.mask }

def restored (config : Config) : Config :=
  let standard : Config := {}
  { outputDir := (edit.config "output_dir").chosen config.outputDir standard.outputDir
    extension := (edit.config "extension").chosen config.extension standard.extension
    emit := (edit.config "emit").chosen (edit.restoredOptions config.emit) standard.emit }

end Edit

variable {edit : Edit} {entries : List (String × Value)}

theorem texts?_written (texts : List String) :
    Value.texts? (.list (texts.map .text)) = some texts := by
  rw [Value.texts?, List.mapM_map]
  induction texts with
  | nil => rfl
  | cons text rest ih => simp [List.mapM_cons, ih, Value.text?]

theorem mask_written (mask : ComparisonMask) : ComparisonMask.ofValue? mask.toValue = some mask := by
  cases mask <;> decide

section Records
variable {arguments emit : List (String × Value)}

theorem names_read {names : ArgumentNames}
    (left : Left edit.arguments (written names.toValue) entries) :
    Reads (∃ name ∈ ArgumentNames.fieldNames, edit.arguments name = .nulled)
      (ArgumentNames.ofValue? (.object entries)) (edit.restoredNames names) := by
  have distinct : ((written names.toValue).map Prod.fst).Nodup := by
    simp [written, ArgumentNames.toValue]
  have first := left.text distinct "first" names.first (by simp [written, ArgumentNames.toValue])
  have second := left.text distinct "second" names.second (by simp [written, ArgumentNames.toValue])
  have single := left.text distinct "single" names.single (by simp [written, ArgumentNames.toValue])
  have scalar := left.text distinct "scalar" names.scalar (by simp [written, ArgumentNames.toValue])
  have all : Reads (False ∨ _ ∨ _ ∨ _ ∨ _ ∨ False) (ArgumentNames.ofValue? (.object entries))
      (edit.restoredNames names) :=
    (Reads.given entries).bind <| (first _).bind <| (second _).bind <| (single _).bind <|
      (scalar _).bind <| .given _
  exact all.of_iff (by simp [ArgumentNames.fieldNames])

theorem replaced_options (options : Options) (arguments : Value) :
    replaced "arguments" arguments (written options.toValue) =
      [("namespace", .text options.namespaceName), ("usings", .list (options.usings.map .text)),
        ("indent", .text options.style.indent), ("newline", .text options.style.newline),
        ("arguments", arguments), ("comparison_mask", options.mask.toValue)] := by
  simp [replaced, written, Options.toValue]

theorem options_read {options : Options}
    (inner : Left edit.arguments (written options.arguments.toValue) arguments)
    (left : Left edit.emit (replaced "arguments" (.object arguments) (written options.toValue))
      entries) :
    Reads ((∃ name ∈ Options.fieldNames, edit.emit name = .nulled) ∨
        edit.emit "arguments" = .kept ∧
          ∃ name ∈ ArgumentNames.fieldNames, edit.arguments name = .nulled)
      (Options.ofValue? (.object entries)) (edit.restoredOptions options) := by
  rw [replaced_options] at left
  have namespaceName := left.text (by simp) "namespace" options.namespaceName (by simp)
  have usings := left.simple (by simp) "usings" (.list (options.usings.map .text)) (by simp)
    Value.texts? rfl (texts?_written options.usings)
  have indent := left.text (by simp) "indent" options.style.indent (by simp)
  have newline := left.text (by simp) "newline" options.style.newline (by simp)
  have names := left.field (by simp) "arguments" (.object arguments) (by simp)
    ArgumentNames.ofValue? rfl (names_read inner)
  have mask := left.simple (by simp) "comparison_mask" options.mask.toValue (by simp)
    ComparisonMask.ofValue? rfl (mask_written options.mask)
  have all : Reads (False ∨ _ ∨ _ ∨ _ ∨ _ ∨ _ ∨ _ ∨ False) (Options.ofValue? (.object entries))
      (edit.restoredOptions options) :=
    (Reads.given entries).bind <| (namespaceName _).bind <| (usings _).bind <| (indent _).bind <|
      (newline _).bind <| (names _).bind <| (mask _).bind <| .given _
  apply all.of_iff
  simp only [Options.fieldNames, List.mem_cons, List.not_mem_nil, or_false, false_or,
    exists_eq_or_imp, exists_eq_left, or_assoc]
  grind

theorem replaced_config (config : Config) (emit : Value) :
    replaced "emit" emit (written config.toValue) =
      [("output_dir", .text config.outputDir), ("extension", .text config.extension),
        ("emit", emit)] := by
  simp [replaced, written, Config.toValue]

theorem config_read {config : Config}
    (innermost : Left edit.arguments (written config.emit.arguments.toValue) arguments)
    (inner : Left edit.emit
      (replaced "arguments" (.object arguments) (written config.emit.toValue)) emit)
    (left : Left edit.config (replaced "emit" (.object emit) (written config.toValue)) entries) :
    Reads edit.Nulls (Config.ofValue? (.object entries)) (edit.restored config) := by
  rw [replaced_config] at left
  have outputDir := left.text (by simp) "output_dir" config.outputDir (by simp)
  have extension := left.text (by simp) "extension" config.extension (by simp)
  have options := left.field (by simp) "emit" (.object emit) (by simp) Options.ofValue? rfl
    (options_read innermost inner)
  have all : Reads (False ∨ _ ∨ _ ∨ _ ∨ False) (Config.ofValue? (.object entries))
      (edit.restored config) :=
    (Reads.given entries).bind <| (outputDir _).bind <| (extension _).bind <| (options _).bind <|
      .given _
  apply all.of_iff
  simp only [Edit.Nulls, Config.fieldNames, List.mem_cons, List.not_mem_nil, or_false, false_or,
    exists_eq_or_imp, exists_eq_left, or_assoc]

end Records

theorem left_untouched (fields : List (String × Value)) :
    Left (fun _ => .kept) fields fields := by
  refine ⟨[], by simp, ?_⟩
  have same : edited (fun _ => .kept) fields = fields := by simp [edited, Fate.treated]
  simp [same]

theorem edited_untouched (config : Config) : Edited untouched config config.toValue := by
  refine ⟨written config.emit.arguments.toValue, written config.emit.toValue,
    written config.toValue, left_untouched _, ?_, ?_, rfl⟩
  · rw [replaced_options]
    exact left_untouched _
  · rw [replaced_config]
    exact left_untouched _

/-- An edited configuration is read field by field over the defaults, unless a field that is
there is null. The written configuration is the one that no edit has touched, and is read back as
it was. -/
theorem edits_read_over_defaults (config : Config) :
    (∀ (edit : Edit) (value : Value), Edited edit config value →
      (edit.Nulls → Config.ofValue? value = none) ∧
        (¬ edit.Nulls → Config.ofValue? value = some (edit.restored config))) ∧
    Edited untouched config config.toValue ∧ Config.ofValue? config.toValue = some config := by
  have reads (edit : Edit) (value : Value) (made : Edited edit config value) :
      Reads edit.Nulls (Config.ofValue? value) (edit.restored config) := by
    obtain ⟨arguments, emit, entries, innermost, inner, left, rfl⟩ := made
    exact config_read innermost inner left
  refine ⟨fun edit value made => ?_, edited_untouched config, ?_⟩
  · exact ⟨(reads edit value made).fails, (reads edit value made).succeeds⟩
  · apply (reads untouched _ (edited_untouched config)).succeeds
    simp [Edit.Nulls, untouched]

/-- A configuration without the extension, the list of namespaces and all argument names but one,
with entries of no meaning in each record. -/
def thinned (indent : Value) : Value :=
  .object [("second", .null), ("output_dir", .text "o"), ("emit", .object
    [("namespace", .text "N"), ("indent", indent), ("newline", .text "\n"),
      ("arguments", .object [("scalar", .text "s"), ("first ", .list [])]),
      ("comparison_mask", .text "operand"), ("extension", .text "d")])]

def thinning (indent : Fate) : Edit where
  config name := if name = "extension" then .dropped else .kept
  emit name := if name = "usings" then .dropped else if name = "indent" then indent else .kept
  arguments name := if name = "scalar" then .kept else .dropped

def sample : Config :=
  { outputDir := "o"
    extension := "e"
    emit :=
      { namespaceName := "N", usings := [], style := { indent := "\t" }, mask := .operand
        arguments := { first := "a", scalar := "s" } } }

theorem thinned_edited (indent : Fate) (value : Value)
    (given : indent.treated (.text "\t") = some value) :
    Edited (thinning indent) sample (thinned value) := by
  cases indent with
  | dropped => cases given
  | kept | nulled =>
    obtain rfl := Option.some.inj given
    refine ⟨_, _, _, ⟨[("first ", .list [])], ?_, .refl _⟩,
      ⟨[("extension", .text "d")], ?_, .refl _⟩, ⟨[("second", .null)], ?_, List.perm_append_comm⟩, ?_⟩
    · simp [written, ArgumentNames.toValue]
    · simp [replaced_options]
    · simp [replaced_config]
    · simp [thinned, thinning, sample, edited, replaced, written, Config.toValue, Options.toValue,
        ArgumentNames.toValue, ComparisonMask.toValue, ComparisonMask.name, Fate.treated]

theorem thinned_read :
    Edited (thinning .kept) sample (thinned (.text "\t")) ∧ ¬ (thinning .kept).Nulls ∧
      Config.ofValue? (thinned (.text "\t")) = some
        { outputDir := "o"
          emit :=
            { namespaceName := "N", style := { indent := "\t" }, mask := .operand
              arguments := { scalar := "s" } } } ∧
      Edited (thinning .nulled) sample (thinned .null) ∧ (thinning .nulled).Nulls ∧
      Config.ofValue? (thinned .null) = none := by
  have kept : Edited (thinning .kept) sample (thinned (.text "\t")) := thinned_edited .kept _ rfl
  have nulled : Edited (thinning .nulled) sample (thinned .null) := thinned_edited .nulled _ rfl
  have sound : ¬ (thinning .kept).Nulls := by
    simp [Edit.Nulls, thinning, Config.fieldNames, Options.fieldNames, ArgumentNames.fieldNames]
  have refused : (thinning .nulled).Nulls := by
    simp [Edit.Nulls, thinning, Config.fieldNames, Options.fieldNames, ArgumentNames.fieldNames]
  exact ⟨kept, sound, ((edits_read_over_defaults sample).1 _ _ kept).2 sound, nulled, refused,
    ((edits_read_over_defaults sample).1 _ _ nulled).1 refused⟩

end VectorForge.Proofs.EditedConfigs
