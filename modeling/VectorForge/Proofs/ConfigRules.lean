import Mathlib.Data.List.Nodup
import VectorForge.Config.Validity

/-! The rules of a configuration as a list, each with the fault that tells of its breach. A
configuration that keeps them all is accepted, and for any other the first broken rule is told. -/

namespace VectorForge.Proofs.ConfigRules
open Config

structure Rule where
  broken : Prop
  fault : ConfigFault

/-- What is said of rules that are looked at in order. -/
def Answers (rules : List Rule) : Except ConfigFault Unit → Prop
  | .ok _ => ∀ rule ∈ rules, ¬ rule.broken
  | .error fault => ∃ kept rule rest, rules = kept ++ rule :: rest ∧
      (∀ earlier ∈ kept, ¬ earlier.broken) ∧ rule.broken ∧ rule.fault = fault

section Answering
variable {rule : Rule} {first second rest : List Rule} {answer next : Except ConfigFault Unit}

theorem answers_broken (broken : rule.broken) :
    Answers (rule :: rest) answer ↔ answer = .error rule.fault := by
  constructor
  · intro answers
    cases answer with
    | ok value => exact absurd broken (answers rule (by simp))
    | error fault =>
      obtain ⟨kept, other, later, same, whole, -, rfl⟩ := answers
      cases kept with
      | nil =>
        obtain ⟨rfl, -⟩ := List.cons.inj same
        rfl
      | cons head kept =>
        obtain ⟨rfl, -⟩ := List.cons.inj same
        exact absurd broken (whole rule (by simp))
  · rintro rfl
    exact ⟨[], rule, rest, rfl, by simp, broken, rfl⟩

theorem answers_kept (kept : ¬ rule.broken) :
    Answers (rule :: rest) answer ↔ Answers rest answer := by
  cases answer with
  | ok value => simp [Answers, kept]
  | error fault =>
    constructor
    · rintro ⟨before, other, later, same, whole, broken, told⟩
      cases before with
      | nil =>
        obtain ⟨rfl, -⟩ := List.cons.inj same
        exact absurd broken kept
      | cons head before =>
        obtain ⟨-, same⟩ := List.cons.inj same
        exact ⟨before, other, later, same, fun earlier member => whole earlier (by simp [member]),
          broken, told⟩
    · rintro ⟨before, other, later, rfl, whole, broken, told⟩
      exact ⟨rule :: before, other, later, rfl, List.forall_mem_cons.mpr ⟨kept, whole⟩, broken, told⟩

/-- Rules have one answer. -/
theorem Answers.unique {rules : List Rule} (one : Answers rules answer)
    (other : Answers rules next) : answer = next := by
  induction rules with
  | nil =>
    cases answer with
    | error fault => simp [Answers] at one
    | ok value =>
      cases next with
      | ok value => rfl
      | error fault => simp [Answers] at other
  | cons rule rest ih =>
    by_cases broken : rule.broken
    · exact ((answers_broken broken).mp one).trans ((answers_broken broken).mp other).symm
    · exact ih ((answers_kept broken).mp one) ((answers_kept broken).mp other)

/-- A check stands for the rule that it tests. -/
theorem Answers.check {test : Prop} [Decidable test] (tests : test ↔ rule.broken)
    (onward : Answers rest next) :
    Answers (rule :: rest) (if test then .error rule.fault else next) := by
  by_cases broken : rule.broken
  · rw [if_pos (tests.mpr broken)]
    exact (answers_broken broken).mpr rfl
  · rw [if_neg (mt tests.mp broken)]
    exact (answers_kept broken).mpr onward

theorem Answers.bind (one : Answers first answer) (other : Answers second next) :
    Answers (first ++ second) (answer >>= fun _ => next) := by
  induction first with
  | nil =>
    obtain rfl : answer = .ok () := one.unique (List.forall_mem_nil _)
    exact other
  | cons rule rest ih =>
    by_cases broken : rule.broken
    · obtain rfl := (answers_broken broken).mp one
      exact (answers_broken broken).mpr rfl
    · exact (answers_kept broken).mpr (ih ((answers_kept broken).mp one))

end Answering

/-- The code points that Unicode calls white space. -/
def Blank (char : Char) : Prop :=
  char.toNat ∈ [0x9, 0xA, 0xB, 0xC, 0xD, 0x20, 0x85, 0xA0, 0x1680, 0x2000, 0x2001, 0x2002, 0x2003,
    0x2004, 0x2005, 0x2006, 0x2007, 0x2008, 0x2009, 0x200A, 0x2028, 0x2029, 0x202F, 0x205F, 0x3000]

theorem blank_iff (char : Char) : Text.isBlankChar char = true ↔ Blank char := by
  simp only [Text.isBlankChar, Text.blankRanges, Blank, List.any_cons, List.any_nil, Bool.or_eq_true,
    Bool.and_eq_true, decide_eq_true_eq, Bool.false_eq_true, List.mem_cons, List.not_mem_nil,
    or_false]
  omega

def Initial (char : Char) : Prop :=
  ('A' ≤ char ∧ char ≤ 'Z') ∨ ('a' ≤ char ∧ char ≤ 'z') ∨ char = '_'

/-- The words of `[A-Za-z_][A-Za-z0-9_]*`. -/
def Identifier (name : String) : Prop :=
  ∃ first rest, name.toList = first :: rest ∧ Initial first ∧
    ∀ char ∈ rest, Initial char ∨ ('0' ≤ char ∧ char ≤ '9')

theorem between_iff (low high char : Char) :
    (decide (low.val ≤ char.val) && decide (char.val ≤ high.val)) = true ↔
      low ≤ char ∧ char ≤ high := by
  rw [Bool.and_eq_true, decide_eq_true_iff, decide_eq_true_iff]
  rfl

theorem initial_iff (char : Char) : (char.isAlpha || char == '_') = true ↔ Initial char := by
  have upper : char.isUpper = true ↔ 'A' ≤ char ∧ char ≤ 'Z' := decide_eq_true_iff
  have lower : char.isLower = true ↔ 'a' ≤ char ∧ char ≤ 'z' := between_iff 'a' 'z' char
  have letter : char.isAlpha = (char.isUpper || char.isLower) := rfl
  rw [letter, Bool.or_eq_true, Bool.or_eq_true, upper, lower, beq_iff_eq, or_assoc]
  rfl

theorem further_iff (char : Char) : (char.isAlphanum || char == '_') = true ↔
    Initial char ∨ ('0' ≤ char ∧ char ≤ '9') := by
  have digit : char.isDigit = true ↔ '0' ≤ char ∧ char ≤ '9' := between_iff '0' '9' char
  have either : char.isAlphanum = (char.isAlpha || char.isDigit) := rfl
  rw [either, Bool.or_right_comm, Bool.or_eq_true, initial_iff, digit]

theorem isIdentifier_iff (name : String) : isIdentifier name = true ↔ Identifier name := by
  cases chars : name.toList with
  | nil => simp [isIdentifier, Identifier, chars]
  | cons first rest =>
    simp only [isIdentifier, Identifier, chars, Bool.and_eq_true, initial_iff, List.all_eq_true,
      further_iff]
    constructor
    · rintro ⟨initial, others⟩
      exact ⟨first, rest, rfl, initial, others⟩
    · rintro ⟨_, _, same, initial, others⟩
      obtain ⟨rfl, rfl⟩ := List.cons.inj same
      exact ⟨initial, others⟩

/-- The names that generated members have for parameters of their own. -/
def parameters : List String := ["min", "max", "other", "obj", "ix", "value"]

/-- The rules of one argument name behind the names before it. -/
def nameRules (earlier : List String) (name : String) : List Rule :=
  [⟨¬ Identifier name, .invalidIdentifier name⟩,
    ⟨name ∈ keywords, .keywordArgument name⟩,
    ⟨name ∈ Component.all.map Component.name ∨ name ∈ parameters, .reservedArgument name⟩,
    ⟨name ∈ earlier, .duplicateArgument name⟩]

def namesRules (earlier : List String) : List String → List Rule
  | [] => []
  | name :: rest => nameRules earlier name ++ namesRules (earlier ++ [name]) rest

def rules (config : Config) : List Rule :=
  [⟨config.extension = "", .emptyExtension⟩,
    ⟨config.emit.style.indent = "", .emptyIndent⟩,
    ⟨config.emit.style.newline = "", .emptyNewline⟩,
    ⟨∀ char ∈ config.emit.namespaceName.toList, Blank char, .emptyNamespace⟩]
    ++ namesRules [] config.emit.arguments.toList

/-- An argument name that can stand alone. -/
structure Free (name : String) : Prop where
  identifier : Identifier name
  keyword : name ∉ keywords
  component : name ∉ Component.all.map Component.name
  parameter : name ∉ parameters

structure Sound (config : Config) : Prop where
  extension : config.extension ≠ ""
  indent : config.emit.style.indent ≠ ""
  newline : config.emit.style.newline ≠ ""
  namespaceName : ∃ char ∈ config.emit.namespaceName.toList, ¬ Blank char
  distinct : config.emit.arguments.toList.Nodup
  free : ∀ name ∈ config.emit.arguments.toList, Free name

theorem checkName_answers {seen earlier : List String} (same : ∀ name, name ∈ seen ↔ name ∈ earlier)
    (name : String) : Answers (nameRules earlier name) (checkName seen name) := by
  have identifier : (!isIdentifier name) = true ↔ ¬ Identifier name := by
    rw [← isIdentifier_iff]
    simp
  have reserved : name ∈ reservedNames ↔
      name ∈ Component.all.map Component.name ∨ name ∈ parameters := List.mem_append
  exact .check identifier <| .check .rfl <| .check reserved <| .check (same name) <|
    List.forall_mem_nil _

/-- The names that were seen are the earlier ones, in another order. -/
theorem checkNames_answers {seen earlier : List String}
    (same : ∀ name, name ∈ seen ↔ name ∈ earlier) (names : List String) :
    Answers (namesRules earlier names) (checkNames seen names) := by
  induction names generalizing seen earlier with
  | nil => exact List.forall_mem_nil _
  | cons name rest ih =>
    refine (checkName_answers same name).bind (ih fun other => ?_)
    simp [same, or_comm]

theorem validate_answers (config : Config) : Answers (rules config) config.validate := by
  have empty (text : String) : text.isEmpty = true ↔ text = "" := String.isEmpty_iff
  have blank : Text.isBlank config.emit.namespaceName = true ↔
      ∀ char ∈ config.emit.namespaceName.toList, Blank char := by
    simp only [Text.isBlank, List.all_eq_true, blank_iff]
  exact .check (empty _) <| .check (empty _) <| .check (empty _) <| .check blank <|
    checkNames_answers (fun _ => .rfl) _

theorem nameRules_kept {earlier : List String} {name : String} :
    (∀ rule ∈ nameRules earlier name, ¬ rule.broken) ↔ Free name ∧ name ∉ earlier := by
  simp only [nameRules, List.forall_mem_cons, not_not, not_or]
  constructor
  · rintro ⟨identifier, keyword, ⟨component, parameter⟩, fresh, -⟩
    exact ⟨⟨identifier, keyword, component, parameter⟩, fresh⟩
  · rintro ⟨free, fresh⟩
    exact ⟨free.identifier, free.keyword, ⟨free.component, free.parameter⟩, fresh,
      List.forall_mem_nil _⟩

theorem namesRules_kept {earlier names : List String} :
    (∀ rule ∈ namesRules earlier names, ¬ rule.broken) ↔
      (∀ name ∈ names, Free name) ∧ names.Nodup ∧ ∀ name ∈ names, name ∉ earlier := by
  induction names generalizing earlier with
  | nil => simp [namesRules]
  | cons name rest ih =>
    rw [namesRules, List.forall_mem_append, nameRules_kept, ih, List.forall_mem_cons,
      List.forall_mem_cons, List.nodup_cons]
    simp only [List.mem_append, List.mem_singleton, not_or]
    constructor
    · rintro ⟨⟨free, fresh⟩, others, distinct, later⟩
      exact ⟨⟨free, others⟩, ⟨fun again => (later name again).2 rfl, distinct⟩, fresh,
        fun other member => (later other member).1⟩
    · rintro ⟨⟨free, others⟩, ⟨unrepeated, distinct⟩, fresh, later⟩
      refine ⟨⟨free, fresh⟩, others, distinct, fun other member => ⟨later other member, ?_⟩⟩
      rintro rfl
      exact unrepeated member

theorem rules_kept (config : Config) :
    (∀ rule ∈ rules config, ¬ rule.broken) ↔ Sound config := by
  simp only [rules, List.forall_mem_append, List.forall_mem_cons, namesRules_kept]
  constructor
  · rintro ⟨⟨extension, indent, newline, namespaceName, -⟩, free, distinct, -⟩
    exact ⟨extension, indent, newline, by simpa using namespaceName, distinct, free⟩
  · rintro ⟨extension, indent, newline, namespaceName, distinct, free⟩
    exact ⟨⟨extension, indent, newline, by simpa using namespaceName, List.forall_mem_nil _⟩, free,
      distinct, by simp⟩

theorem validate_ok_iff (config : Config) : config.validate = .ok () ↔ Sound config := by
  rw [← rules_kept]
  constructor
  · intro accepted
    have answers := validate_answers config
    rwa [accepted] at answers
  · intro kept
    exact (validate_answers config).unique kept

/-- Only the names count, not what each of them is for. -/
theorem Sound.of_perm {config : Config} {names : ArgumentNames} (sound : Sound config)
    (same : names.toList.Perm config.emit.arguments.toList) :
    Sound { config with emit := { config.emit with arguments := names } } where
  extension := sound.extension
  indent := sound.indent
  newline := sound.newline
  namespaceName := sound.namespaceName
  distinct := same.nodup_iff.mpr sound.distinct
  free name member := sound.free name (same.mem_iff.mp member)

/-- Validation accepts the sound configurations and tells the first broken rule of any other. In
which role a name is given has no part in whether it is accepted. -/
theorem validate_tells_first (config : Config) :
    (config.validate = .ok () ↔ Sound config) ∧
    (∀ fault, config.validate = .error fault ↔
      ∃ kept rule rest, rules config = kept ++ rule :: rest ∧
        (∀ earlier ∈ kept, ¬ earlier.broken) ∧ rule.broken ∧ rule.fault = fault) ∧
    ∀ names : ArgumentNames, names.toList.Perm config.emit.arguments.toList →
      ({ config with emit := { config.emit with arguments := names } }.validate = .ok () ↔
        config.validate = .ok ()) := by
  refine ⟨validate_ok_iff config, fun fault => ?_, fun names same => ?_⟩
  · constructor
    · intro refused
      have answers := validate_answers config
      rwa [refused] at answers
    · intro first
      exact (validate_answers config).unique first
  · rw [validate_ok_iff, validate_ok_iff]
    exact ⟨fun sound => sound.of_perm same.symm, fun sound => sound.of_perm same⟩

def faulty : Config :=
  { emit := { arguments := { first := "v", second := "v", single := "in", scalar := "1st" } } }

/-- In other roles the same names are refused too, though not for the same fault. -/
theorem faulty_tells_first :
    let names : ArgumentNames := { first := "1st", second := "in", single := "v", scalar := "v" }
    let other : Config := { faulty with emit := { faulty.emit with arguments := names } }
    names.toList.Perm faulty.emit.arguments.toList ∧
      faulty.validate = .error (.duplicateArgument "v") ∧
      other.validate = .error (.invalidIdentifier "1st") ∧
      (other.validate = .ok () ↔ faulty.validate = .ok ()) :=
  ⟨by decide, by decide, by decide, (validate_tells_first faulty).2.2 _ (by decide)⟩

end VectorForge.Proofs.ConfigRules
