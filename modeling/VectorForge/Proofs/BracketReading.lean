import VectorForge.Proofs.CodeSyntax

/-! Brackets of three shapes, and how they match. A text is read from left to right with a
stack of the brackets that are open, so what a piece of text does to the open brackets is found
from the pieces it is put together from. -/

namespace VectorForge.Proofs.BracketReading
open CodeSyntax (braced listed marked deepened linesText)

inductive Shape where
  | round
  | square
  | curly
  deriving DecidableEq

inductive Bracket where
  | opening (shape : Shape)
  | closing (shape : Shape)
  deriving DecidableEq

def bracket? : Char → Option Bracket
  | '(' => some (.opening .round)
  | ')' => some (.closing .round)
  | '[' => some (.opening .square)
  | ']' => some (.closing .square)
  | '{' => some (.opening .curly)
  | '}' => some (.closing .curly)
  | _ => none

def brackets (text : String) : List Bracket := text.toList.filterMap bracket?

/-- The brackets that are open after one more, the nearest one first. Only the nearest one can
be closed, by a bracket of its own shape. -/
def step (opened : List Shape) : Bracket → Option (List Shape)
  | .opening shape => some (shape :: opened)
  | .closing shape =>
    match opened with
    | nearest :: outer => if nearest = shape then some outer else none
    | [] => none

def read (opened : List Shape) (word : List Bracket) : Option (List Shape) :=
  word.foldlM step opened

/-- Every closing bracket matches the nearest open one, and none is left open. -/
def WellNested (word : List Bracket) : Prop := read [] word = some []

instance (word : List Bracket) : Decidable (WellNested word) :=
  inferInstanceAs (Decidable (_ = _))

/-- The first bracket has this shape and is closed only by the last one: as long as there are
more to come, it is open below all others. -/
def Enclosed (shape : Shape) (word : List Bracket) : Prop :=
  word.head? = some (.opening shape) ∧
    ∀ part, part <+: word → part ≠ [] → part ≠ word →
      ∃ inner, read [] part = some (inner ++ [shape])

theorem read_append (opened : List Shape) (first second : List Bracket) :
    read opened (first ++ second) = (read opened first).bind fun between => read between second :=
  List.foldlM_append

theorem read_cons (opened : List Shape) (bracket : Bracket) (word : List Bracket) :
    read opened (bracket :: word) = (step opened bracket).bind fun between => read between word :=
  List.foldlM_cons

theorem step_beneath {opened after : List Shape} {bracket : Bracket}
    (stepped : step opened bracket = some after) (outer : List Shape) :
    step (opened ++ outer) bracket = some (after ++ outer) := by
  cases bracket with
  | opening shape =>
    obtain rfl := Option.some.inj stepped
    rfl
  | closing shape =>
    cases opened with
    | nil => simp [step] at stepped
    | cons nearest rest =>
      by_cases matching : nearest = shape
      · simp only [step, if_pos matching, Option.some.injEq] at stepped
        simp [step, matching, stepped]
      · simp [step, matching] at stepped

/-- Brackets that are open further out make no difference. -/
theorem read_beneath {opened after : List Shape} {word : List Bracket}
    (result : read opened word = some after) (outer : List Shape) :
    read (opened ++ outer) word = some (after ++ outer) := by
  induction word generalizing opened with
  | nil =>
    obtain rfl := Option.some.inj result
    rfl
  | cons bracket word ih =>
    rw [read_cons, Option.bind_eq_some_iff] at result
    obtain ⟨between, stepped, rest⟩ := result
    rw [read_cons, step_beneath stepped outer, Option.bind_some]
    exact ih rest

theorem WellNested.between {word : List Bracket} (nested : WellNested word) (shape : Shape) :
    WellNested (.opening shape :: word ++ [.closing shape]) := by
  have inside : read [shape] word = some [shape] := read_beneath nested [shape]
  have closed : step [shape] (.closing shape) = some [] := by simp [step]
  calc read [] (.opening shape :: word ++ [.closing shape])
      = read [shape] (word ++ [.closing shape]) := rfl
    _ = read [shape] [.closing shape] := by rw [read_append, inside, Option.bind_some]
    _ = some [] := by rw [read_cons, closed]; rfl

/-- A well-nested word between brackets of one shape is enclosed by them. -/
theorem WellNested.enclosed {word : List Bracket} (nested : WellNested word) (shape : Shape) :
    Enclosed shape (.opening shape :: word ++ [.closing shape]) := by
  refine ⟨rfl, ?_⟩
  intro part before nonempty unfinished
  -- such a part is the first bracket and a part of the word, which never closes what is outside
  obtain ⟨bracket, inside, rfl⟩ := List.exists_cons_of_ne_nil nonempty
  have started : bracket :: inside <+: .opening shape :: word := by
    rcases List.prefix_concat_iff.mp before with whole | started
    · exact absurd whole unfinished
    · exact started
  obtain ⟨rfl, rest, rfl⟩ := List.cons_prefix_cons.mp started
  rw [WellNested, read_append, Option.bind_eq_some_iff] at nested
  obtain ⟨inner, reached, -⟩ := nested
  exact ⟨inner, read_beneath reached [shape]⟩

/-- The brackets that are open behind a text. -/
def after (opened : List Shape) (text : String) : Option (List Shape) :=
  read opened (brackets text)

/-- A text that closes what it opens and nothing else. -/
def Nested (text : String) : Prop := ∀ opened, after opened text = some opened

theorem brackets_append (first second : String) :
    brackets (first ++ second) = brackets first ++ brackets second := by
  simp [brackets]

theorem after_append (opened : List Shape) (first second : String) :
    after opened (first ++ second) =
      (after opened first).bind fun between => after between second := by
  rw [after, brackets_append]
  exact read_append opened _ _

theorem after_nested {text : String} (nested : Nested text) (opened : List Shape) :
    after opened text = some opened := nested opened

theorem nested_of_plain {text : String} (plain : brackets text = []) : Nested text := by
  intro opened
  rw [after, plain]
  rfl

namespace Nested

theorem append {first second : String} (before : Nested first) (behind : Nested second) :
    Nested (first ++ second) := by
  intro opened
  simp only [after_append, after_nested before, after_nested behind, Option.bind_some]

theorem intercalate {separator : String} {texts : List String} (between : Nested separator)
    (nested : ∀ text ∈ texts, Nested text) : Nested (separator.intercalate texts) := by
  induction texts with
  | nil => exact fun _ => rfl
  | cons first rest ih =>
    rw [List.forall_mem_cons] at nested
    cases rest with
    | nil => simpa using nested.1
    | cons second rest =>
      rw [String.intercalate_cons_cons]
      exact (nested.1.append between).append (ih nested.2)

end Nested

theorem bracket?_digit {char : Char} (digit : char.isDigit) : bracket? char = none := by
  unfold bracket?
  split <;> first | rfl | exact absurd digit (by decide)

theorem repr_plain (number : Nat) : brackets number.repr = [] := by
  rw [brackets, Nat.repr_eq_ofList_toDigits, String.toList_ofList, List.filterMap_eq_nil_iff]
  intro char digit
  exact bracket?_digit (Nat.isDigit_of_mem_toDigits (by decide) (by decide) digit)

theorem natural_nested (number : Nat) : Nested (toString number) :=
  nested_of_plain (repr_plain number)

theorem integer_nested (number : Int) : Nested (toString number) := by
  cases number with
  | ofNat number => exact nested_of_plain (repr_plain number)
  | negSucc number =>
    have minus : Nested "-" := fun _ => rfl
    exact minus.append (nested_of_plain (repr_plain number.succ))

def lineBrackets (lines : List Line) : List Bracket := lines.flatMap fun line => brackets line.text

theorem lineBrackets_append (lines more : List Line) :
    lineBrackets (lines ++ more) = lineBrackets lines ++ lineBrackets more :=
  List.flatMap_append

/-- The brackets that are open behind lines. -/
def afterLines (opened : List Shape) (lines : List Line) : Option (List Shape) :=
  read opened (lineBrackets lines)

/-- Lines that close together what they open together and nothing else. -/
def NestedLines (lines : List Line) : Prop := ∀ opened, afterLines opened lines = some opened

variable {lines more : List Line}

theorem afterLines_nil (opened : List Shape) : afterLines opened [] = some opened := rfl

theorem afterLines_cons (opened : List Shape) (line : Line) (lines : List Line) :
    afterLines opened (line :: lines) =
      (after opened line.text).bind fun between => afterLines between lines :=
  read_append opened _ _

theorem afterLines_append (opened : List Shape) (lines more : List Line) :
    afterLines opened (lines ++ more) =
      (afterLines opened lines).bind fun between => afterLines between more := by
  rw [afterLines, lineBrackets_append]
  exact read_append opened _ _

theorem lineBrackets_deepened (lines : List Line) :
    lineBrackets (deepened lines) = lineBrackets lines := by
  rw [lineBrackets, deepened, List.flatMap_map]
  rfl

theorem afterLines_deepened (opened : List Shape) (lines : List Line) :
    afterLines opened (deepened lines) = afterLines opened lines := by
  rw [afterLines, lineBrackets_deepened, afterLines]

theorem afterLines_nested (nested : NestedLines lines) (opened : List Shape) :
    afterLines opened lines = some opened := nested opened

namespace NestedLines

theorem append (before : NestedLines lines) (behind : NestedLines more) :
    NestedLines (lines ++ more) := by
  intro opened
  simp only [afterLines_append, afterLines_nested before, afterLines_nested behind,
    Option.bind_some]

theorem flatMap {items : List α} {form : α → List Line}
    (nested : ∀ item ∈ items, NestedLines (form item)) : NestedLines (items.flatMap form) := by
  induction items with
  | nil => exact afterLines_nil
  | cons item items ih =>
    rw [List.forall_mem_cons] at nested
    rw [List.flatMap_cons]
    exact nested.1.append (ih nested.2)

theorem listed {texts : List String} (nested : ∀ text ∈ texts, Nested text) :
    NestedLines (listed texts) := by
  rw [CodeSyntax.listed, List.map_eq_flatMap]
  apply flatMap
  intro text member opened
  simp only [afterLines_cons, after_nested (nested text member), afterLines_nil, Option.bind_some]

theorem line {text : String} (nested : Nested text) : NestedLines (CodeSyntax.listed [text]) :=
  listed (List.forall_mem_singleton.mpr nested)

theorem pair {first second : String} (before : Nested first) (behind : Nested second) :
    NestedLines (CodeSyntax.listed [first, second]) :=
  listed (List.forall_mem_cons.mpr ⟨before, List.forall_mem_singleton.mpr behind⟩)

theorem braced (inner : NestedLines lines) {ending : String} (closed : Nested ending) :
    NestedLines (braced lines ending) := by
  intro opened
  rw [CodeSyntax.braced]
  simp only [List.cons_append, afterLines_cons, afterLines_append, afterLines_deepened,
    afterLines_nested inner, after_append, after_nested closed, afterLines_nil]
  rfl

theorem marked (inner : NestedLines lines) {region : String} (named : Nested region) :
    NestedLines (marked region lines) := by
  intro opened
  rw [CodeSyntax.marked]
  simp only [List.cons_append, afterLines_cons, afterLines_append, afterLines_nested inner,
    after_append, after_nested named, afterLines_nil]
  rfl

end NestedLines

theorem brackets_replicate {text : String} (plain : brackets text = []) (count : Nat) :
    brackets (String.join (List.replicate count text)) = [] := by
  induction count with
  | zero => rfl
  | succ count ih =>
    rw [List.replicate_succ, String.join_cons, brackets_append, plain]
    exact ih

theorem brackets_linesText {indent newline : String} (indented : brackets indent = [])
    (ended : brackets newline = []) (lines : List Line) :
    brackets (linesText indent newline lines) = lineBrackets lines := by
  induction lines with
  | nil => rfl
  | cons line lines ih =>
    rw [linesText, List.map_cons, String.join_cons, brackets_append, brackets_append,
      brackets_append, brackets_replicate indented, brackets_replicate ended, List.nil_append,
      List.append_nil, lineBrackets, List.flatMap_cons]
    exact congrArg (brackets line.text ++ ·) ih

end VectorForge.Proofs.BracketReading
