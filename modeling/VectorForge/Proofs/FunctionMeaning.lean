import Mathlib.Algebra.Order.BigOperators.Group.List
import Mathlib.Algebra.Order.Ring.Abs
import Mathlib.Tactic.Ring
import VectorForge.Proofs.ArithmeticMeaning

/-! What the functions of numeric vectors compute: the measures of one vector and of two, and
the functions that choose a number for each component. -/

namespace VectorForge.Proofs.FunctionMeaning
open CodeSyntax MemberCode CodeMeaning StructCode EvaluationRules FamilyMembers NumericVectors
open AcceptedNames FunctionCode ExactNumbers ArithmeticMeaning
open ComparisonMeaning (numbers)

variable {options : Options} {type : VectorType}

/-- A method that builds a vector from one call for each component. -/
def chooser (type : VectorType) (name : String) (parameters : List Parameter)
    (form : Component → Expression) : Operation where
  role := .method name type.name
  parameters := parameters
  isInline := true
  body := .build (each type form)

def methods (type : VectorType) (names : ArgumentNames) : List Operation :=
  (measures type ++ distances type names).map Operation.inlined
    ++ [chooser type "Min" (sourceVector type.name names) (chosen names "Min"),
      chooser type "Max" (sourceVector type.name names) (chosen names "Max"),
      chooser type "Clamp" (range type) clamped]

theorem method_selected (numeric : type.kind.isNumeric) {operation : Operation}
    {name result : String} (declares : operation ∈ methods type options.arguments)
    (named : operation.role = .method name result) :
    having (isMethod name) (operations (declared type options)) = [operation] := by
  have functions (other : ∀ mode : Rounding, mode.verb ++ "ToInt" ≠ name) :
      having (isMethod name) (operations (declared type options)) = _ :=
    having_numeric numeric (conversion_not_method other options.arguments)
  simp only [methods, measures, distances, List.map_cons, List.map_nil, List.cons_append,
    List.nil_append, List.mem_cons, List.not_mem_nil, or_false] at declares
  rcases declares with rfl | rfl | rfl | rfl | rfl | rfl | rfl | rfl | rfl | rfl | rfl <;>
    cases named <;> exact functions (by rintro ⟨⟩ <;> decide)

variable [LinearOrder α] {library : Library α} {calls : Call α → Result (Datum α)}
  {structs : List Struct} [included : Includes structs options]

section Methods
variable (numeric : type.kind.isNumeric)
include numeric included

theorem run_declared {operation : Operation} {name result : String} {arguments : List (Datum α)}
    {locals : List (String × Datum α)} (declares : operation ∈ methods type options.arguments)
    (named : operation.role = .method name result)
    (given : bound? (fun _ => none) operation.parameters arguments = some locals)
    (self : Component → α) :
    run library structs calls (.method (numbers type self) name arguments) =
      returned library calls result { locals, self := some (numbers type self) } operation.body := by
  have ran : run library structs calls (.method (numbers type self) name arguments) = _ :=
    run_method (overload?_first (method_selected numeric declares named) given) (.number ∘ self)
  rwa [named] at ran

/-- What a function chooses for a component may depend on its arguments, which are variables. -/
theorem chooser_computed {name : String} {form : Component → Expression}
    {arguments : List (Datum α)} {locals : List (String × Datum α)} {self : Component → α}
    {outcome : Component → Result α}
    {operation : Operation} (declares : operation ∈ methods type options.arguments)
    (shaped : operation.role = .method name type.name ∧ operation.body = .build (each type form))
    (given : bound? (fun _ => none) operation.parameters arguments = some locals)
    (whole : ∀ component, intact (form component) = true)
    (evaluates : ∀ calls, ∀ component ∈ type.dimension.components,
      evaluate library calls { locals, self := some (numbers type self) } (form component) =
        .number <$> outcome component) :
    Computes library structs type (.method (numbers type self) name arguments) outcome := by
  apply computes_of_body numeric _ whole evaluates
  intro calls
  rw [run_declared numeric declares shaped.1 given, shaped.2]

end Methods

/-- What remains when one of two values is chosen until there is only one left. -/
def survivor (choose : α → α → α) (value : Component → α) : Component → List Component → α
  | only, [] => value only
  | first, next :: rest => choose (value first) (survivor choose value next rest)

section Survivors
omit [LinearOrder α]
variable {choose : α → α → α} {value : Component → α}

theorem survivor_present (either : ∀ first second, choose first second = first ∨
      choose first second = second) (first : Component) (rest : List Component) :
    ∃ component ∈ first :: rest, value component = survivor choose value first rest := by
  induction rest generalizing first with
  | nil => exact ⟨first, by simp, rfl⟩
  | cons next rest ih =>
    rcases either (value first) (survivor choose value next rest) with kept | passed
    · exact ⟨first, by simp, kept.symm⟩
    · obtain ⟨component, member, same⟩ := ih next
      exact ⟨component, .tail _ member, same.trans passed.symm⟩

theorem survivor_bounds {within : α → α → Prop} [IsPreorder α within]
    (bounds : ∀ first second, within (choose first second) first ∧
      within (choose first second) second) (first : Component) (rest : List Component) :
    ∀ component ∈ first :: rest, within (survivor choose value first rest) (value component) := by
  induction rest generalizing first with
  | nil =>
    intro component member
    obtain rfl : component = first := by simpa using member
    exact refl _
  | cons next rest ih =>
    intro component member
    obtain ⟨here, there⟩ := bounds (value first) (survivor choose value next rest)
    rcases List.mem_cons.mp member with rfl | further
    · exact here
    · exact IsTrans.trans _ _ _ there (ih next component further)

end Survivors

theorem nested_intact (method : String) (first : Component) (rest : List Component) :
    intact (nested method (first :: rest)) = true := by
  induction rest generalizing first with
  | nil => rfl
  | cons next rest ih => simp [nested, routine, own, intact, allIntact, cohesion, ih next]

theorem evaluate_nested {method : String} {choose : α → α → α} {frame : Frame α}
    (chooses : ∀ first second, library.routine "Mathf" method [.number first, .number second] =
      .ok (.number (choose first second)))
    (free : frame.find? "Mathf" = none) {value : Component → α} {first : Component}
    {rest : List Component} (evaluates : ∀ component ∈ first :: rest,
      evaluate library calls frame (own component) = .ok (.number (value component))) :
    evaluate library calls frame (nested method (first :: rest)) =
      .ok (.number (survivor choose value first rest)) := by
  induction rest generalizing first with
  | nil => exact evaluates first (by simp)
  | cons next rest ih =>
    have further := ih fun component member => evaluates component (.tail _ member)
    have both : evaluateAll library calls frame [own first, nested method (next :: rest)] =
        .ok [.number (value first), .number (survivor choose value next rest)] :=
      evaluateAll_cons (evaluates first (by simp)) (evaluateAll_cons further evaluateAll_nil)
    exact (evaluate_routine free both).trans (chooses _ _)

section Exact
variable [CommRing α] {given : Routines α} {frame : Frame α}

def total (type : VectorType) (value : Component → α) : α := (each type value).sum

def squares (type : VectorType) (value : Component → α) : α :=
  total type fun component => value component * value component

theorem defined (first second : α) {symbol : String} (calculates : symbol ∈ ["+", "-", "*"]) :
    (exact given).arithmetic symbol first second = .ok (given.value symbol first second) := by
  have known : ∀ symbol ∈ ["+", "-", "*"],
      symbol ∈ arithmeticSymbols ∧ symbol ∉ ["/", "%"] := by decide
  obtain ⟨arithmetic, whole⟩ := known symbol calculates
  exact exact_defined arithmetic (fun undefined => whole undefined.1) first

theorem foldlM_add (first : α) (rest : List α) :
    (rest.map Datum.number).foldlM (applied (exact given) calls "+") (.number first) =
      .ok (.number (first + rest.sum)) := by
  induction rest generalizing first with
  | nil => simp; rfl
  | cons second rest ih =>
    have added : applied (exact given) calls "+" (.number first) (.number second) =
        .ok (.number (first + second)) := by
      rw [applied_arithmetic (by decide), defined first second (by decide)]
      rfl
    rw [List.map_cons, List.foldlM_cons, added, List.sum_cons, ← add_assoc]
    exact ih (first + second)

theorem components_split (dimension : Dimension) :
    ∃ first rest, dimension.components = first :: rest := by
  cases dimension <;> exact ⟨_, _, rfl⟩

theorem evaluate_total {form : Component → Expression} {value : Component → α}
    (evaluates : ∀ component ∈ type.dimension.components,
      evaluate (exact given) calls frame (form component) = .ok (.number (value component))) :
    evaluate (exact given) calls frame (.chain "+" (each type form)) =
      .ok (.number (total type value)) := by
  have values : evaluateAll (exact given) calls frame (each type form) =
      .ok (each type fun component => .number (value component)) := evaluateAll_map evaluates
  obtain ⟨first, rest, shape⟩ := components_split type.dimension
  have listed : each type (fun component => Datum.number (value component)) =
      .number (value first) :: (rest.map value).map .number := by
    simp [each, shape]
  rw [listed] at values
  rw [evaluate_chain (by decide) (by decide) values, foldlM_add, total, each, shape, List.map_cons,
    List.sum_cons]

theorem root_free (kind : Kind) (component : Component) : component.name ≠ rootHolder kind := by
  cases kind <;> cases component <;> decide

section Measures
variable (numeric : type.kind.isNumeric)
include numeric included

theorem run_squares (self : Component → α) :
    run (exact given) structs calls (.method (numbers type self) "SqrMagnitude" []) =
      .ok (.number (squares type self)) := by
  have declares : (sqrMagnitude type).inlined ∈ methods type options.arguments := by
    simp [methods, measures]
  have whole : intact (sqrMagnitude type).body = true :=
    chain_intact (fun _ => of_decide_eq_true rfl) fun _ => rfl
  rw [run_declared numeric declares rfl rfl]
  refine (returned_value whole fun _ built => by cases built).trans (evaluate_total ?_)
  intro component inside
  have one : evaluate (exact given) calls { self := some (numbers type self) } (own component) =
      .ok (.number (self component)) := evaluate_own inside
  refine (evaluate_arithmetic (by decide) one one).trans ?_
  rw [defined _ _ (by decide)]
  rfl

theorem magnitude_answered (self : Component → α) :
    Answers (exact given) structs (.method (numbers type self) "Magnitude" [])
      (.ok (.number (given.root type.kind (squares type self)))) := by
  have declares : (magnitude type).inlined ∈ methods type options.arguments := by
    simp [methods, measures]
  refine .of_run 1 fun depth deep => ?_
  obtain ⟨further, rfl⟩ := Nat.exists_eq_add_of_le' deep
  have called : evaluate (exact given) (answer (exact given) structs (further + 1))
      { self := some (numbers type self) } (.call "SqrMagnitude" []) =
        .ok (.number (squares type self)) :=
    (evaluate_call (find_free rfl (by rintro ⟨⟩ <;> decide) self) rfl rfl).trans
      (run_squares numeric self)
  rw [run_declared numeric declares rfl rfl]
  refine (returned_value rfl fun _ built => by cases built).trans ?_
  exact (evaluate_routine (find_free rfl (root_free _) self) (evaluateAll_cons called evaluateAll_nil)).trans
    (exact_root _ _)

section Distances
variable (accepted : Accepted options.arguments)
include accepted

theorem difference_answered (first second : Component → α) :
    Answers (exact given) structs (.operator "-" [numbers type first, numbers type second])
      (.ok (numbers type fun component => first component - second component)) := by
  have computes : Computes (exact given) structs type
      (.operator "-" [numbers type first, numbers type second]) _ :=
    vectors_computed numeric accepted (by decide) first second
  apply computes.computed
  intro component _
  exact defined (first component) (second component) (by decide)

theorem sqrDistance_answered (first second : Component → α) :
    Answers (exact given) structs (.method (numbers type first) "SqrDistance" [numbers type second])
      (.ok (.number (squares type fun component => second component - first component))) := by
  have declares : (sqrDistance type).inlined ∈ methods type options.arguments := by
    simp [methods, distances]
  have bound : bound? (fun _ => none) (sqrDistance type).inlined.parameters [numbers type second] =
      some [("other", numbers type second)] := by
    simp [sqrDistance, Operation.inlined, bound?, numbers, isA_vectorOf]
  have difference : Answers (exact given) structs
      (.operator "-" [numbers type second, numbers type first]) _ :=
    difference_answered numeric accepted second first
  obtain ⟨enough, subtracted⟩ := difference
  refine .of_run (enough + 1) fun depth deep => ?_
  obtain ⟨further, rfl⟩ := Nat.exists_eq_add_of_le' (Nat.le_trans (Nat.le_add_left 1 enough) deep)
  let frame : Frame α :=
    { locals := [("other", numbers type second)], self := some (numbers type first) }
  have taken : evaluate (exact given) (answer (exact given) structs (further + 1)) frame
      (.group (pair "-" (.name "other") .this)) =
        .ok (numbers type fun component => second component - first component) := by
    rw [evaluate]
    refine (evaluate_pair (by decide) (by decide) (evaluate_name rfl) rfl).trans ?_
    exact subtracted _ (Nat.le_trans (Nat.le_succ enough) deep)
  rw [run_declared numeric declares rfl bound]
  refine (returned_value rfl fun _ built => by cases built).trans ?_
  exact (evaluate_invoke rfl taken rfl).trans (run_squares numeric _)

theorem distance_answered (holder : options.arguments.single ≠ rootHolder type.kind)
    (method : options.arguments.single ≠ "SqrDistance") (first second : Component → α) :
    Answers (exact given) structs (.method (numbers type first) "Distance" [numbers type second])
      (.ok (.number (given.root type.kind
        (squares type fun component => second component - first component)))) := by
  have declares : (distance type options.arguments).inlined ∈ methods type options.arguments := by
    simp [methods, distances]
  have bound : bound? (fun _ => none) (distance type options.arguments).inlined.parameters
      [numbers type second] = some [(options.arguments.single, numbers type second)] := by
    simp [distance, sourceVector, Operation.inlined, bound?, numbers, isA_vectorOf]
  have square : Answers (exact given) structs
      (.method (numbers type first) "SqrDistance" [numbers type second]) _ :=
    sqrDistance_answered numeric accepted first second
  obtain ⟨enough, measured⟩ := square
  refine .of_run enough fun depth deep => ?_
  let frame : Frame α := {
    locals := [(options.arguments.single, numbers type second)]
    self := some (numbers type first) }
  have argument : evaluate (exact given) (answer (exact given) structs depth) frame
      (.name options.arguments.single) = .ok (numbers type second) :=
    evaluate_name (by simp [frame, Frame.find?])
  have called : evaluate (exact given) (answer (exact given) structs depth) frame
      (.call "SqrDistance" [.name options.arguments.single]) = .ok (.number
        (squares type fun component => second component - first component)) := by
    have free : frame.find? "SqrDistance" = none :=
      find_beside method (by rintro ⟨⟩ <;> decide) _ first
    exact (evaluate_call free rfl (evaluateAll_cons argument evaluateAll_nil)).trans (measured depth deep)
  have free : frame.find? (rootHolder type.kind) = none :=
    find_beside holder (root_free _) _ first
  rw [run_declared numeric declares rfl bound]
  refine (returned_value rfl fun _ built => by cases built).trans ?_
  exact (evaluate_routine free (evaluateAll_cons called evaluateAll_nil)).trans (exact_root _ _)

end Distances

theorem extreme_answered {name method : String} {choose : α → α → α}
    (declares : (extreme type name method).inlined ∈ methods type options.arguments)
    (chooses : ∀ first second, (exact given).routine "Mathf" method
      [.number first, .number second] = .ok (.number (choose first second)))
    (self : Component → α) :
    ∃ first rest, type.dimension.components = first :: rest ∧
      Answers (exact given) structs (.method (numbers type self) name [])
        (.ok (.number (survivor choose self first rest))) := by
  obtain ⟨first, rest, shape⟩ := components_split type.dimension
  refine ⟨first, rest, shape, .of_run 0 fun depth _ => ?_⟩
  have plain (arguments : List Expression) : (extreme type name method).body ≠ .build arguments := by
    rw [extreme, shape]
    cases rest <;> rintro ⟨⟩
  have whole : intact (extreme type name method).body = true := by
    rw [extreme, shape]
    exact nested_intact method first rest
  rw [run_declared numeric declares rfl rfl]
  refine (returned_value whole plain).trans ?_
  rw [extreme, shape]
  apply evaluate_nested chooses (find_free rfl (by rintro ⟨⟩ <;> decide) self)
  intro component member
  have inside : component ∈ type.dimension.components := by rwa [shape]
  exact evaluate_own inside

theorem absolute_computed (self : Component → α) :
    Computes (exact given) structs type (.method (numbers type self) "Abs" [])
      fun component => .ok |self component| := by
  have declares : (absolute type).inlined ∈ methods type options.arguments := by
    simp [methods, measures]
  refine chooser_computed numeric declares ⟨rfl, rfl⟩ rfl (fun _ => rfl) ?_
  intro calls component inside
  let frame : Frame α := { self := some (numbers type self) }
  have one : evaluate (exact given) calls frame (own component) = .ok (.number (self component)) :=
    evaluate_own inside
  have free : frame.find? "Mathf" = none := find_free rfl (by rintro ⟨⟩ <;> decide) self
  exact evaluate_routine free (evaluateAll_cons one evaluateAll_nil)

section Arguments
variable (accepted : Accepted options.arguments)
include accepted

theorem chosen_computed {name : String} {choose : α → α → α}
    (declares : chooser type name (sourceVector type.name options.arguments)
      (chosen options.arguments name) ∈ methods type options.arguments)
    (chooses : ∀ first second, (exact given).routine "Mathf" name
      [.number first, .number second] = .ok (.number (choose first second)))
    (hidden : options.arguments.single ≠ "Mathf") (first second : Component → α) :
    Computes (exact given) structs type (.method (numbers type first) name [numbers type second])
      fun component => .ok (choose (first component) (second component)) := by
  have bound : bound? (fun _ => none) (sourceVector type.name options.arguments)
      [numbers type second] = some [(options.arguments.single, numbers type second)] := by
    simp [sourceVector, bound?, numbers, isA_vectorOf]
  refine chooser_computed numeric declares ⟨rfl, rfl⟩ bound (fun _ => rfl) ?_
  intro calls component inside
  let frame : Frame α := {
    locals := [(options.arguments.single, numbers type second)]
    self := some (numbers type first) }
  have shown : component.name ≠ options.arguments.single := accepted.single.ne_component component
  have one : evaluate (exact given) calls frame (own component) = .ok (.number (first component)) :=
    evaluate_name (find_own (by simp [List.lookup_cons, beq_false_of_ne shown]) inside _)
  have argument : frame.find? options.arguments.single = some (numbers type second) := by
    simp [frame, Frame.find?]
  have other : evaluate (exact given) calls frame (part options.arguments.single component) =
      .ok (.number (second component)) := evaluate_part argument inside
  have free : frame.find? "Mathf" = none :=
    find_beside hidden (by rintro ⟨⟩ <;> decide) _ first
  exact (evaluate_routine free (evaluateAll_cons one (evaluateAll_cons other evaluateAll_nil))).trans (chooses _ _)

end Arguments

theorem clamped_computed (self low high : Component → α) :
    Computes (exact given) structs type
      (.method (numbers type self) "Clamp" [numbers type low, numbers type high])
      fun component => .ok (given.clamped (self component) (low component) (high component)) := by
  have declares : chooser type "Clamp" (range type) clamped ∈ methods type options.arguments := by
    simp [methods]
  have bound : bound? (fun _ => none) (range type) [numbers type low, numbers type high] =
      some [("min", numbers type low), ("max", numbers type high)] := by
    simp [range, bound?, numbers, isA_vectorOf]
  refine chooser_computed numeric declares ⟨rfl, rfl⟩ bound (fun _ => rfl) ?_
  intro calls component inside
  let frame : Frame α := {
    locals := [("min", numbers type low), ("max", numbers type high)]
    self := some (numbers type self) }
  have one : evaluate (exact given) calls frame (own component) = .ok (.number (self component)) :=
    evaluate_name (find_own (by cases component <;> rfl) inside _)
  have lowest : frame.find? "min" = some (numbers type low) := rfl
  have highest : frame.find? "max" = some (numbers type high) := rfl
  have least : evaluate (exact given) calls frame (part "min" component) =
      .ok (.number (low component)) := evaluate_part lowest inside
  have greatest : evaluate (exact given) calls frame (part "max" component) =
      .ok (.number (high component)) := evaluate_part highest inside
  have free : frame.find? "Mathf" = none := find_free rfl (by rintro ⟨⟩ <;> decide) self
  exact evaluate_routine free
    (evaluateAll_cons one (evaluateAll_cons least (evaluateAll_cons greatest evaluateAll_nil)))

end Measures

section Results
variable (given : Routines α) (options : Options) (type : VectorType)

/-- The functions of one vector. -/
structure MeasuresOne (vector : Component → α) : Prop where
  sqrMagnitude : Answers (exact given) (family options)
    (.method (numbers type vector) "SqrMagnitude" []) (.ok (.number (squares type vector)))
  nonnegative : 0 ≤ squares type vector
  zero : squares type vector = 0 ↔ ∀ component ∈ type.dimension.components, vector component = 0
  magnitude : Answers (exact given) (family options) (.method (numbers type vector) "Magnitude" [])
    (.ok (.number (given.root type.kind (squares type vector))))
  minValue : ∃ least, Answers (exact given) (family options)
      (.method (numbers type vector) "MinValue" []) (.ok (.number least)) ∧
    (∃ component ∈ type.dimension.components, vector component = least) ∧
    ∀ component ∈ type.dimension.components, least ≤ vector component
  maxValue : ∃ greatest, Answers (exact given) (family options)
      (.method (numbers type vector) "MaxValue" []) (.ok (.number greatest)) ∧
    (∃ component ∈ type.dimension.components, vector component = greatest) ∧
    ∀ component ∈ type.dimension.components, vector component ≤ greatest
  abs : Answers (exact given) (family options) (.method (numbers type vector) "Abs" [])
    (.ok (numbers type fun component => |vector component|))

/-- The functions of two vectors. -/
structure MeasuresTwo (first second : Component → α) : Prop where
  sqrDistance : Answers (exact given) (family options)
    (.method (numbers type first) "SqrDistance" [numbers type second])
    (.ok (.number (squares type fun component => first component - second component)))
  symmetric : Answers (exact given) (family options)
    (.method (numbers type second) "SqrDistance" [numbers type first])
    (.ok (.number (squares type fun component => first component - second component)))
  distance : Answers (exact given) (family options)
    (.method (numbers type first) "Distance" [numbers type second])
    (.ok (.number (given.root type.kind
      (squares type fun component => first component - second component))))
  min : Answers (exact given) (family options)
    (.method (numbers type first) "Min" [numbers type second])
    (.ok (numbers type fun component => min (first component) (second component)))
  max : Answers (exact given) (family options)
    (.method (numbers type first) "Max" [numbers type second])
    (.ok (numbers type fun component => max (first component) (second component)))

/-- What `Clamp` does where the bounds do not cross. -/
structure Clamps (vector low high : Component → α) : Prop where
  between : (∀ component ∈ type.dimension.components, low component ≤ high component) →
    ∃ within, Answers (exact given) (family options)
        (.method (numbers type vector) "Clamp" [numbers type low, numbers type high])
        (.ok (numbers type within)) ∧
      ∀ component ∈ type.dimension.components,
        low component ≤ within component ∧ within component ≤ high component
  kept : (∀ component ∈ type.dimension.components,
      low component ≤ vector component ∧ vector component ≤ high component) →
    Answers (exact given) (family options)
      (.method (numbers type vector) "Clamp" [numbers type low, numbers type high])
      (.ok (numbers type vector))

end Results

omit [LinearOrder α] in
theorem squares_comm (first second : Component → α) :
    squares type (fun component => first component - second component) =
      squares type fun component => second component - first component := by
  rw [squares, squares]
  congr 1
  funext component
  ring

section Measured
variable (given) (numeric : type.kind.isNumeric)
include numeric

theorem clamp_confines (vector low high : Component → α) : Clamps given options type vector low high := by
  have computes : Computes (exact given) (family options) type
      (.method (numbers type vector) "Clamp" [numbers type low, numbers type high]) _ :=
    clamped_computed numeric vector low high
  constructor
  · intro ordered
    refine ⟨_, computes.computed _ fun _ _ => rfl, ?_⟩
    intro component inside
    exact clamped_between (ordered component inside)
  · intro inside
    apply computes.computed
    intro component member
    obtain ⟨above, below⟩ := inside component member
    rw [clamped_kept above below]

theorem two_measured (accepted : Accepted options.arguments)
    (hidden : options.arguments.single ∉ ["Mathf", rootHolder type.kind, "SqrDistance"])
    (first second : Component → α) : MeasuresTwo given options type first second := by
  simp only [List.mem_cons, List.not_mem_nil, or_false, not_or] at hidden
  obtain ⟨chooser, holder, method⟩ := hidden
  constructor
  · rw [squares_comm]
    exact sqrDistance_answered numeric accepted first second
  · exact sqrDistance_answered numeric accepted second first
  · rw [squares_comm]
    exact distance_answered numeric accepted holder method first second
  · have declares : FunctionMeaning.chooser type "Min" (sourceVector type.name options.arguments)
        (chosen options.arguments "Min") ∈ methods type options.arguments := by simp [methods]
    exact (chosen_computed numeric accepted declares (fun _ _ => rfl) chooser first second).computed _
      fun _ _ => rfl
  · have declares : FunctionMeaning.chooser type "Max" (sourceVector type.name options.arguments)
        (chosen options.arguments "Max") ∈ methods type options.arguments := by simp [methods]
    exact (chosen_computed numeric accepted declares (fun _ _ => rfl) chooser first second).computed _
      fun _ _ => rfl

end Measured

section Ordered
variable [IsStrictOrderedRing α]

theorem sum_squares_nonneg (components : List Component) (value : Component → α) :
    0 ≤ (components.map fun component => value component * value component).sum := by
  apply List.sum_nonneg
  intro square member
  obtain ⟨component, -, rfl⟩ := List.mem_map.mp member
  exact mul_self_nonneg (value component)

theorem sum_squares_eq_zero (components : List Component) (value : Component → α) :
    (components.map fun component => value component * value component).sum = 0 ↔
      ∀ component ∈ components, value component = 0 := by
  induction components with
  | nil => simp
  | cons first rest ih =>
    rw [List.map_cons, List.sum_cons, add_eq_zero_iff_of_nonneg (mul_self_nonneg (value first))
      (sum_squares_nonneg rest value), mul_self_eq_zero, ih, List.forall_mem_cons]

theorem one_measured (given : Routines α) (numeric : type.kind.isNumeric) (vector : Component → α) :
    MeasuresOne given options type vector := by
  constructor
  · exact .of_run 0 fun _ _ => run_squares numeric vector
  · exact sum_squares_nonneg _ _
  · exact sum_squares_eq_zero _ _
  · exact magnitude_answered numeric vector
  · have declares : (extreme type "MinValue" "Min").inlined ∈ methods type options.arguments := by
      simp [methods, measures]
    obtain ⟨first, rest, shape, answered⟩ : ∃ first rest, type.dimension.components = first :: rest ∧
        Answers (exact given) (family options) (.method (numbers type vector) "MinValue" [])
          (.ok (.number (survivor min vector first rest))) :=
      extreme_answered numeric declares (fun _ _ => rfl) vector
    rw [shape]
    exact ⟨_, answered, survivor_present min_choice first rest,
      survivor_bounds (fun _ _ => ⟨min_le_left _ _, min_le_right _ _⟩) first rest⟩
  · have declares : (extreme type "MaxValue" "Max").inlined ∈ methods type options.arguments := by
      simp [methods, measures]
    obtain ⟨first, rest, shape, answered⟩ : ∃ first rest, type.dimension.components = first :: rest ∧
        Answers (exact given) (family options) (.method (numbers type vector) "MaxValue" [])
          (.ok (.number (survivor max vector first rest))) :=
      extreme_answered numeric declares (fun _ _ => rfl) vector
    have above : ∀ component ∈ first :: rest, survivor max vector first rest ≥ vector component :=
      survivor_bounds (fun _ _ => ⟨le_max_left _ _, le_max_right _ _⟩) first rest
    rw [shape]
    exact ⟨_, answered, survivor_present max_choice first rest, above⟩
  · exact (absolute_computed numeric vector).computed _ fun _ _ => rfl

/-- The functions compute what their names say in all numeric files. Of the identifiers that the
checks leave open for the single argument, only three would hide what a body calls: two static
classes, and a method of the struct. -/
theorem functions_compute (accepted : Config.checkNames [] options.arguments.toList = .ok ())
    (given : Routines α) :
    (∀ type : VectorType,
      generate type options = .ok (fileText options (declared type options))) ∧
    ∀ type : VectorType, type.kind.isNumeric = true →
      (∀ vector : Component → α, MeasuresOne given options type vector) ∧
      (options.arguments.single ∉ ["Mathf", rootHolder type.kind, "SqrDistance"] →
        ∀ first second : Component → α, MeasuresTwo given options type first second) ∧
      ∀ vector low high : Component → α, Clamps given options type vector low high := by
  refine ⟨fun type => generate_eq type options, ?_⟩
  intro type numeric
  refine ⟨?_, ?_, ?_⟩
  · intro vector
    exact one_measured given numeric vector
  · intro hidden first second
    exact two_measured given numeric (accepted_of_checkNames accepted) hidden first second
  · intro vector low high
    exact clamp_confines given numeric vector low high

end Ordered

end Exact

theorem integers_measured :
    Config.checkNames [] ({} : Options).arguments.toList = .ok () ∧
      ({} : Options).arguments.single ∉ ["Mathf", rootHolder .int, "SqrDistance"] ∧
      Answers (exact whole) (family {}) (.method (numbers ⟨.int, .three⟩ fun component =>
        component.index) "SqrMagnitude" []) (.ok (.number 5)) ∧
      MeasuresTwo whole {} ⟨.int, .five⟩ (fun component => component.index) fun _ => 2 := by
  have accepted : Config.checkNames [] ({} : Options).arguments.toList = .ok () := by decide
  have hidden : ({} : Options).arguments.single ∉ ["Mathf", rootHolder .int, "SqrDistance"] := by
    decide
  obtain ⟨-, computes⟩ := functions_compute accepted whole
  obtain ⟨one, -⟩ := computes ⟨.int, .three⟩ rfl
  obtain ⟨-, two, -⟩ := computes ⟨.int, .five⟩ rfl
  exact ⟨accepted, hidden, (one fun component => component.index).sqrMagnitude, two hidden _ _⟩

end VectorForge.Proofs.FunctionMeaning
