import VectorForge.Proofs.CodeMeaning

/-! What assignments to indexers do. A setter runs its assignments one after another, and an
assignment to an entry runs a setter again. One that fails ends them all, and what had been
assigned before stays assigned. -/

namespace VectorForge.Proofs.SetterMeaning
open CodeSyntax CodeMeaning

/-- How code that runs on a struct ends, and the struct that it leaves behind. -/
abbrev Mutation (α : Type) := Datum α → Result Unit × Datum α

def failing (halt : Halt) : Mutation α := fun self => (.error halt, self)

def becoming : Result (Datum α) → Mutation α
  | .ok next => fun _ => (.ok (), next)
  | .error halt => failing halt

def inTurn : List (Mutation α) → Mutation α
  | [] => fun self => (.ok (), self)
  | first :: rest => fun self =>
    match first self with
    | (.ok (), next) => inTurn rest next
    | stopped => stopped

section Setters
variable [LinearOrder α] (library : Library α)

/-- The expression that a switch has for a number. -/
def arm? (arms : List (Nat × Expression)) : List (Datum α) → Option Expression
  | [.number value] => (arms.find? fun (number, _) => library.literal number = value).map Prod.snd
  | _ => none

section Declarations
variable (calls : Call α → Result (Datum α)) (setters : List (Datum α) → Datum α → Mutation α)

/-- An assignment inside a setter. Entries of the struct are assigned by its own setters. -/
def written (locals : List (String × Datum α)) (assignment : Assignment) : Mutation α := fun self =>
  let frame : Frame α := { locals, self := some self }
  match assignment.target with
  | .entry indices =>
    let parts : Result (List (Datum α) × Datum α) := do
      if !allIntact indices then throw .stuck
      let positions ← evaluateAll library calls frame indices
      let value ← returned library calls "" frame assignment.value
      return (positions, value)
    match parts with
    | .ok (positions, value) => setters positions value self
    | .error halt => failing halt self
  | _ => becoming (assign library calls locals self assignment) self

/-- What an indexer does with an assigned value if its parameters take the indices. One without
a setter cannot be assigned to. -/
def stored? (indices : List (Datum α)) (value : Datum α) : Declaration → Option (Mutation α)
  | .numbered type index arms otherwise =>
    (bound? (fun _ => none) [index] indices).map fun locals self =>
      let locals := locals ++ [("value", value)]
      if value.isA type then
        match arm? library arms indices with
        | some field => written library calls setters locals ⟨field, .name "value"⟩ self
        | none =>
          let frame : Frame α := { locals, self := some self }
          becoming (do let _ ← returned library calls type frame otherwise; return self) self
      else failing .stuck self
  | .indexer type parameters _ setter =>
    (bound? (fun _ => none) parameters indices).map fun locals =>
      match setter with
      | some body =>
        if value.isA type then
          inTurn (body.map (written library calls setters (locals ++ [("value", value)])))
        else failing .stuck
      | none => failing .stuck
  | _ => none

end Declarations

variable (structs : List Struct)

/-- Assigns to an entry of a struct, when calls may be nested so deep. -/
def store : Nat → List (Datum α) → Datum α → Mutation α
  | 0, _, _ => failing .deep
  | depth + 1, indices, value => fun self =>
    let declared := (self.structName?.bind (struct? structs)).elim [] Struct.declarations
    let setter := declared.findSome?
      (stored? library (answer library structs depth) (store depth) indices value)
    setter.getD (failing .stuck) self

/-- What an assignment to an entry ends with and leaves behind, however deep calls may be nested
beyond some depth. -/
def Assigns (self : Datum α) (indices : List (Datum α)) (value : Datum α) (outcome : Result Unit)
    (next : Datum α) : Prop :=
  ∃ enough, ∀ depth, enough ≤ depth →
    store library structs depth indices value self = (outcome, next)

end Setters

theorem inTurn_cons {first : Mutation α} {self next : Datum α} (done : first self = (.ok (), next))
    (rest : List (Mutation α)) : inTurn (first :: rest) self = inTurn rest next := by
  simp only [inTurn, done]

theorem inTurn_stops {first : Mutation α} {self next : Datum α} {halt : Halt}
    (failed : first self = (.error halt, next)) (rest : List (Mutation α)) :
    inTurn (first :: rest) self = (.error halt, next) := by
  simp only [inTurn, failed]

theorem inTurn_append {before : List (Mutation α)} {self next : Datum α}
    (done : inTurn before self = (.ok (), next)) (after : List (Mutation α)) :
    inTurn (before ++ after) self = inTurn after next := by
  induction before generalizing self with
  | nil =>
    cases done
    rfl
  | cons first before ih =>
    rw [List.cons_append]
    rcases ran : first self with ⟨outcome, middle⟩
    cases outcome with
    | error halt =>
      rw [inTurn_stops ran] at done
      cases done
    | ok _ =>
      rw [inTurn_cons ran] at done ⊢
      exact ih done

variable [LinearOrder α] {library : Library α} {structs : List Struct}

theorem written_entry {calls : Call α → Result (Datum α)}
    {setters : List (Datum α) → Datum α → Mutation α} {locals : List (String × Datum α)}
    {indices : List Expression} {right : Expression} {self value : Datum α}
    {positions : List (Datum α)} (whole : allIntact indices = true)
    (numbers : evaluateAll library calls { locals, self := some self } indices = .ok positions)
    (read : returned library calls "" { locals, self := some self } right = .ok value) :
    written library calls setters locals ⟨.entry indices, right⟩ self =
      setters positions value self := by
  simp only [written, whole, numbers, read]
  rfl

theorem Assigns.of_depth {self : Datum α} {indices : List (Datum α)} {value : Datum α}
    {outcome : Result Unit} {next : Datum α} (enough : Nat)
    (holds : ∀ further, store library structs (further + enough) indices value self = (outcome, next)) :
    Assigns library structs self indices value outcome next := by
  refine ⟨enough, ?_⟩
  intro depth deep
  obtain ⟨further, rfl⟩ := Nat.exists_eq_add_of_le' deep
  exact holds further

end VectorForge.Proofs.SetterMeaning
