import Mathlib.Algebra.Order.Group.Unbundled.Abs
import Mathlib.Algebra.Order.Ring.Int
import Mathlib.Data.Nat.Sqrt
import VectorForge.Proofs.CodeMeaning

/-! Numbers without bounds and without rounding, such as the integers and the rationals. A
routine that compares or clamps is then the function of that name; division, roots, casts and
rounding can be any functions. -/

namespace VectorForge.Proofs.ExactNumbers
open CodeSyntax CodeMeaning

/-- What the numbers do not decide by themselves. -/
structure Routines (α : Type) where
  quotient : α → α → α
  remainder : α → α → α
  cast : String → α → α
  rounded : Rounding → α → α
  integerRoot : α → α
  squareRoot : α → α
  /-- What a number is clamped to where the lower bound is above the upper one. -/
  crossed : α → α → α → α

def Undefined [Zero α] (symbol : String) (second : α) : Prop := symbol ∈ ["/", "%"] ∧ second = 0

instance [Zero α] [DecidableEq α] (symbol : String) (second : α) :
    Decidable (Undefined symbol second) :=
  inferInstanceAs (Decidable (_ ∧ _))

section Values
variable [CommRing α] (given : Routines α)

/-- What an operator computes where it is defined. -/
def Routines.value (symbol : String) (first second : α) : α :=
  match symbol with
  | "+" => first + second
  | "-" => first - second
  | "*" => first * second
  | "/" => given.quotient first second
  | _ => given.remainder first second

def Routines.root : Kind → α → α
  | .int => given.integerRoot
  | _ => given.squareRoot

variable [LinearOrder α]

def Routines.clamped (number low high : α) : α :=
  if low ≤ high then max low (min number high) else given.crossed number low high

def Routines.arithmetic (symbol : String) (first second : α) : Result α :=
  if symbol ∈ arithmeticSymbols then
    if Undefined symbol second then .error (.thrown "DivideByZeroException")
    else .ok (given.value symbol first second)
  else .error .stuck

def Routines.routine (holder method : String) (arguments : List (Datum α)) : Result (Datum α) :=
  match holder, method, arguments with
  | "Toolbox", "ISqrt", [.number number] => .ok (.number (given.integerRoot number))
  | "Mathf", "Sqrt", [.number number] => .ok (.number (given.squareRoot number))
  | "Mathf", "Abs", [.number number] => .ok (.number |number|)
  | "Mathf", "Min", [.number first, .number second] => .ok (.number (min first second))
  | "Mathf", "Max", [.number first, .number second] => .ok (.number (max first second))
  | "Mathf", "Clamp", [.number number, .number low, .number high] =>
    .ok (.number (given.clamped number low high))
  | "Mathf", "RoundToInt", [.number number] => .ok (.number (given.rounded .round number))
  | "Mathf", "CeilToInt", [.number number] => .ok (.number (given.rounded .ceil number))
  | "Mathf", "FloorToInt", [.number number] => .ok (.number (given.rounded .floor number))
  | _, _, _ => .error .stuck

def exact : Library α where
  literal number := number
  negated number := -number
  cast := given.cast
  arithmetic := given.arithmetic
  routine := given.routine

end Values

section Clamping
variable [LinearOrder α] {given : Routines α} {number low high : α}

theorem clamped_between (ordered : low ≤ high) :
    low ≤ given.clamped number low high ∧ given.clamped number low high ≤ high := by
  rw [Routines.clamped, if_pos ordered]
  exact ⟨le_max_left _ _, max_le ordered (min_le_right _ _)⟩

theorem clamped_kept (above : low ≤ number) (below : number ≤ high) :
    given.clamped number low high = number := by
  rw [Routines.clamped, if_pos (above.trans below), min_eq_left below, max_eq_right above]

end Clamping

variable [CommRing α] [LinearOrder α] {given : Routines α}

theorem exact_defined {symbol : String} (calculates : symbol ∈ arithmeticSymbols)
    {second : α} (defined : ¬Undefined symbol second) (first : α) :
    (exact given).arithmetic symbol first second = .ok (given.value symbol first second) := by
  simp [exact, Routines.arithmetic, calculates, defined]

theorem exact_undefined {symbol : String} {second : α} (undefined : Undefined symbol second)
    (first : α) :
    (exact given).arithmetic symbol first second = .error (.thrown "DivideByZeroException") := by
  have known : ∀ symbol ∈ ["/", "%"], symbol ∈ arithmeticSymbols := by decide
  have calculates := known symbol undefined.1
  simp [exact, Routines.arithmetic, calculates, undefined]

theorem exact_root (kind : Kind) (number : α) :
    (exact given).routine (FunctionCode.rootHolder kind) (FunctionCode.rootMethod kind)
      [.number number] = .ok (.number (given.root kind number)) := by
  cases kind <;> rfl

theorem exact_rounded (mode : Rounding) (number : α) :
    (exact given).routine "Mathf" (mode.verb ++ "ToInt") [.number number] =
      .ok (.number (given.rounded mode number)) := by
  cases mode <;> rfl

/-- Integers that are divided towards zero. -/
def whole : Routines Int where
  quotient := Int.tdiv
  remainder := Int.tmod
  cast _ number := number
  rounded _ number := number
  integerRoot number := Nat.sqrt number.toNat
  squareRoot number := Nat.sqrt number.toNat
  crossed number _ _ := number

end VectorForge.Proofs.ExactNumbers
