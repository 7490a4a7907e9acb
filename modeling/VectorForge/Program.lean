import VectorForge.Member
import VectorForge.Writer

/-! Texts as programs of writing steps. A program is data, so what it writes can be
computed, moved and compared; running it also records the state after every step. -/

namespace VectorForge

inductive Action where
  | write (text : String) (breaks : Nat)
  | indent
  | unindent
  | openRegion (name : String)
  | closeRegion
  | member (declared : Member)
  /-- A member with the arguments of its body on lines of their own. -/
  | spread (declared : Member) (items : List String)
  /-- Lines made elsewhere at depth zero. -/
  | insert (lines : List Line)
  /-- Asks whether the text could end here. -/
  | check
  | fail (fault : Fault)
  deriving DecidableEq

inductive Scope where
  | indented
  /-- The body stands one level deeper between braces. -/
  | block (ending : String)
  | region (name : String)
  deriving DecidableEq

/-- Steps in order. A step that fails ends the program unless it is guarded. -/
inductive Program where
  | done
  | act (action : Action) (guarded : Bool) (rest : Program)
  | scoped (scope : Scope) (guarded : Bool) (body rest : Program)
  deriving DecidableEq, Inhabited

namespace Action

/-- What a step does to a writer; a step that fails does nothing. -/
def perform (writer : Writer) : Action → Except Fault Writer
  | .write text breaks => .ok (writer.write text breaks)
  | .indent => .ok writer.indent
  | .unindent => writer.unindent
  | .openRegion name => writer.openRegion name
  | .closeRegion => writer.closeRegion
  | .member declared => .ok (writer.append declared.lines)
  | .spread declared items => .ok (writer.append (declared.spreadLines items))
  | .insert lines => .ok (writer.append lines)
  | .check => writer.finish.map fun _ => writer
  | .fail fault => .error fault

end Action

namespace Scope

def enter (writer : Writer) : Scope → Except Fault Writer
  | .indented => .ok writer.indent
  | .block _ => .ok (writer.write "\x7b").indent
  | .region name => writer.openRegion name

/-- The writer after the body, and what the whole step reports. The depth from before
an indented body is restored however the body ended; a region is closed even after a
fault, and the body's own fault counts more than one of the closing. -/
def leave (outside : Writer) (result : Except Fault Unit) (inside : Writer) :
    Scope → Except Fault Unit × Writer
  | .indented => (result, { inside with depth := outside.depth })
  | .block ending =>
    let writer := { inside with depth := outside.depth }
    match result with
    | .ok _ => (result, writer.write ("\x7d" ++ ending))
    | .error _ => (result, writer)
  | .region _ =>
    match inside.closeRegion with
    | .ok writer => (result, writer)
    | .error fault => (result.bind fun _ => .error fault, inside)

end Scope

structure Entry where
  step : Action ⊕ Scope
  result : Except Fault Unit
  writer : Writer

structure Outcome where
  result : Except Fault Unit
  writer : Writer
  /-- One entry for every step that ended, in that order. -/
  trace : List Entry

namespace Program

/-- Runs a program. The steps of a body are recorded before the step that holds them. -/
def run : Program → Writer → Outcome
  | .done, writer => ⟨.ok (), writer, []⟩
  | .act action guarded rest, writer =>
    match action.perform writer with
    | .ok next =>
      let after := rest.run next
      { after with trace := ⟨.inl action, .ok (), next⟩ :: after.trace }
    | .error fault =>
      let entry : Entry := ⟨.inl action, .error fault, writer⟩
      if guarded then
        let after := rest.run writer
        { after with trace := entry :: after.trace }
      else ⟨.error fault, writer, [entry]⟩
  | .scoped scope guarded body rest, writer =>
    match scope.enter writer with
    | .error fault =>
      let entry : Entry := ⟨.inr scope, .error fault, writer⟩
      if guarded then
        let after := rest.run writer
        { after with trace := entry :: after.trace }
      else ⟨.error fault, writer, [entry]⟩
    | .ok start =>
      let inner := body.run start
      let (result, next) := scope.leave writer inner.result inner.writer
      let entries := inner.trace ++ [⟨.inr scope, result, next⟩]
      match result, guarded with
      | .error fault, false => ⟨.error fault, next, entries⟩
      | _, _ =>
        let after := rest.run next
        { after with trace := entries ++ after.trace }

def append : Program → Program → Program
  | .done, next => next
  | .act action guarded rest, next => .act action guarded (rest.append next)
  | .scoped scope guarded body rest, next => .scoped scope guarded body (rest.append next)

instance : Append Program := ⟨append⟩

def join (programs : List Program) : Program := programs.foldr append .done

def one (action : Action) : Program := .act action false .done

def write (text : String) (breaks : Nat := 1) : Program := one (.write text breaks)

def writeAll (texts : List String) : Program := join (texts.map fun text => write text)

def member (declared : Member) : Program := one (.member declared)

def members (declared : List Member) : Program := join (declared.map member)

def spread (declared : Member) (items : List String) : Program :=
  one (.spread declared items)

def block (body : Program) (ending : String := "") : Program :=
  .scoped (.block ending) false body .done

def region (name : String) (body : Program) : Program :=
  .scoped (.region name) false body .done

/-- The lines of a text that the program writes from beginning to end. -/
def text (program : Program) : Except Fault (List Line) := do
  let outcome := program.run {}
  outcome.result
  outcome.writer.finish

end Program

end VectorForge
