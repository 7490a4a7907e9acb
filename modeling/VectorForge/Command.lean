import VectorForge.Output

/-! The command line: which flags there are, how arguments are read, and what a run
does with the flags it was given. -/

namespace VectorForge

structure Flags where
  config : Option String := none
  outDir : Option String := none
  /-- Compare with the files on disk and write nothing. -/
  check : Bool := false
  deriving DecidableEq

inductive Invocation where
  | run (flags : Flags)
  | help
  | misuse
  deriving DecidableEq

namespace Flags

/-- An argument before and after its first equals sign. -/
def splitArgument (argument : String) : String × Option String :=
  match argument.toList.span (· != '=') with
  | (_, []) => (argument, none)
  | (name, _ :: value) => (String.ofList name, some (String.ofList value))

/-- Whether an argument of its own can be the value of the flag before it. -/
def isValue (argument : String) : Bool :=
  match argument.toList with
  | '-' :: _ :: _ => false
  | _ => true

def isShortHelp (argument : String) : Bool :=
  match argument.toList with
  | '-' :: 'h' :: _ => true
  | _ => false

def setConfig? (flags : Flags) (path : String) : Option Flags :=
  if flags.config.isSome || path.isEmpty then none else some { flags with config := some path }

def setOutDir? (flags : Flags) (directory : String) : Option Flags :=
  if flags.outDir.isSome || directory.isEmpty then none
  else some { flags with outDir := some directory }

/-- How the value of a flag is taken, if the flag has one. -/
def setter? : String → Option (Flags → String → Option Flags)
  | "--config" => some setConfig?
  | "--out-dir" => some setOutDir?
  | _ => none

/-- Reads arguments from left to right. The first one that asks for help or cannot be
read decides. -/
def parse (flags : Flags) : List String → Invocation
  | [] => .run flags
  | argument :: rest =>
    match splitArgument argument with
    | ("--", none) => if rest.isEmpty then .run flags else .misuse
    | ("--help", none) => .help
    | ("--check", none) => if flags.check then .misuse else parse { flags with check := true } rest
    | (name, attached) =>
      match setter? name, attached, rest with
      | some setFlag, some value, rest =>
        match setFlag flags value with
        | some flags => parse flags rest
        | none => .misuse
      | some setFlag, none, value :: rest =>
        match if isValue value then setFlag flags value else none with
        | some flags => parse flags rest
        | none => .misuse
      | some _, none, [] => .misuse
      | none, _, _ => if isShortHelp argument then .help else .misuse

end Flags

namespace Host

variable {m : Type → Type} [Monad m] (host : Host m)

/-- The configuration of a run: the one in the file or the standard one, with its
output directory replaced if a flag says so. -/
def configure (flags : Flags) (decode : Config.Decoder := Config.ofYaml?) :
    ExceptT RunFault m Config := do
  let config ← match flags.config with
    | some path => host.loadConfig path decode
    | none => pure {}
  return { config with outputDir := flags.outDir.getD config.outputDir }

def perform (flags : Flags) (decode : Config.Decoder := Config.ofYaml?) :
    ExceptT RunFault m Unit := do
  let config ← host.configure flags decode
  if flags.check then
    let report ← host.check config
    if !report.isClean then
      throw (.drift report.missing.length report.changed.length config.outputDir)
  else
    let _ ← host.writeAll config

end Host

namespace Command

inductive Ending where
  | success
  | help
  | misuse
  | failure (fault : RunFault)
  deriving DecidableEq

def Ending.exitCode : Ending → Nat
  | .success | .help => 0
  | .failure _ => 1
  | .misuse => 2

def run {m : Type → Type} [Monad m] (host : Host m) (arguments : List String)
    (decode : Config.Decoder := Config.ofYaml?) : m Ending := do
  match Flags.parse {} arguments with
  | .help => return .help
  | .misuse => return .misuse
  | .run flags =>
    match ← (host.perform flags decode).run with
    | .ok () => return .success
    | .error fault => return .failure fault

end Command

end VectorForge
