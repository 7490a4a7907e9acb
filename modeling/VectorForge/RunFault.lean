import VectorForge.Config.Source

/-! Why a run ended early. A fault has a headline, which says what could not be done,
and the causes that are known. -/

namespace VectorForge

inductive RunFault where
  | emission (typeName : String) (cause : Fault)
  | createDirectory (path : String)
  | writeFile (path : String)
  | readFile (path : String)
  | readConfig (path : String)
  | invalidConfig (path : String) (cause : SourceFault)
  /-- The files on disk are not the ones that would be generated. -/
  | drift (missing changed : Nat) (directory : String)
  deriving DecidableEq

namespace RunFault

def headline : RunFault → String
  | .emission typeName _ => "Failed to generate " ++ typeName
  | .createDirectory path => "Failed to create output directory: " ++ path
  | .writeFile path => "Failed to write " ++ path
  | .readFile path => "Failed to read " ++ path
  | .readConfig path => "Failed to read config file: " ++ path
  | .invalidConfig path _ => "Invalid config file: " ++ path
  | .drift missing changed directory =>
    toString missing ++ " missing and " ++ toString changed ++ " drifted file(s) in " ++ directory

/-- What led to the fault, from the outermost text in. -/
def causes : RunFault → List String
  | .emission _ cause => [cause.message]
  | .invalidConfig _ cause => cause.messages
  | _ => []

/-- The headline and all causes. -/
def message (fault : RunFault) : String := ": ".intercalate (fault.headline :: fault.causes)

end RunFault

end VectorForge
