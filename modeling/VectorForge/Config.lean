import VectorForge.Options

/-! What a run of the generator is told: where its files go, how they are named and
what they look like. -/

namespace VectorForge

structure Config where
  /-- The directory that receives one file for each type; empty for the current one. -/
  outputDir : String := "generated"
  /-- What follows the dot in a file's name. -/
  extension : String := "cs"
  emit : Options := {}
  deriving DecidableEq

def Config.fileName (config : Config) (typeName : String) : String :=
  typeName ++ "." ++ config.extension

end VectorForge
