import VectorForge.FileSystem
import VectorForge.Manifest
import VectorForge.Plan
import VectorForge.RunFault

/-! The generated files and the directory that holds them: every file is rendered from
the configuration alone, then written or compared with what is there. Files are
handled in the order of `VectorType.all`, and the first failure ends a run. -/

namespace VectorForge

structure Rendered where
  type : VectorType
  fileName : String
  content : String
  digest : String

namespace Rendered

def typeName (file : Rendered) : String := file.type.name

def bytes (file : Rendered) : ByteArray := file.content.toUTF8

end Rendered

/-- How the files of a directory differ from the rendered ones. -/
structure DriftReport where
  checked : Nat := 0
  /-- The paths where nothing is. -/
  missing : List String := []
  /-- The paths of files with another digest. -/
  changed : List String := []
  deriving DecidableEq

def DriftReport.isClean (report : DriftReport) : Bool :=
  report.missing.isEmpty && report.changed.isEmpty

namespace Config

/-- Where a file of this name goes. The directory's text stays as it is; a slash is put
behind it unless it has one there or is empty. -/
def outputPath (config : Config) (fileName : String) : String :=
  match config.outputDir.toList.getLast? with
  | none | some '/' => config.outputDir ++ fileName
  | some _ => config.outputDir ++ "/" ++ fileName

def pathOf (config : Config) (type : VectorType) : String :=
  config.outputPath (config.fileName type.name)

end Config

/-- Where a run happens: the files it sees, and how it names a content in short. -/
structure Host (m : Type → Type) where
  files : FileSystem m
  digest : ByteArray → String

namespace Host

variable {m : Type → Type} [Monad m] (host : Host m)

def render (config : Config) (type : VectorType) : Except RunFault Rendered :=
  match generate type config.emit with
  | .ok content =>
    .ok {
      type, content
      fileName := config.fileName type.name
      digest := host.digest content.toUTF8 }
  | .error cause => .error (.emission type.name cause)

def renderAll (config : Config) : Except RunFault (List Rendered) :=
  VectorType.all.mapM (host.render config)

/-- Writes the files of some types and adds them to a manifest. Files written before a
failure stay. -/
def writeFiles (config : Config) (manifest : Manifest) :
    List VectorType → ExceptT RunFault m Manifest
  | [] => pure manifest
  | type :: rest => do
    let file ← host.render config type
    if ← host.files.write (config.pathOf type) file.bytes then
      writeFiles config (manifest.insert file.typeName file.digest) rest
    else throw (.writeFile (config.pathOf type))

def writeAll (config : Config) : ExceptT RunFault m Manifest := do
  if ← host.files.createDirectories config.outputDir then
    host.writeFiles config {} VectorType.all
  else throw (.createDirectory config.outputDir)

/-- Goes on with the bytes at a path if there are any. -/
def readIfPresent (path : String) : ExceptT RunFault m (Option ByteArray) := do
  match ← host.files.read path with
  | .absent => return none
  | .unreadable => throw (.readFile path)
  | .content bytes => return some bytes

def compare (config : Config) (report : DriftReport) :
    List Rendered → ExceptT RunFault m DriftReport
  | [] => pure report
  | file :: rest => do
    let path := config.pathOf file.type
    let counted := { report with checked := report.checked + 1 }
    match ← host.readIfPresent path with
    | none => compare config { counted with missing := report.missing ++ [path] } rest
    | some bytes =>
      if host.digest bytes = file.digest then compare config counted rest
      else compare config { counted with changed := report.changed ++ [path] } rest

/-- Compares every file with what is on disk, and writes nothing. -/
def check (config : Config) : ExceptT RunFault m DriftReport := do
  let files ← host.renderAll config
  host.compare config {} files

def readManifest (config : Config) (manifest : Manifest) :
    List VectorType → ExceptT RunFault m Manifest
  | [] => pure manifest
  | type :: rest => do
    match ← host.readIfPresent (config.pathOf type) with
    | none => readManifest config manifest rest
    | some bytes => readManifest config (manifest.insert type.name (host.digest bytes)) rest

def diskManifest (config : Config) : ExceptT RunFault m Manifest :=
  host.readManifest config {} VectorType.all

def loadConfig (path : String) (decode : Config.Decoder := Config.ofYaml?) :
    ExceptT RunFault m Config := do
  match ← host.files.read path with
  | .absent | .unreadable => throw (.readConfig path)
  | .content bytes =>
    match String.fromUTF8? bytes with
    | none => throw (.readConfig path)
    | some text =>
      match Config.ofText text decode with
      | .ok config => return config
      | .error cause => throw (.invalidConfig path cause)

end Host

end VectorForge
