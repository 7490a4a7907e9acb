import VectorForge.Command
import VectorForge.Digest.Blake3

/-! The command-line program: the real file system, the digest and the decoder in use, and
the exit code. -/

namespace VectorForge.Command

/-- The file system that the process sees. -/
def processFiles : FileSystem IO where
  read path := do
    match ← (IO.FS.Handle.mk path .read).toBaseIO with
    | .error (.noFileOrDirectory ..) | .error (.inappropriateType ..) => return .absent
    | .error _ => return .unreadable
    | .ok handle =>
      -- A directory can be opened but has no bytes to read.
      match ← handle.readBinToEnd.toBaseIO with
      | .ok bytes => return .content bytes
      | .error _ => return .unreadable
  write path content := do
    match ← (IO.FS.writeBinFile path content).toBaseIO with
    | .ok () => return true
    | .error _ => return false
  makeDirectory path := do
    match ← (IO.FS.createDir path).toBaseIO with
    | .ok () => return .ok ()
    | .error (.noFileOrDirectory ..) => return .error .missing
    | .error _ =>
      -- It may have been there before.
      match ← (IO.FS.realPath path).toBaseIO with
      | .ok place => return if ← place.isDir then .ok () else .error .blocked
      | .error _ => return .error .blocked

def usage : String := "Usage: vector-forge [--config <PATH>] [--out-dir <DIR>] [--check]"

/-- What goes to standard error. -/
def Ending.report : Ending → Option String
  | .success | .help => none
  | .misuse => some usage
  | .failure fault =>
    let details := fault.causes.map ("\n    " ++ ·)
    some ("Error: " ++ fault.headline
      ++ (if details.isEmpty then "" else "\n\nCaused by:" ++ String.join details))

end VectorForge.Command

open VectorForge in
def main (arguments : List String) : IO UInt32 := do
  let ending ← Command.run ⟨Command.processFiles, Digest.blake3⟩ arguments Config.ofYaml?
  if ending = .help then IO.println Command.usage
  if let some text := ending.report then IO.eprintln text
  return ending.exitCode.toUInt32
