import VectorForge.Storage

/-! What a run asks of the place where its files live. Paths are texts. A failed call
says little more than that it failed; the caller knows what it tried to do. -/

namespace VectorForge

inductive Reading where
  | absent
  /-- Something is there that is no file. -/
  | unreadable
  | content (bytes : ByteArray)

structure FileSystem (m : Type → Type) where
  read : (path : String) → m Reading
  /-- Replaces or makes a file, and tells whether it could. -/
  write : (path : String) → (content : ByteArray) → m Bool
  /-- Makes a directory unless it is there, but not the ones above it. -/
  makeDirectory : (path : String) → m (Except Obstacle Unit)

namespace FileSystem

variable {m : Type → Type} [Monad m] (files : FileSystem m)

/-- Makes the first of some directories. Only if something above it is missing the
others are made first; they stay even if the first one then fails. -/
def makeWithin : List String → m Bool
  | [] => return true
  | path :: above => do
    match ← files.makeDirectory path with
    | .ok () => return true
    | .error .blocked => return false
    | .error .missing =>
      if ← makeWithin above then return (← files.makeDirectory path).isOk else return false

/-- Makes a directory and the ones above it, and tells whether it is there now. The
empty path is the current directory. -/
def createDirectories (path : String) : m Bool :=
  if path.isEmpty then return true else files.makeWithin (path :: Path.ancestors path)

end FileSystem

namespace Storage

def read (storage : Storage) (path : String) : Reading :=
  match storage.find? path with
  | some (.file content) => .content content
  | some .directory => .unreadable
  | none => .absent

def system : FileSystem (StateM Storage) where
  read path := return (← get).read path
  write path content := do
    match (← get).write? path content with
    | some storage =>
      set storage
      return true
    | none => return false
  makeDirectory path := do
    match (← get).makeDirectory path with
    | .ok storage =>
      set storage
      return .ok ()
    | .error obstacle => return .error obstacle

end Storage

end VectorForge
