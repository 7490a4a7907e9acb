import VectorForge.Lookup
import VectorForge.Path

/-! Files and directories below one root, and the directory in which a run is started. A
place is the list of names that leads to it from the root, so two texts that reach the
same place name the same file. -/

namespace VectorForge

/-- The way from the root to a place; the root's own is empty. -/
abbrev Route := List String

inductive Node where
  | file (content : ByteArray)
  | directory

inductive Obstacle where
  /-- Something in front of its last name is not there. -/
  | missing
  /-- A file is in the way, or the path is not one that can be followed. -/
  | blocked
  deriving DecidableEq

structure Storage where
  entries : List (Route × Node) := []
  /-- The working directory. Paths start here unless they begin with a slash. -/
  home : Route := []

namespace Storage

/-- What stands at a place; the root is always a directory. -/
def node? (storage : Storage) : Route → Option Node
  | [] => some .directory
  | route => storage.entries.lookup route

def isDirectory (storage : Storage) (route : Route) : Bool :=
  match storage.node? route with
  | some .directory => true
  | _ => false

/-- The entries with one place changed or, if nothing stood there, added. -/
def place (route : Route) (node : Node) : List (Route × Node) → List (Route × Node)
  | [] => [(route, node)]
  | (other, kept) :: rest =>
    if route = other then (route, node) :: rest else (other, kept) :: place route node rest

def put (storage : Storage) (route : Route) (node : Node) : Storage :=
  { storage with entries := place route node storage.entries }

@[simp] theorem put_home (storage : Storage) (route : Route) (node : Node) :
    (storage.put route node).home = storage.home := rfl

theorem lookup_place (route other : Route) (node : Node) (entries : List (Route × Node)) :
    (place route node entries).lookup other =
      if other = route then some node else entries.lookup other := by
  induction entries with
  | nil => simp [place, lookup_cons_ite]
  | cons head rest ih =>
    by_cases same : route = head.1
    · subst same
      by_cases found : other = head.1 <;> simp [place, lookup_cons_ite, found]
    · by_cases found : other = route
      · subst found
        simp [place, same, lookup_cons_ite, ih]
      · simp [place, same, lookup_cons_ite, ih, found]

theorem place_of_lookup {route : Route} {node : Node} {entries : List (Route × Node)}
    (present : entries.lookup route = some node) : place route node entries = entries := by
  induction entries with
  | nil => simp at present
  | cons head rest ih =>
    obtain ⟨other, kept⟩ := head
    rw [lookup_cons_ite] at present
    by_cases same : route = other <;> simp_all [place]

theorem node?_put {route : Route} (below : route ≠ []) (storage : Storage) (node : Node)
    (other : Route) :
    (storage.put route node).node? other =
      if other = route then some node else storage.node? other := by
  cases other with
  | nil => simp [node?, below.symm]
  | cons first rest => exact lookup_place route (first :: rest) node storage.entries

theorem put_of_node? {route : Route} (below : route ≠ []) {storage : Storage} {node : Node}
    (present : storage.node? route = some node) : storage.put route node = storage := by
  cases route with
  | nil => exact absurd rfl below
  | cons => rw [put, place_of_lookup present]

/-- The place that a name leads to. Only a directory leads anywhere; the one above the
root is the root itself. -/
def step (storage : Storage) (here : Route) (name : String) : Except Obstacle Route :=
  match storage.node? here with
  | none => .error .missing
  | some (.file _) => .error .blocked
  | some .directory =>
    if name = "" ∨ name = "." then .ok here
    else if name = ".." then .ok here.dropLast
    else if name.utf8ByteSize ≤ Path.longestName then .ok (here ++ [name])
    else .error .blocked

/-- Whether a path can be followed at all: it is not empty nor too long, and has no null
character. -/
def canFollow (path : String) : Bool :=
  !path.isEmpty && !path.toList.contains '\x00' && path.utf8ByteSize ≤ Path.longest

/-- The directory in which a path starts. -/
def start (storage : Storage) (path : String) : Route :=
  if Path.isAbsolute path then [] else storage.home

def follow (storage : Storage) (here : Route) (names : List String) : Except Obstacle Route :=
  names.foldlM storage.step here

/-- The place that a path leads to, whether or not something stands there. -/
def locate (storage : Storage) (path : String) : Except Obstacle Route :=
  if canFollow path then storage.follow (storage.start path) (Path.names path)
  else .error .blocked

def find? (storage : Storage) (path : String) : Option Node :=
  match storage.locate path with
  | .ok route => storage.node? route
  | .error _ => none

/-- Gives a file its content. This fails, and nothing changes, if the path leads
nowhere or to a directory. -/
def write? (storage : Storage) (path : String) (content : ByteArray) : Option Storage :=
  match storage.locate path with
  | .ok route =>
    if storage.isDirectory route then none else some (storage.put route (.file content))
  | .error _ => none

/-- Makes a directory unless it is there. The ones above it are not made. Slashes behind
the last name do not matter. -/
def makeDirectory (storage : Storage) (path : String) : Except Obstacle Storage :=
  if canFollow path then do
    let names := (Path.names path).reverse.dropWhile (· == "")
    let route ← storage.follow (storage.start path) names.reverse
    match storage.node? route with
    | some .directory => return storage
    | some (.file _) => throw .blocked
    | none => return storage.put route .directory
  else .error .blocked

def remove? (storage : Storage) (path : String) : Option Storage :=
  match storage.locate path with
  | .ok route =>
    match storage.node? route with
    | some (.file _) =>
      some { storage with entries := storage.entries.filter (·.1 != route) }
    | _ => none
  | .error _ => none

/-- The path of every place below the working directory, in ascending order. A
directory's path ends in a slash. -/
def paths (storage : Storage) : List String :=
  let path : Route × Node → String
    | (route, .directory) => "/".intercalate (route.drop storage.home.length) ++ "/"
    | (route, .file _) => "/".intercalate (route.drop storage.home.length)
  let below := storage.entries.filter fun (route, _) =>
    storage.home.isPrefixOf route && route != storage.home
  (below.map path).mergeSort fun first second => decide (first ≤ second)

end Storage

end VectorForge
