import VectorForge.Digest.Blake3
import VectorForge.Output
import VectorForge.Proofs.FamilyTyping
import VectorForge.Proofs.ManifestEntries
import VectorForge.Proofs.StoragePlaces
import VectorForge.Proofs.StructCode

/-! What a run finds out about the files of a directory without changing them. -/

namespace VectorForge.Proofs.DriftReading
open StructCode ManifestEntries StoragePlaces
open FamilyTyping (mem_all names_distinct name_injective)

/-- The text of a type's file. -/
def content (config : Config) (type : VectorType) : String :=
  fileText config.emit (declared type config.emit)

theorem generate_content (config : Config) (type : VectorType) :
    generate type config.emit = .ok (content config type) := generate_eq type config.emit

def rendered (digest : ByteArray → String) (config : Config) (type : VectorType) : Rendered where
  type := type
  fileName := config.fileName type.name
  content := content config type
  digest := digest (content config type).toUTF8

/-- All files, in the order of their types. -/
def allFiles (digest : ByteArray → String) (config : Config) : List Rendered :=
  VectorType.all.map (rendered digest config)

theorem mem_allFiles {digest : ByteArray → String} {config : Config} {file : Rendered} :
    file ∈ allFiles digest config ↔ ∃ type, rendered digest config type = file := by
  rw [allFiles, List.mem_map]
  exact exists_congr fun type => and_iff_right (mem_all type)

section Rendering
variable {m : Type → Type} (host : Host m) (config : Config)

theorem render_eq (type : VectorType) :
    host.render config type = .ok (rendered host.digest config type) := by
  rw [Host.render, generate_content]
  rfl

theorem renderAll_eq : host.renderAll config = .ok (allFiles host.digest config) :=
  MemberCode.mapM_ok fun type _ => render_eq host config type

end Rendering

variable {σ : Type} {host : Host (StateM σ)} {view : σ → String → Reading}

/-- Reading a path gives what can be seen there and changes nothing. -/
def Reads (files : FileSystem (StateM σ)) (view : σ → String → Reading) : Prop :=
  ∀ path state, (files.read path).run state = (view state path, state)

theorem run_except_bind {ε α β : Type} (first : ExceptT ε (StateM σ) α)
    (next : α → ExceptT ε (StateM σ) β) (state : σ) :
    (first >>= next).run.run state =
      match first.run.run state with
      | (.ok value, after) => (next value).run.run after
      | (.error fault, after) => (.error fault, after) := by
  rw [ExceptT.run_bind, run_bind]
  rcases first.run.run state with ⟨_ | _, after⟩ <;> rfl

theorem run_lift {ε α : Type} (first : StateM σ α) (state : σ) :
    (liftM first : ExceptT ε (StateM σ) α).run.run state =
      (.ok (first.run state).1, (first.run state).2) := rfl

theorem run_except {ε α : Type} (result : Except ε α) (state : σ) :
    (liftM result : ExceptT ε (StateM σ) α).run.run state = (result, state) := rfl

theorem readIfPresent_run (reads : Reads host.files view) (path : String) (state : σ) :
    (host.readIfPresent path).run.run state =
      match view state path with
      | .absent => (.ok none, state)
      | .unreadable => (.error (.readFile path), state)
      | .content bytes => (.ok (some bytes), state) := by
  rw [Host.readIfPresent, run_except_bind, run_lift, reads]
  cases view state path <;> rfl

/-- Something is there, but it has no bytes that could be read. -/
def unreadable : Reading → Bool
  | .unreadable => true
  | _ => false

def absent : Reading → Bool
  | .absent => true
  | _ => false

/-- Bytes are there, and their digest is another one. -/
def differs (digest : ByteArray → String) (expected : String) : Reading → Bool
  | .content bytes => digest bytes != expected
  | _ => false

/-- The digest of what is there, if it can be read. -/
def seenDigest (digest : ByteArray → String) : Reading → Option String
  | .content bytes => some (digest bytes)
  | _ => none

section Loops
variable (host view) (config : Config) (state : σ)

def seen (type : VectorType) : Reading := view state (config.pathOf type)

def missingFiles (files : List Rendered) : List Rendered :=
  files.filter fun file => absent (seen view config state file.type)

def changedFiles (files : List Rendered) : List Rendered :=
  files.filter fun file => differs host.digest file.digest (seen view config state file.type)

/-- The paths of some files, in their order. -/
def paths (files : List Rendered) : List String := files.map fun file => config.pathOf file.type

def extended (report : DriftReport) (files : List Rendered) : DriftReport where
  checked := report.checked + files.length
  missing := report.missing ++ paths config (missingFiles view config state files)
  changed := report.changed ++ paths config (changedFiles host view config state files)

/-- The digests of the files that are there. -/
def found (types : List VectorType) : List (String × String) :=
  types.filterMap fun type =>
    (seenDigest host.digest (seen view config state type)).map fun digest => (type.name, digest)

end Loops

theorem extended_append (config : Config) (state : σ) (report : DriftReport)
    (first second : List Rendered) :
    extended host view config state (extended host view config state report first) second =
      extended host view config state report (first ++ second) := by
  simp [extended, missingFiles, changedFiles, paths, Nat.add_assoc]

theorem extended_nil (config : Config) (state : σ) (report : DriftReport) :
    extended host view config state report [] = report := by
  simp [extended, missingFiles, changedFiles, paths]

/-- One file is counted and, if it is not as it should be, listed. -/
theorem compare_step (reads : Reads host.files view) (config : Config) (state : σ)
    (report : DriftReport) (file : Rendered) (rest : List Rendered) :
    (host.compare config report (file :: rest)).run.run state =
      if unreadable (seen view config state file.type) then
        (.error (.readFile (config.pathOf file.type)), state)
      else
        (host.compare config (extended host view config state report [file]) rest).run.run state := by
  rw [Host.compare, run_except_bind, readIfPresent_run reads]
  cases there : view state (config.pathOf file.type) with
  | unreadable => simp [seen, there, unreadable]
  | absent =>
    simp [seen, there, unreadable, extended, missingFiles, changedFiles, paths, absent, differs]
  | content bytes =>
    by_cases same : host.digest bytes = file.digest <;>
      simp [same, seen, there, unreadable, extended, missingFiles, changedFiles, paths, absent,
        differs]

theorem compare_run (reads : Reads host.files view) (config : Config) (state : σ)
    (files : List Rendered) (report : DriftReport) :
    (host.compare config report files).run.run state =
      match files.find? fun file => unreadable (seen view config state file.type) with
      | some file => (.error (.readFile (config.pathOf file.type)), state)
      | none => (.ok (extended host view config state report files), state) := by
  induction files generalizing report with
  | nil =>
    rw [extended_nil]
    rfl
  | cons file rest ih =>
    rw [compare_step reads, List.find?_cons]
    cases unreadable (seen view config state file.type) with
    | true => rfl
    | false =>
      simp only [Bool.false_eq_true, if_false, ih, extended_append, List.singleton_append]

theorem readManifest_run (reads : Reads host.files view) (config : Config) (state : σ)
    (types : List VectorType) (manifest : Manifest) :
    (host.readManifest config manifest types).run.run state =
      match types.find? fun type => unreadable (seen view config state type) with
      | some type => (.error (.readFile (config.pathOf type)), state)
      | none => (.ok (insertAll manifest (found host view config state types)), state) := by
  induction types generalizing manifest with
  | nil => rfl
  | cons type rest ih =>
    rw [Host.readManifest, run_except_bind, readIfPresent_run reads]
    cases there : view state (config.pathOf type) with
    | unreadable => simp [seen, there, unreadable]
    | absent => simp [ih, seen, there, unreadable, found, seenDigest]
    | content bytes => simp [ih, seen, there, unreadable, found, seenDigest, insertAll]

theorem check_run (reads : Reads host.files view) (config : Config) (state : σ) :
    (host.check config).run.run state =
      match VectorType.all.find? fun type => unreadable (seen view config state type) with
      | some type => (.error (.readFile (config.pathOf type)), state)
      | none =>
        (.ok (extended host view config state {} (allFiles host.digest config)), state) := by
  rw [Host.check, run_except_bind, run_except, renderAll_eq]
  simp only [compare_run reads, allFiles, List.find?_map]
  have same : (fun file : Rendered => unreadable (seen view config state file.type)) ∘
      rendered host.digest config = fun type => unreadable (seen view config state type) := rfl
  rw [same]
  cases VectorType.all.find? fun type => unreadable (seen view config state type) <;> rfl

theorem diskManifest_run (reads : Reads host.files view) (config : Config) (state : σ) :
    (host.diskManifest config).run.run state =
      match VectorType.all.find? fun type => unreadable (seen view config state type) with
      | some type => (.error (.readFile (config.pathOf type)), state)
      | none => (.ok (insertAll {} (found host view config state VectorType.all)), state) :=
  readManifest_run reads config state VectorType.all {}

/-- The rendered files, each by the name of its type. -/
def entries (files : List Rendered) : List (String × String) :=
  files.map fun file => (file.typeName, file.digest)

theorem keys_entries (digest : ByteArray → String) (config : Config) :
    (entries (allFiles digest config)).map Prod.fst = VectorType.all.map VectorType.name := by
  simp only [entries, allFiles, List.map_map]
  rfl

theorem entries_distinct (digest : ByteArray → String) (config : Config) :
    ((entries (allFiles digest config)).map Prod.fst).Nodup := by
  rw [keys_entries]
  exact names_distinct

section Found
variable (host view) (config : Config) (state : σ)

end Found

section Agreement
variable (host view) (config : Config) (state : σ)

/-- The files that are not as they should be, those that are missing first. -/
def drifted : List Rendered :=
  missingFiles view config state (allFiles host.digest config)
    ++ changedFiles host view config state (allFiles host.digest config)

theorem mem_drifted {type : VectorType}
    (readable : unreadable (seen view config state type) = false) :
    rendered host.digest config type ∈ drifted host view config state ↔
      some (host.digest (content config type).toUTF8) ≠
        seenDigest host.digest (seen view config state type) := by
  have listed : rendered host.digest config type ∈ allFiles host.digest config :=
    mem_allFiles.mpr ⟨type, rfl⟩
  rw [drifted, List.mem_append, missingFiles, changedFiles, List.mem_filter, List.mem_filter,
    and_iff_right listed, and_iff_right listed]
  simp only [rendered]
  cases there : seen view config state type with
  | absent => simp [absent, seenDigest]
  | unreadable => simp [there, unreadable] at readable
  | content bytes => simpa [absent, differs, seenDigest] using ne_comm

theorem drifted_subset : drifted host view config state ⊆ allFiles host.digest config := by
  intro file member
  rcases List.mem_append.mp member with missing | changed
  · exact List.mem_of_mem_filter missing
  · exact List.mem_of_mem_filter changed

theorem isClean_iff_drifted :
    (extended host view config state {} (allFiles host.digest config)).isClean = true ↔
      drifted host view config state = [] := by
  simp [DriftReport.isClean, extended, paths, drifted]

theorem isClean_iff_digests (readable : ∀ type, unreadable (seen view config state type) = false) :
    (extended host view config state {} (allFiles host.digest config)).isClean = true ↔
      ∀ type, seenDigest host.digest (seen view config state type) =
        some (host.digest (content config type).toUTF8) := by
  rw [isClean_iff_drifted, List.eq_nil_iff_forall_not_mem]
  constructor
  · intro nothing type
    exact (not_ne_iff.mp (mt (mem_drifted host view config state (readable type)).mpr
      (nothing _))).symm
  · intro same file member
    obtain ⟨type, rfl⟩ := mem_allFiles.mp (drifted_subset host view config state member)
    exact (mem_drifted host view config state (readable type)).mp member (same type).symm

end Agreement

def stored (digest : ByteArray → String) : Host (StateM Storage) := ⟨Storage.system, digest⟩

theorem stored_reads (digest : ByteArray → String) :
    Reads (stored digest).files Storage.read := fun _ _ => rfl

/-- One file was edited and the others are missing. -/
def edited : Storage where
  entries := [(["generated"], .directory), (["generated", "Int2.cs"], .file "edited".toUTF8)]

end VectorForge.Proofs.DriftReading
