import VectorForge.Proofs.DriftReading

/-! What a run that writes all files leaves behind. No write of the run touches the file of
another type, so every path ends up with its own content and writing again changes nothing. -/

namespace VectorForge.Proofs.WrittenFiles
open ManifestEntries StoragePlaces DriftReading
open FamilyTyping (mem_all name_injective)

variable {config : Config} {types : List VectorType} {digest : ByteArray → String}

def bytes (config : Config) (type : VectorType) : ByteArray := (content config type).toUTF8

/-- Where the file of a type belongs: in the directory, behind a slash unless the directory is
empty or has one at its end. -/
def filePath (config : Config) (type : VectorType) : String :=
  config.outputDir ++ (if config.outputDir.toList.getLast? ∈ [none, some '/'] then "" else "/")
    ++ type.name ++ "." ++ config.extension

theorem pathOf_eq (config : Config) (type : VectorType) :
    config.pathOf type = filePath config type := by
  rw [Config.pathOf, Config.outputPath, Config.fileName, filePath]
  cases ended : config.outputDir.toList.getLast? with
  | none => simp [String.append_assoc]
  | some last =>
    by_cases slash : last = '/' <;> simp [slash, String.append_assoc]

/-- The path of a type leads to a file with the rendered content. -/
def Holds (config : Config) (storage : Storage) (type : VectorType) : Prop :=
  storage.find? (config.pathOf type) = some (.file (bytes config type))

/-- The paths of different types do not lead to the same place. -/
def Apart (config : Config) (storage : Storage) : Prop :=
  ∀ first second route, storage.locate (config.pathOf first) = .ok route →
    storage.locate (config.pathOf second) = .ok route → first = second

/-- The files of some types are written one after another. -/
inductive Writes (config : Config) : List VectorType → Storage → Storage → Prop where
  | done {storage : Storage} : Writes config [] storage storage
  | file {type : VectorType} {rest : List VectorType} {before after : Storage} {route : Route}
      (located : before.locate (config.pathOf type) = .ok route)
      (free : before.node? route ≠ some .directory)
      (further : Writes config rest (before.put route (.file (bytes config type))) after) :
      Writes config (type :: rest) before after

theorem writeFiles_step (digest : ByteArray → String) (config : Config) (manifest : Manifest)
    (type : VectorType) (rest : List VectorType) (storage : Storage) :
    ((stored digest).writeFiles config manifest (type :: rest)).run.run storage =
      match storage.write? (config.pathOf type) (bytes config type) with
      | some next =>
        ((stored digest).writeFiles config
          (manifest.insert type.name (digest (bytes config type))) rest).run.run next
      | none => (.error (.writeFile (config.pathOf type)), storage) := by
  have written : (((stored digest).files.write (config.pathOf type)
      (rendered (stored digest).digest config type).bytes).run storage) = _ :=
    system_write storage (config.pathOf type) (bytes config type)
  rw [Host.writeFiles, run_except_bind, run_except, render_eq]
  simp only [run_except_bind, run_lift]
  rw [written]
  cases storage.write? (config.pathOf type) (bytes config type) <;> rfl

theorem writes_of_run {manifest result : Manifest} {before after : Storage}
    (ran : ((stored digest).writeFiles config manifest types).run.run before =
      (.ok result, after)) :
    Writes config types before after ∧
      result = insertAll manifest (entries (types.map (rendered digest config))) := by
  induction types generalizing manifest before with
  | nil =>
    cases ran
    exact ⟨.done, rfl⟩
  | cons type rest ih =>
    rw [writeFiles_step] at ran
    cases written : before.write? (config.pathOf type) (bytes config type) with
    | none =>
      rw [written] at ran
      cases ran
    | some next =>
      rw [written] at ran
      obtain ⟨further, recorded⟩ := ih ran
      obtain ⟨route, located, free, rfl⟩ := write?_iff.mp written
      exact ⟨.file located free further, recorded⟩

namespace Writes
variable {before after : Storage}

theorem same (writes : Writes config types before after) : SameDirectories before after := by
  induction writes with
  | @done storage => exact .refl storage
  | file located free further ih => exact (put_file_same free).trans ih

/-- A place that no path leads to is left alone. -/
theorem elsewhere (writes : Writes config types before after) {route : Route}
    (other : ∀ type ∈ types, before.locate (config.pathOf type) ≠ .ok route) :
    after.node? route = before.node? route := by
  induction writes with
  | done => rfl
  | @file type rest before after place located free further ih =>
    have different : route ≠ place := by
      rintro rfl
      exact other type (by simp) located
    rw [ih, Storage.node?_put (ne_root free), if_neg different]
    intro next member leads
    exact other next (by simp [member]) ((locate_same (put_file_same free)).mp leads)

/-- Without a later path to the same place a file keeps what was written to it. -/
theorem kept (writes : Writes config types before after) {front back : List VectorType}
    {type : VectorType} (split : types = front ++ type :: back)
    (unshared : ∀ other ∈ back, ∀ route, after.locate (config.pathOf type) = .ok route →
      after.locate (config.pathOf other) ≠ .ok route) : Holds config after type := by
  induction writes generalizing front with
  | done => simp at split
  | @file next rest before after route located free further ih =>
    cases front with
    | cons first front => exact ih (List.cons.inj split).2 unshared
    | nil =>
      obtain ⟨rfl, rfl⟩ := List.cons.inj split
      have there : (before.put route (.file (bytes config next))).locate
          (config.pathOf next) = .ok route := (locate_same (put_file_same free)).mpr located
      have reached := (locate_same further.same).mpr there
      have untouched : after.node? route =
          (before.put route (.file (bytes config next))).node? route := by
        apply further.elsewhere
        intro other inside leads
        exact unshared other inside route reached ((locate_same further.same).mpr leads)
      rw [Holds, Storage.find?, reached]
      simp [untouched, Storage.node?_put (ne_root free)]

theorem holds (writes : Writes config types before after) (distinct : Apart config after) :
    ∀ type ∈ types, Holds config after type := by
  intro type member
  -- Of several times that the type is written the last one counts.
  obtain ⟨back, front, split, last⟩ := List.eq_append_cons_of_mem (List.mem_reverse.mpr member)
  have ordered : types = front.reverse ++ type :: back.reverse := by
    simpa using congrArg List.reverse split
  apply writes.kept ordered
  intro other inside route leads shares
  obtain rfl := distinct type other route leads shares
  exact last (List.mem_reverse.mp inside)

end Writes

theorem Holds.located {storage : Storage} {type : VectorType} (held : Holds config storage type) :
    ∃ route, storage.locate (config.pathOf type) = .ok route ∧
      storage.node? route = some (.file (bytes config type)) := by
  rw [Holds, Storage.find?] at held
  cases located : storage.locate (config.pathOf type) with
  | error obstacle => simp [located] at held
  | ok route =>
    rw [located] at held
    exact ⟨route, rfl, held⟩

theorem Holds.seen {storage : Storage} {type : VectorType} (held : Holds config storage type) :
    seen Storage.read config storage type = .content (bytes config type) := by
  rw [DriftReading.seen, Storage.read, held]

section Settled
variable {storage : Storage}

theorem write_again {type : VectorType} (held : Holds config storage type) :
    storage.write? (config.pathOf type) (bytes config type) = some storage := by
  obtain ⟨route, located, there⟩ := held.located
  have free : storage.node? route ≠ some .directory := by simp [there]
  exact write?_iff.mpr ⟨route, located, free, (Storage.put_of_node? (ne_root free) there).symm⟩

theorem writeFiles_again (held : ∀ type ∈ types, Holds config storage type) (manifest : Manifest) :
    ((stored digest).writeFiles config manifest types).run.run storage =
      (.ok (insertAll manifest (entries (types.map (rendered digest config)))), storage) := by
  induction types generalizing manifest with
  | nil => rfl
  | cons type rest ih =>
    rw [writeFiles_step, write_again (held type (by simp))]
    exact ih (fun other member => held other (by simp [member])) _

theorem readable_held (held : ∀ type, Holds config storage type) :
    (VectorType.all.find? fun type => unreadable (seen Storage.read config storage type)) = none := by
  rw [List.find?_eq_none]
  intro type _
  rw [(held type).seen]
  simp [unreadable]

theorem found_held (held : ∀ type, Holds config storage type) :
    found (stored digest) Storage.read config storage VectorType.all =
      entries (allFiles digest config) := by
  simp only [found, (held _).seen, seenDigest, Option.map_some, entries, allFiles, List.map_map]
  exact congrFun List.filterMap_eq_map VectorType.all

theorem diskManifest_held (held : ∀ type, Holds config storage type) :
    ((stored digest).diskManifest config).run.run storage =
      (.ok (insertAll {} (entries (allFiles digest config))), storage) := by
  rw [diskManifest_run (stored_reads digest), readable_held held, found_held held]

theorem drifted_held (held : ∀ type, Holds config storage type) :
    drifted (stored digest) Storage.read config storage = [] := by
  rw [List.eq_nil_iff_forall_not_mem]
  intro file listed
  obtain ⟨type, rfl⟩ := mem_allFiles.mp (drifted_subset _ _ config storage listed)
  have there := (held type).seen
  have readable : unreadable (seen Storage.read config storage type) = false := by
    rw [there]
    rfl
  have differ := (mem_drifted (stored digest) Storage.read config storage readable).mp listed
  rw [there] at differ
  exact differ rfl

theorem check_held (held : ∀ type, Holds config storage type) :
    ((stored digest).check config).run.run storage = (.ok { checked := 16 }, storage) := by
  have listed : drifted (stored digest) Storage.read config storage = [] := drifted_held held
  obtain ⟨missing, changed⟩ := List.append_eq_nil_iff.mp listed
  rw [check_run (stored_reads digest), readable_held held]
  simp only [extended]
  rw [missing, changed]
  rfl

end Settled

theorem writeAll_run (storage : Storage) :
    ((stored digest).writeAll config).run.run storage =
      match (Storage.system.createDirectories config.outputDir).run storage with
      | (true, next) => ((stored digest).writeFiles config {} VectorType.all).run.run next
      | (false, next) => (.error (.createDirectory config.outputDir), next) := by
  have created : ((stored digest).files.createDirectories config.outputDir).run storage =
      (Storage.system.createDirectories config.outputDir).run storage := rfl
  rw [Host.writeAll, run_except_bind, run_lift, created]
  rcases (Storage.system.createDirectories config.outputDir).run storage with ⟨made, next⟩
  cases made <;> rfl

/-- A run that wrote all files first made directories and then wrote one file after another. -/
theorem writeAll_steps {before after : Storage} {manifest : Manifest}
    (wrote : ((stored digest).writeAll config).run.run before = (.ok manifest, after)) :
    ∃ made, (Storage.system.createDirectories config.outputDir).run before = (true, made) ∧
      Writes config VectorType.all made after ∧
      manifest = insertAll {} (entries (allFiles digest config)) := by
  rw [writeAll_run] at wrote
  rcases created : (Storage.system.createDirectories config.outputDir).run before with ⟨done, made⟩
  rw [created] at wrote
  cases done with
  | false => cases wrote
  | true => exact ⟨made, rfl, writes_of_run wrote⟩

/-- What holds after a run that wrote all files. -/
structure Settled (digest : ByteArray → String) (config : Config) (before after : Storage)
    (manifest : Manifest) : Prop where
  held : ∀ type, ∃ text, generate type config.emit = .ok text ∧
    after.find? (filePath config type) = some (.file text.toUTF8)
  others : ∀ route, (∀ type, after.locate (config.pathOf type) ≠ .ok route) → ∀ bytes,
    after.node? route = some (.file bytes) ↔ before.node? route = some (.file bytes)
  recorded : manifest.entries.length = 16
  diskManifest : ((stored digest).diskManifest config).run.run after = (.ok manifest, after)
  check : ((stored digest).check config).run.run after =
    (.ok { checked := 16, missing := [], changed := [] }, after)
  again : ((stored digest).writeAll config).run.run after = (.ok manifest, after)

/-- After a run that wrote all files, every path of a type holds what is generated for the
type, every other file is as it was, and reading, checking and writing again find nothing to
say or to change. -/
theorem writeAll_settles {before after : Storage} {manifest : Manifest}
    (wrote : ((stored digest).writeAll config).run.run before = (.ok manifest, after))
    (distinct : Apart config after) : Settled digest config before after manifest := by
  obtain ⟨made, created, writes, rfl⟩ := writeAll_steps wrote
  obtain ⟨grown, again⟩ := createDirectories_made created
  have held (type : VectorType) : Holds config after type :=
    writes.holds distinct type (mem_all type)
  constructor
  · intro type
    rw [← pathOf_eq]
    exact ⟨_, generate_content config type, held type⟩
  · intro route other bytes
    rw [writes.elsewhere fun type _ leads => other type ((locate_same writes.same).mpr leads)]
    exact grown.files route bytes
  · exact length_insertAll (entries_distinct digest config)
  · exact diskManifest_held held
  · exact check_held held
  · rw [writeAll_run, again after writes.same.1]
    exact writeFiles_again (fun type _ => held type) {}

theorem outputPath_names (config : Config) :
    ∃ above, ∀ name : String, '/' ∉ name.toList →
      Path.names (config.outputPath name) = above ++ [name] := by
  have joined {front : List Char} {path name : String} (plain : '/' ∉ name.toList)
      (built : path.toList = front ++ '/' :: name.toList) :
      Path.names path = (Path.splitNames front).map String.ofList ++ [name] := by
    rw [Path.names, built, splitNames_slash, splitNames_plain plain]
    simp
  cases ended : config.outputDir.toList.getLast? with
  | none =>
    refine ⟨[], ?_⟩
    intro name plain
    have empty : config.outputDir = "" := by simpa using ended
    simp [Config.outputPath, empty, Path.names, splitNames_plain plain]
  | some last =>
    by_cases slash : last = '/'
    · subst slash
      obtain ⟨front, split⟩ := List.getLast?_eq_some_iff.mp ended
      refine ⟨(Path.splitNames front).map String.ofList, ?_⟩
      intro name plain
      apply joined plain
      simp [Config.outputPath, split]
    · refine ⟨(Path.splitNames config.outputDir.toList).map String.ofList, ?_⟩
      intro name plain
      apply joined plain
      simp [Config.outputPath, ended]

theorem fileName_named (config : Config) (type : VectorType) :
    config.fileName type.name ≠ "" ∧ config.fileName type.name ≠ "." ∧
      config.fileName type.name ≠ ".." := by
  have starts : (config.fileName type.name).toList.head? = type.kind.stem.toList.head? := by
    rw [Config.fileName, VectorType.name]
    cases type.kind <;> simp [Kind.stem]
  have letter : type.kind.stem.toList.head? ≠ none ∧ type.kind.stem.toList.head? ≠ some '.' := by
    cases type.kind <;> decide
  rw [← starts] at letter
  refine ⟨?_, ?_, ?_⟩ <;> intro named <;> simp [named] at letter

theorem name_plain (type : VectorType) : '/' ∉ type.name.toList := by
  obtain ⟨kind, dimension⟩ := type
  cases kind <;> cases dimension <;> decide

/-- An extension without a slash keeps the files of the types apart. -/
theorem apart_of_extension (plain : '/' ∉ config.extension.toList) (storage : Storage) :
    Apart config storage := by
  obtain ⟨above, names⟩ := outputPath_names config
  have last {type : VectorType} {route : Route}
      (leads : storage.locate (config.pathOf type) = .ok route) :
      route.getLast? = some (config.fileName type.name) := by
    rw [Storage.locate] at leads
    split at leads
    · rw [Config.pathOf, names] at leads
      · exact follow_into (fileName_named config type) leads
      · simp [Config.fileName, name_plain, plain]
    · cases leads
  intro first second route one other
  have same : config.fileName first.name = config.fileName second.name :=
    Option.some.inj ((last one).symm.trans (last other))
  apply name_injective
  simpa [Config.fileName, ← String.toList_inj] using same

/-- A path that a file can be written to. -/
def writable (storage : Storage) (path : String) : Bool :=
  match storage.locate path with
  | .ok route => !storage.isDirectory route
  | .error _ => false

theorem writable_iff {storage : Storage} {path : String} :
    writable storage path = true ↔
      ∃ route, storage.locate path = .ok route ∧ storage.node? route ≠ some .directory := by
  rw [writable]
  cases storage.locate path with
  | error obstacle => simp
  | ok route => simp [← isDirectory_iff]

/-- Files are written whenever every path can be written to. Writing one keeps the others so. -/
theorem writeFiles_succeeds {storage : Storage}
    (free : ∀ type ∈ types, writable storage (config.pathOf type) = true) (manifest : Manifest) :
    ∃ result after,
      ((stored digest).writeFiles config manifest types).run.run storage = (.ok result, after) := by
  induction types generalizing storage manifest with
  | nil => exact ⟨manifest, storage, rfl⟩
  | cons type rest ih =>
    obtain ⟨route, located, unblocked⟩ := writable_iff.mp (free type (by simp))
    rw [writeFiles_step, write?_iff.mpr ⟨route, located, unblocked, rfl⟩]
    apply ih
    intro other member
    obtain ⟨place, leads, unfilled⟩ := writable_iff.mp (free other (by simp [member]))
    have same : SameDirectories storage (storage.put route (.file (bytes config type))) :=
      put_file_same unblocked
    exact writable_iff.mpr ⟨place, (locate_same same).mpr leads, mt (same.2.stands place) unfilled⟩

/-- A run whose directory is there writes all files if every path can be written to. -/
theorem writeAll_succeeds (digest : ByteArray → String) {storage : Storage}
    (created : (Storage.system.createDirectories config.outputDir).run storage = (true, storage))
    (free : ∀ type ∈ VectorType.all, writable storage (config.pathOf type) = true) :
    ∃ manifest after,
      ((stored digest).writeAll config).run.run storage = (.ok manifest, after) ∧
      Writes config VectorType.all storage after := by
  obtain ⟨manifest, after, ran⟩ : ∃ manifest after,
      ((stored digest).writeFiles config {} VectorType.all).run.run storage =
        (.ok manifest, after) := writeFiles_succeeds free {}
  refine ⟨manifest, after, ?_, (writes_of_run ran).1⟩
  rw [writeAll_run, created]
  exact ran

/-- The files go into a directory beside the one where the run is started. -/
def sideways : Config := { outputDir := "../out" }

/-- One of the files is there already, with another text. -/
def beside : Storage where
  entries := [(["work"], .directory), (["out"], .directory),
    (["out", "Int2.cs"], .file "edited".toUTF8)]
  home := ["work"]

theorem beside_writable :
    ∀ type ∈ VectorType.all, writable beside (sideways.pathOf type) = true := by
  decide +kernel

theorem beside_settles :
    ∃ manifest after,
      ((stored Digest.blake3).writeAll sideways).run.run beside = (.ok manifest, after) ∧
      Apart sideways after ∧ Settled Digest.blake3 sideways beside after manifest := by
  obtain ⟨manifest, after, wrote, -⟩ := writeAll_succeeds Digest.blake3 rfl beside_writable
  have distinct : Apart sideways after := apart_of_extension (by decide) after
  exact ⟨manifest, after, wrote, distinct, writeAll_settles wrote distinct⟩

end VectorForge.Proofs.WrittenFiles
