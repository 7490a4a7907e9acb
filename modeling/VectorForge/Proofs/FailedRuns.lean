import VectorForge.Proofs.CommandRuns

/-! What a run leaves behind that cannot write all files. It ends at the first path that
refuses its file: the files before it are written, nothing behind it is touched. -/

namespace VectorForge.Proofs.FailedRuns
open StoragePlaces DriftReading WrittenFiles
open CommandRuns (sharing content_ne last_held ok_of_toOption spelled spelled_text)
open FamilyTyping (mem_all)

variable {config : Config} {digest : ByteArray → String} {before made after : Storage}
  {types earlier : List VectorType} {type : VectorType}

/-- The file of a type cannot be written, as where a directory stands in its place. -/
def Refused (config : Config) (storage : Storage) (type : VectorType) : Prop :=
  storage.write? (config.pathOf type) (bytes config type) = none

/-- Files are written up to the first one that is refused. -/
theorem writeFiles_stops (digest : ByteArray → String) (manifest : Manifest)
    (accepted : ∀ other ∈ earlier, ¬ Refused config before other)
    (refused : Refused config before type) (later : List VectorType) :
    ∃ after, Writes config earlier before after ∧
      ((stored digest).writeFiles config manifest (earlier ++ type :: later)).run.run before =
        (.error (.writeFile (config.pathOf type)), after) := by
  induction earlier generalizing before manifest with
  | nil =>
    rw [Refused] at refused
    exact ⟨before, .done, by rw [List.nil_append, writeFiles_step, refused]⟩
  | cons first earlier ih =>
    obtain ⟨next, written⟩ := Option.ne_none_iff_exists'.mp (accepted first (by simp))
    obtain ⟨route, located, free, rfl⟩ := write?_iff.mp written
    have same : SameDirectories before (before.put route (.file (bytes config first))) :=
      put_file_same free
    have further : ∀ other ∈ earlier,
        ¬ Refused config (before.put route (.file (bytes config first))) other :=
      fun other member => mt (refused_same same).mp (accepted other (by simp [member]))
    obtain ⟨after, writes, ran⟩ := ih (manifest.insert first.name (digest (bytes config first)))
      further ((refused_same same).mpr refused)
    refine ⟨after, .file located free writes, ?_⟩
    rw [List.cons_append, writeFiles_step, written]
    exact ran

theorem first_refused (blocked : ∃ type, Refused config made type) :
    ∃ earlier type later, VectorType.all = earlier ++ type :: later ∧
      (∀ other ∈ earlier, ¬ Refused config made other) ∧ Refused config made type := by
  obtain ⟨blocked, refused⟩ := blocked
  let refuses (type : VectorType) : Bool :=
    (made.write? (config.pathOf type) (bytes config type)).isNone
  have found : (VectorType.all.find? refuses).isSome := by
    rw [List.find?_isSome]
    exact ⟨blocked, mem_all blocked, Option.isNone_iff_eq_none.mpr refused⟩
  obtain ⟨type, first⟩ := Option.isSome_iff_exists.mp found
  obtain ⟨there, earlier, later, split, before⟩ := List.find?_eq_some_iff_append.mp first
  refine ⟨earlier, type, later, split, ?_, Option.isNone_iff_eq_none.mp there⟩
  intro other member refusedToo
  have open_ := before other member
  rw [Refused] at refusedToo
  simp [refuses, refusedToo] at open_

/-- The path of a type leads to a file with the text that is generated for the type. -/
def Generated (config : Config) (storage : Storage) (type : VectorType) : Prop :=
  ∃ text, generate type config.emit = .ok text ∧
    storage.find? (filePath config type) = some (.file text.toUTF8)

theorem generated_of_holds {storage : Storage} (held : Holds config storage type) :
    Generated config storage type := by
  rw [Generated, ← pathOf_eq]
  exact ⟨content config type, generate_content config type, held⟩

/-- What a run leaves behind that wrote the files of some types and no more. -/
structure Stopped (config : Config) (before after : Storage) (written : List VectorType) :
    Prop where
  /-- A file is as it was written if no later one was written to its place. -/
  held : ∀ front type back, written = front ++ type :: back →
    (∀ other ∈ back, ∀ route, after.locate (config.pathOf type) = .ok route →
      after.locate (config.pathOf other) ≠ .ok route) →
    Generated config after type
  /-- Files share a place only where their extension has a slash. -/
  apart : '/' ∉ config.extension.toList → ∀ type ∈ written, Generated config after type
  /-- Every other place is as it was, but for the directories that were made first. -/
  others : ∀ route, (∀ type ∈ written, after.locate (config.pathOf type) ≠ .ok route) →
    after.node? route = before.node? route ∨
      before.node? route = none ∧ after.node? route = some .directory ∧
        ∃ path ∈ config.outputDir :: Path.ancestors config.outputDir, after.locate path = .ok route

theorem writes_stopped
    (added : Adds (config.outputDir :: Path.ancestors config.outputDir) before made)
    (writes : Writes config types made after) : Stopped config before after types where
  held front type back split unshared := generated_of_holds (writes.kept split unshared)
  apart plain type member :=
    generated_of_holds (writes.holds (apart_of_extension plain after) type member)
  others route other := by
    have untouched := writes.elsewhere fun type member leads =>
      other type member ((locate_same writes.same).mpr leads)
    rw [untouched]
    rcases added route with old | ⟨free, stands, path, listed, located⟩
    · exact .inl old
    · exact .inr ⟨free, stands, path, listed, (locate_same writes.same).mpr located⟩

theorem writeFile_message (path : String) :
    (RunFault.writeFile path).message = "Failed to write " ++ path := by
  have alone : (RunFault.writeFile path).message =
      ": ".intercalate ["Failed to write " ++ path] := rfl
  rw [alone, String.intercalate_singleton]

/-- A run that has its directory but not all its files ends with the fault of the first path
that refuses its file. The files before it are written, and nothing else has changed. -/
theorem failed_run_stops
    (created : (Storage.system.createDirectories config.outputDir).run before = (true, made))
    (blocked : ∃ type, Refused config made type) :
    ∃ earlier type later after, VectorType.all = earlier ++ type :: later ∧
      (∀ other ∈ earlier, ¬ Refused config made other) ∧ Refused config made type ∧
      ((stored digest).writeAll config).run.run before =
        (.error (.writeFile (config.pathOf type)), after) ∧
      (RunFault.writeFile (config.pathOf type)).message =
        "Failed to write " ++ config.pathOf type ∧
      Stopped config before after earlier := by
  obtain ⟨earlier, type, later, split, accepted, refused⟩ := first_refused blocked
  obtain ⟨after, writes, ran⟩ := writeFiles_stops digest {} accepted refused later
  have added := createDirectories_adds config.outputDir before
  rw [created] at added
  refine ⟨earlier, type, later, after, split, accepted, refused, ?_,
    writeFile_message (config.pathOf type), writes_stopped added writes⟩
  rw [writeAll_run, created, split]
  exact ran

def rooted : Config := { outputDir := "/srv/out" }

/-- A directory stands in the place of the second file. -/
def walled : Storage where
  entries := [(["work"], .directory), (["srv"], .directory), (["srv", "out"], .directory),
    (["srv", "out", "Float2.cs"], .directory)]
  home := ["work"]

/-- Only the first file is written. -/
theorem walled_stops :
    (Storage.system.createDirectories rooted.outputDir).run walled = (true, walled) ∧
    (∃ type, Refused rooted walled type) ∧
    ∃ earlier type later after, VectorType.all = earlier ++ type :: later ∧
      (∀ other ∈ earlier, ¬ Refused rooted walled other) ∧ Refused rooted walled type ∧
      ((stored Digest.blake3).writeAll rooted).run.run walled =
        (.error (.writeFile (rooted.pathOf type)), after) ∧
      (RunFault.writeFile (rooted.pathOf type)).message =
        "Failed to write " ++ rooted.pathOf type ∧
      Stopped rooted walled after earlier := by
  have created : (Storage.system.createDirectories rooted.outputDir).run walled =
      (true, walled) := rfl
  have refused : Refused rooted walled ⟨.float, .two⟩ :=
    Option.isNone_iff_eq_none.mp (by decide +kernel)
  exact ⟨created, ⟨_, refused⟩, failed_run_stops created ⟨_, refused⟩⟩

def meeting : List VectorType := [⟨.int, .two⟩, ⟨.float, .two⟩]

/-- The paths of the first two types lead to one file and that of the next one nowhere. -/
def crossed : Storage where
  entries := (["generated"], .directory) ::
    meeting.map fun type => (["generated", type.name ++ ".d"], .directory)

theorem crossed_leads : ∀ type ∈ meeting,
    (crossed.locate (sharing.pathOf type)).toOption = some ["generated", "x"] := by
  decide +kernel

theorem crossed_located (type : VectorType) (member : type ∈ meeting) :
    crossed.locate (sharing.pathOf type) = .ok ["generated", "x"] :=
  ok_of_toOption (crossed_leads type member)

theorem crossed_accepts : ∀ type ∈ meeting, ¬ Refused sharing crossed type := by
  intro type member refused
  rw [Refused, write?_none_iff] at refused
  have stands := refused _ (crossed_located type member)
  cases stands

theorem crossed_refuses : Refused sharing crossed ⟨.double, .two⟩ :=
  Option.isNone_iff_eq_none.mp (by decide +kernel)

/-- One file holds one text. -/
theorem meeting_replaced (writes : Writes sharing meeting crossed after) :
    ¬ Generated sharing after ⟨.int, .two⟩ := by
  rintro ⟨text, generated, found⟩
  rw [← pathOf_eq] at found
  have last : Holds sharing after ⟨.float, .two⟩ := last_held writes rfl
  have leads (type : VectorType) (member : type ∈ meeting) :
      after.locate (sharing.pathOf type) = .ok ["generated", "x"] :=
    (locate_same writes.same).mpr (crossed_located type member)
  rw [Holds, Storage.find?, leads ⟨.float, .two⟩ (by simp [meeting])] at last
  rw [Storage.find?, leads ⟨.int, .two⟩ (by simp [meeting])] at found
  obtain rfl : content sharing ⟨.int, .two⟩ = text :=
    Except.ok.inj ((generate_content sharing _).symm.trans generated)
  have same := Node.file.inj (Option.some.inj (found.symm.trans last))
  have texts := congrArg spelled same
  rw [bytes, spelled_text, spelled_text] at texts
  exact content_ne 18 (by decide +kernel) (by decide +kernel) (by decide +kernel) texts

/-- When the run ends the first file no longer has the text that was written to it. -/
theorem written_file_replaced :
    (Storage.system.createDirectories sharing.outputDir).run crossed = (true, crossed) ∧
    VectorType.all.take 3 = [⟨.int, .two⟩, ⟨.float, .two⟩, ⟨.double, .two⟩] ∧
    ¬ Refused sharing crossed ⟨.int, .two⟩ ∧ ¬ Refused sharing crossed ⟨.float, .two⟩ ∧
    Refused sharing crossed ⟨.double, .two⟩ ∧
    ∃ after, ((stored Digest.blake3).writeAll sharing).run.run crossed =
        (.error (.writeFile (sharing.pathOf ⟨.double, .two⟩)), after) ∧
      ¬ Generated sharing after ⟨.int, .two⟩ := by
  have created : (Storage.system.createDirectories sharing.outputDir).run crossed =
      (true, crossed) := rfl
  obtain ⟨after, writes, ran⟩ :=
    writeFiles_stops Digest.blake3 {} crossed_accepts crossed_refuses (VectorType.all.drop 3)
  refine ⟨created, rfl, crossed_accepts _ (by simp [meeting]),
    crossed_accepts _ (by simp [meeting]), crossed_refuses, after, ?_, meeting_replaced writes⟩
  rw [writeAll_run, created]
  exact ran

end VectorForge.Proofs.FailedRuns
