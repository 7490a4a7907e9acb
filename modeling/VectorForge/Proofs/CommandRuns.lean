import VectorForge.Command
import VectorForge.Proofs.WrittenFiles

/-! What a run does with its flags. The configuration is settled before anything else
happens, so a run that has none touches no file; a run that checks touches none either. -/

namespace VectorForge.Proofs.CommandRuns
open StoragePlaces DriftReading WrittenFiles
open CodeSyntax (headerText linesText linesText_append linesText_outer)
open StructCode (opening fileText declared_lines)
open FamilyTyping (mem_all)

/-- A text holds a configuration. One of white space holds the standard one, and no other is
taken that breaks a rule. -/
def Gives (decode : Config.Decoder) (text : String) (config : Config) : Prop :=
  if Text.isBlank text then config = {}
  else decode text = some config ∧ config.validate = .ok ()

/-- What is loaded when this file, or none, is named. -/
def Loads (decode : Config.Decoder) (storage : Storage) : Option String → Config → Prop
  | none, config => config = {}
  | some path, config => ∃ bytes text, storage.read path = .content bytes ∧
      String.fromUTF8? bytes = some text ∧ Gives decode text config

/-- The configuration of a run: the loaded one, in another directory if a flag says so. -/
def Configured (decode : Config.Decoder) (storage : Storage) (flags : Flags) (config : Config) :
    Prop :=
  ∃ loaded, Loads decode storage flags.config loaded ∧
    config = { loaded with outputDir := flags.outDir.getD loaded.outputDir }

variable {flags : Flags} {config : Config} {before after : Storage} {digest : ByteArray → String}
  {decode : Config.Decoder}

theorem ofText_ok_iff {text : String} :
    Config.ofText text decode = .ok config ↔ Gives decode text config := by
  rw [Config.ofText, Gives]
  split
  · simp [eq_comm]
  · cases decode text with
    | none => simp
    | some other =>
      constructor
      · intro accepted
        cases valid : other.validate with
        | error fault => simp [valid] at accepted
        | ok =>
          obtain rfl : other = config := by simpa [valid] using accepted
          exact ⟨rfl, valid⟩
      · rintro ⟨⟨⟩, valid⟩
        simp [valid]

theorem standard_valid : ({} : Config).validate = .ok () := by decide

theorem Gives.validated {text : String} (gives : Gives decode text config) :
    config.validate = .ok () := by
  rw [Gives] at gives
  split at gives
  · rw [gives]
    exact standard_valid
  · exact gives.2

theorem Loads.validated {file : Option String} (loads : Loads decode before file config) :
    config.validate = .ok () := by
  cases file with
  | none =>
    rw [loads]
    exact standard_valid
  | some path =>
    obtain ⟨bytes, text, -, -, gives⟩ := loads
    exact gives.validated

/-- No rule looks at the directory. -/
theorem Configured.validated (configured : Configured decode before flags config) :
    config.validate = .ok () := by
  obtain ⟨loaded, loads, rfl⟩ := configured
  exact loads.validated

theorem loadConfig_run (digest : ByteArray → String) (decode : Config.Decoder) (path : String)
    (storage : Storage) :
    ∃ result, ((stored digest).loadConfig path decode).run.run storage = (result, storage) ∧
      ∀ config, result = .ok config ↔ Loads decode storage (some path) config := by
  rw [Host.loadConfig, run_except_bind, run_lift, stored_reads]
  cases there : storage.read path with
  | absent | unreadable => exact ⟨_, rfl, by simp [Loads, there]⟩
  | content bytes =>
    cases spelled : String.fromUTF8? bytes with
    | none => exact ⟨_, by simp only [spelled]; rfl, by simp [Loads, there, spelled]⟩
    | some text =>
      cases read : Config.ofText text decode with
      | error cause =>
        refine ⟨_, by simp only [spelled, read]; rfl, ?_⟩
        simp [Loads, there, spelled, ← ofText_ok_iff, read]
      | ok other =>
        refine ⟨_, by simp only [spelled, read]; rfl, ?_⟩
        simp [Loads, there, spelled, ← ofText_ok_iff, read]

/-- Whatever is loaded, no file changes. -/
theorem configure_run (digest : ByteArray → String) (decode : Config.Decoder) (flags : Flags)
    (storage : Storage) :
    ∃ result, ((stored digest).configure flags decode).run.run storage = (result, storage) ∧
      ∀ config, result = .ok config ↔ Configured decode storage flags config := by
  rw [Host.configure]
  cases named : flags.config with
  | none => exact ⟨_, rfl, by simp [Configured, named, Loads, eq_comm]⟩
  | some path =>
    obtain ⟨loaded, ran, exactly⟩ := loadConfig_run digest decode path storage
    simp only [run_except_bind, ran]
    cases loaded with
    | error fault => exact ⟨_, rfl, by simp [Configured, named, ← exactly]⟩
    | ok loaded => exact ⟨_, rfl, by simp [Configured, named, ← exactly, eq_comm]⟩

/-- The file of a type has the digest of what is generated for the type. -/
def Current (digest : ByteArray → String) (config : Config) (storage : Storage)
    (type : VectorType) : Prop :=
  ∃ text bytes, generate type config.emit = .ok text ∧
    storage.read (filePath config type) = .content bytes ∧ digest bytes = digest text.toUTF8

theorem current_iff {type : VectorType} : Current digest config before type ↔
    seenDigest digest (seen Storage.read config before type) =
      some (digest (content config type).toUTF8) := by
  rw [seen, Current, ← pathOf_eq]
  cases there : before.read (config.pathOf type) <;> simp [generate_content, seenDigest]

/-- A check finds nothing exactly where every file is current. -/
theorem check_clean (digest : ByteArray → String) (config : Config) (storage : Storage) :
    ∃ result, ((stored digest).check config).run.run storage = (result, storage) ∧
      ((∃ report, result = .ok report ∧ report.isClean = true) ↔
        ∀ type, Current digest config storage type) := by
  rw [check_run (stored_reads digest)]
  cases found : VectorType.all.find? fun type =>
      unreadable (seen Storage.read config storage type) with
  | some type =>
    refine ⟨_, rfl, by simp, ?_⟩
    intro current
    have blocked := List.find?_some found
    obtain ⟨-, bytes, -, there, -⟩ := current type
    rw [← pathOf_eq] at there
    simp [seen, there, unreadable] at blocked
  | none =>
    refine ⟨_, rfl, ?_⟩
    have readable (type : VectorType) :
        unreadable (seen Storage.read config storage type) = false :=
      Bool.eq_false_iff.mpr (List.find?_eq_none.mp found type (mem_all type))
    simp only [Except.ok.injEq, exists_eq_left', current_iff]
    exact isClean_iff_digests (stored digest) Storage.read config storage readable

section Performing
variable (configured : Configured decode before flags config)
include configured

theorem configure_ok (digest : ByteArray → String) :
    ((stored digest).configure flags decode).run.run before = (.ok config, before) := by
  obtain ⟨result, ran, exactly⟩ := configure_run digest decode flags before
  rw [ran, (exactly config).mpr configured]

theorem perform_check (checking : flags.check = true) :
    ((stored digest).perform flags decode).run.run before =
      match ((stored digest).check config).run.run before with
      | (.ok report, after) =>
        (if report.isClean then .ok ()
          else .error (.drift report.missing.length report.changed.length config.outputDir), after)
      | (.error fault, after) => (.error fault, after) := by
  rw [Host.perform, run_except_bind, configure_ok configured]
  simp only [checking, if_true, run_except_bind]
  rcases ((stored digest).check config).run.run before with ⟨_ | report, after⟩
  · rfl
  · cases found : report.isClean <;> simp only [found] <;> rfl

theorem perform_current (digest : ByteArray → String) (checking : flags.check = true) :
    ∃ result, ((stored digest).perform flags decode).run.run before = (result, before) ∧
      (result = .ok () ↔ ∀ type, Current digest config before type) := by
  obtain ⟨result, ran, clean⟩ := check_clean digest config before
  rw [perform_check configured checking, ran, ← clean]
  cases result with
  | error fault => exact ⟨_, rfl, by simp⟩
  | ok report => exact ⟨_, rfl, by simp⟩

theorem perform_write (writing : flags.check = false) :
    ((stored digest).perform flags decode).run.run before =
      match ((stored digest).writeAll config).run.run before with
      | (.ok _, after) => (.ok (), after)
      | (.error fault, after) => (.error fault, after) := by
  rw [Host.perform, run_except_bind, configure_ok configured]
  simp only [writing, Bool.false_eq_true, if_false, run_except_bind]
  rcases ((stored digest).writeAll config).run.run before with ⟨_ | _, after⟩ <;> rfl

end Performing

/-- Without a configuration a run ends before it reads any other file. -/
theorem perform_refused (digest : ByteArray → String)
    (none : ¬∃ config, Configured decode before flags config) :
    ∃ fault, ((stored digest).perform flags decode).run.run before = (.error fault, before) := by
  obtain ⟨result, ran, exactly⟩ := configure_run digest decode flags before
  rw [Host.perform, run_except_bind, ran]
  cases result with
  | error fault => exact ⟨fault, rfl⟩
  | ok config => exact absurd ⟨config, (exactly config).mp rfl⟩ none

/-- No file that a run writes is the one with its configuration. -/
def Spared (config : Config) (storage : Storage) (file : Option String) : Prop :=
  ∀ path, file = some path → ∀ route, storage.locate path = .ok route →
    ∀ type, storage.locate (config.pathOf type) ≠ .ok route

theorem read_content_iff {path : String} {bytes : ByteArray} :
    before.read path = .content bytes ↔
      ∃ route, before.locate path = .ok route ∧ before.node? route = some (.file bytes) := by
  rw [Storage.read, Storage.find?]
  cases before.locate path with
  | error obstacle => simp
  | ok route =>
    cases stood : before.node? route with
    | none => simp [stood]
    | some node => cases node <;> simp [stood]

section Kept
variable {next : Storage} (grown : Extends before next)
  (writes : Writes config VectorType.all next after)
include grown writes

theorem read_kept {path : String} {bytes : ByteArray} (spared : Spared config after (some path))
    (there : before.read path = .content bytes) : after.read path = .content bytes := by
  obtain ⟨route, located, stood⟩ := read_content_iff.mp there
  have reached : after.locate path = .ok route :=
    locate_kept writes.same.1 (locate_kept grown.directories located)
  have untouched : after.node? route = next.node? route := by
    apply writes.elsewhere
    intro type _ leads
    exact spared path rfl route reached type ((locate_same writes.same).mpr leads)
  refine read_content_iff.mpr ⟨route, reached, ?_⟩
  rw [untouched]
  exact (grown.files route bytes).mpr stood

/-- The next run has the same configuration, whether or not it checks. -/
theorem configured_kept (configured : Configured decode before flags config)
    (spared : Spared config after flags.config) (check : Bool) :
    Configured decode after { flags with check } config := by
  obtain ⟨loaded, loads, same⟩ := configured
  refine ⟨loaded, ?_, same⟩
  cases named : flags.config with
  | none => simpa [Loads, named] using loads
  | some path =>
    rw [named] at loads spared
    obtain ⟨bytes, text, there, spelled, gives⟩ := loads
    exact ⟨bytes, text, read_kept grown writes spared there, spelled, gives⟩

end Kept

theorem held_current {type : VectorType} (held : Holds config after type) :
    Current digest config after type :=
  ⟨content config type, bytes config type, generate_content config type,
    by rw [← pathOf_eq, Storage.read, held], rfl⟩

/-- What was written passes a check with the same flags. -/
theorem perform_again (configured : Configured decode before flags config)
    (writing : flags.check = false)
    (ran : ((stored digest).perform flags decode).run.run before = (.ok (), after))
    (spared : Spared config after flags.config) (distinct : Apart config after) :
    ((stored digest).perform { flags with check := true } decode).run.run after =
      (.ok (), after) := by
  rw [perform_write configured writing] at ran
  rcases wrote : ((stored digest).writeAll config).run.run before with ⟨_ | manifest, last⟩
  · rw [wrote] at ran
    cases ran
  · rw [wrote] at ran
    cases ran
    obtain ⟨made, created, writes, -⟩ := writeAll_steps wrote
    have again := configured_kept (createDirectories_made created).1 writes configured spared true
    obtain ⟨result, checked, clean⟩ := perform_current again digest rfl
    have held (type : VectorType) : Holds config after type :=
      writes.holds distinct type (mem_all type)
    rw [checked, clean.mpr fun type => held_current (held type)]

/-- What a run with these flags does to the files that it finds. -/
structure Performs (digest : ByteArray → String) (decode : Config.Decoder) (flags : Flags)
    (before : Storage) : Prop where
  configured : ∃ result,
    ((stored digest).configure flags decode).run.run before = (result, before) ∧
      ∀ config, result = .ok config ↔ Configured decode before flags config
  valid : ∀ config, Configured decode before flags config → config.validate = .ok ()
  refused : (¬∃ config, Configured decode before flags config) →
    ∃ fault, ((stored digest).perform flags decode).run.run before = (.error fault, before)
  checked : flags.check = true → ∀ config, Configured decode before flags config →
    ∃ result, ((stored digest).perform flags decode).run.run before = (result, before) ∧
      (result = .ok () ↔ ∀ type, Current digest config before type)
  written : flags.check = false → ∀ config, Configured decode before flags config →
    ((stored digest).perform flags decode).run.run before =
      match ((stored digest).writeAll config).run.run before with
      | (.ok _, after) => (.ok (), after)
      | (.error fault, after) => (.error fault, after)
  /-- What was written passes a check, if no path led to the file of another one. -/
  repeated : flags.check = false → ∀ config after, Configured decode before flags config →
    ((stored digest).perform flags decode).run.run before = (.ok (), after) →
    Spared config after flags.config → Apart config after →
    ((stored digest).perform { flags with check := true } decode).run.run after =
      (.ok (), after)
  apart : ∀ config, Configured decode before flags config → '/' ∉ config.extension.toList →
    ∀ storage, Apart config storage

theorem flags_performed (digest : ByteArray → String) (decode : Config.Decoder) (flags : Flags)
    (before : Storage) : Performs digest decode flags before := by
  constructor
  · exact configure_run digest decode flags before
  · intro config configured
    exact configured.validated
  · exact perform_refused digest
  · intro checking config configured
    exact perform_current configured digest checking
  · intro writing config configured
    exact perform_write configured writing
  · intro writing config after configured ran spared distinct
    exact perform_again configured writing ran spared distinct
  · intro config _ plain storage
    exact apart_of_extension plain storage

/-- With this extension each path leaves the directory of its type again, so all of them lead to
one file and the last type that is written has it. -/
def sharing : Config := { extension := "d/../x" }

def crossing : Storage where
  entries := (["c.yaml"], .file "extension: d/../x\n".toUTF8) :: (["generated"], .directory) ::
    VectorType.all.map fun type => (["generated", type.name ++ ".d"], .directory)

/-- A digest that is the text itself. -/
def spelled (bytes : ByteArray) : String := (String.fromUTF8? bytes).getD ""

theorem last_held {types : List VectorType} {last : VectorType}
    (writes : Writes config types before after) (ending : types.getLast? = some last) :
    Holds config after last := by
  obtain ⟨front, split⟩ := List.getLast?_eq_some_iff.mp ending
  exact writes.kept split (by simp)

theorem ok_of_toOption {ε α : Type} {result : Except ε α} {value : α}
    (found : result.toOption = some value) : result = .ok value := by
  cases result with
  | error fault => cases found
  | ok other => exact congrArg Except.ok (Option.some.inj found)

theorem sharing_decoded :
    (Config.ofText "extension: d/../x\n").toOption = some sharing := by decide +kernel

theorem crossing_configured (check : Bool) :
    Configured Config.ofYaml? crossing { config := some "c.yaml", check } sharing := by
  refine ⟨sharing, ?_, rfl⟩
  refine ⟨"extension: d/../x\n".toUTF8, "extension: d/../x\n", rfl, by decide +kernel, ?_⟩
  rw [← ofText_ok_iff]
  exact ok_of_toOption sharing_decoded

theorem crossing_leads :
    ∀ type ∈ VectorType.all, (crossing.locate (sharing.pathOf type)).toOption =
      some ["generated", "x"] := by
  decide +kernel

theorem crossing_located (type : VectorType) :
    crossing.locate (sharing.pathOf type) = .ok ["generated", "x"] :=
  ok_of_toOption (crossing_leads type (mem_all type))

theorem crossing_free : crossing.node? ["generated", "x"] = none := rfl

theorem spelled_text (text : String) : spelled text.toUTF8 = text := by
  rw [spelled, String.toUTF8_eq_toByteArray, String.fromUTF8?, dif_pos text.isValidUTF8]
  rfl

theorem content_header (config : Config) (type : VectorType) : ∃ rest, content config type =
    linesText config.emit.style.indent config.emit.style.newline (opening config.emit)
      ++ (headerText type.name ++ rest) := by
  rw [content, fileText, linesText_append, declared_lines, linesText_outer, String.append_assoc]
  exact ⟨_, rfl⟩

/-- Texts differ behind what they share if their headers do before either of them ends. -/
theorem content_ne {config : Config} {first second : VectorType} (count : Nat)
    (inside : count ≤ (headerText first.name).toList.length)
    (insideToo : count ≤ (headerText second.name).toList.length)
    (differ : (headerText first.name).toList.take count ≠
      (headerText second.name).toList.take count) :
    content config first ≠ content config second := by
  obtain ⟨rest, one⟩ := content_header config first
  obtain ⟨more, other⟩ := content_header config second
  intro same
  rw [one, other, String.append_right_inj, ← String.toList_inj, String.toList_append,
    String.toList_append] at same
  apply differ
  rw [← List.take_append_of_le_length inside, same, List.take_append_of_le_length insideToo]

theorem sharing_differs : content sharing ⟨.bool, .two⟩ ≠ content sharing ⟨.bool, .five⟩ :=
  content_ne 19 (by decide +kernel) (by decide +kernel) (by decide +kernel)

theorem crossing_writes : ∃ after, Writes sharing VectorType.all crossing after ∧
    ((stored spelled).perform { config := some "c.yaml" } Config.ofYaml?).run.run crossing =
      (.ok (), after) := by
  have free : ∀ type ∈ VectorType.all, writable crossing (sharing.pathOf type) = true := by
    intro type _
    exact writable_iff.mpr ⟨_, crossing_located type, by simp [crossing_free]⟩
  obtain ⟨manifest, after, wrote, writes⟩ := writeAll_succeeds spelled rfl free
  refine ⟨after, writes, ?_⟩
  rw [perform_write (crossing_configured false) rfl, wrote]

theorem crossing_drifts : ∃ after,
    Configured Config.ofYaml? crossing { config := some "c.yaml" } sharing ∧
    ((stored spelled).perform { config := some "c.yaml" } Config.ofYaml?).run.run crossing =
      (.ok (), after) ∧
    Spared sharing after (some "c.yaml") ∧
    ∃ fault, ((stored spelled).perform { config := some "c.yaml", check := true }
      Config.ofYaml?).run.run after = (.error fault, after) := by
  obtain ⟨after, writes, ran⟩ := crossing_writes
  have spared : Spared sharing after (some "c.yaml") := by
    intro path named route located type leads
    obtain rfl : "c.yaml" = path := Option.some.inj named
    rw [locate_same writes.same] at located leads
    rw [crossing_located] at leads
    have same : ["c.yaml"] = route := Except.ok.inj located
    rw [← same] at leads
    simp at leads
  refine ⟨after, crossing_configured false, ran, spared, ?_⟩
  have again : Configured Config.ofYaml? after { config := some "c.yaml", check := true } sharing :=
    configured_kept (.refl crossing) writes (crossing_configured false) spared true
  obtain ⟨result, checked, clean⟩ := perform_current again spelled rfl
  cases result with
  | error fault => exact ⟨fault, checked⟩
  | ok =>
    have current := current_iff.mp (clean.mp rfl ⟨.bool, .two⟩)
    have held : Holds sharing after ⟨.bool, .five⟩ := last_held writes rfl
    have leads (type : VectorType) : after.locate (sharing.pathOf type) = .ok ["generated", "x"] :=
      (locate_same writes.same).mpr (crossing_located type)
    have shared : seen Storage.read sharing after ⟨.bool, .two⟩ =
        seen Storage.read sharing after ⟨.bool, .five⟩ := by
      simp only [seen, Storage.read, Storage.find?, leads]
    rw [shared, held.seen, seenDigest, Option.some.injEq, bytes, spelled_text, spelled_text] at current
    exact absurd current.symm sharing_differs

end VectorForge.Proofs.CommandRuns
