import Mathlib.Tactic.Common
import VectorForge.FileSystem

/-! The places that paths lead to. Only directories decide where a path leads, so a path
leads to the same place for as long as directories stay. Making directories adds some and
leaves every file alone; writing a file changes one place and no directory. -/

namespace VectorForge.Proofs.StoragePlaces
open Storage

variable {before after later : Storage} {path : String} {route : Route}

/-- Every directory of the first is one of the second, and paths start where they did. -/
structure DirectoriesKept (before after : Storage) : Prop where
  home : after.home = before.home
  stands : ∀ route, before.node? route = some .directory → after.node? route = some .directory

namespace DirectoriesKept

theorem refl (storage : Storage) : DirectoriesKept storage storage := ⟨rfl, fun _ stood => stood⟩

theorem trans (first : DirectoriesKept before after) (second : DirectoriesKept after later) :
    DirectoriesKept before later :=
  ⟨second.home.trans first.home, fun route stood => second.stands route (first.stands route stood)⟩

theorem start (kept : DirectoriesKept before after) (path : String) :
    after.start path = before.start path := by
  rw [Storage.start, kept.home, Storage.start]

end DirectoriesKept

theorem step_kept (kept : DirectoriesKept before after) {here : Route} {name : String}
    (led : before.step here name = .ok route) : after.step here name = .ok route := by
  rw [step] at led ⊢
  cases stood : before.node? here with
  | none => simp [stood] at led
  | some node =>
    cases node with
    | file content => simp [stood] at led
    | directory =>
      rw [kept.stands here stood]
      rw [stood] at led
      exact led

theorem follow_kept (kept : DirectoriesKept before after) {here : Route} {names : List String}
    (led : before.follow here names = .ok route) : after.follow here names = .ok route := by
  rw [follow] at led ⊢
  induction names generalizing here with
  | nil => exact led
  | cons name names ih =>
    rw [List.foldlM_cons] at led ⊢
    cases entered : before.step here name with
    | error obstacle => simp [entered, bind, Except.bind] at led
    | ok next =>
      rw [step_kept kept entered]
      rw [entered] at led
      exact ih led

theorem locate_kept (kept : DirectoriesKept before after)
    (led : before.locate path = .ok route) : after.locate path = .ok route := by
  rw [locate] at led ⊢
  by_cases followed : canFollow path = true
  · simp only [followed, if_true, kept.start] at led ⊢
    exact follow_kept kept led
  · simp [followed] at led

/-- The second has all that stands in the first, and beyond it nothing but directories. -/
structure Extends (before after : Storage) : Prop where
  directories : DirectoriesKept before after
  files : ∀ route content,
    after.node? route = some (.file content) ↔ before.node? route = some (.file content)

theorem Extends.refl (storage : Storage) : Extends storage storage :=
  ⟨.refl storage, fun _ _ => Iff.rfl⟩

theorem Extends.trans (first : Extends before after) (second : Extends after later) :
    Extends before later :=
  ⟨first.directories.trans second.directories,
    fun route content => (second.files route content).trans (first.files route content)⟩

theorem put_directory_extends (free : before.node? route = none) :
    Extends before (before.put route .directory) := by
  have below : route ≠ [] := by
    rintro rfl
    simp [node?] at free
  constructor
  · refine ⟨put_home before route .directory, ?_⟩
    intro other stood
    rw [node?_put below]
    split
    · rfl
    · exact stood
  · intro other content
    rw [node?_put below]
    split
    next same => simp [same, free]
    next => exact Iff.rfl

/-- The names that lead to the directory which a path makes. -/
def directoryNames (path : String) : List String :=
  ((Path.names path).reverse.dropWhile (· == "")).reverse

/-- All that making a directory can do when it succeeds. -/
theorem makeDirectory_iff :
    before.makeDirectory path = .ok after ↔
      canFollow path ∧ ∃ route, before.follow (before.start path) (directoryNames path) = .ok route ∧
        (before.node? route = some .directory ∧ after = before ∨
          before.node? route = none ∧ after = before.put route .directory) := by
  rw [makeDirectory, directoryNames]
  by_cases followed : canFollow path = true
  · simp only [followed, if_true, true_and]
    cases before.follow (before.start path)
      ((Path.names path).reverse.dropWhile (· == "")).reverse with
    | error obstacle => simp [bind, Except.bind]
    | ok route =>
      simp only [bind, Except.bind, Except.ok.injEq, exists_eq_left']
      cases stood : before.node? route with
      | none => simp [pure, Except.pure, eq_comm]
      | some node =>
        cases node with
        | file content => simp [throw, throwThe, MonadExceptOf.throw]
        | directory => simp [pure, Except.pure, eq_comm]
  · simp [followed]

theorem makeDirectory_extends (made : before.makeDirectory path = .ok after) :
    Extends before after := by
  obtain ⟨-, route, -, ⟨-, rfl⟩ | ⟨free, rfl⟩⟩ := makeDirectory_iff.mp made
  · exact .refl after
  · exact put_directory_extends free

/-- A directory that was made is there for as long as directories stay, and making it again
does nothing. -/
theorem makeDirectory_again (made : before.makeDirectory path = .ok after)
    (kept : DirectoriesKept after later) : later.makeDirectory path = .ok later := by
  have held := (makeDirectory_extends made).directories.trans kept
  obtain ⟨followed, route, led, stands⟩ := makeDirectory_iff.mp made
  have there : after.node? route = some .directory := by
    rcases stands with ⟨stood, rfl⟩ | ⟨free, rfl⟩
    · exact stood
    · rw [node?_put]
      · simp
      · rintro rfl
        simp [node?] at free
  refine makeDirectory_iff.mpr ⟨followed, route, ?_, .inl ⟨kept.stands route there, rfl⟩⟩
  rw [held.start]
  exact follow_kept held led

theorem run_bind {σ α β : Type} (first : StateM σ α) (next : α → StateM σ β) (state : σ) :
    (first >>= next).run state = (next (first.run state).1).run (first.run state).2 := rfl

theorem system_makeDirectory (storage : Storage) (path : String) :
    (system.makeDirectory path).run storage =
      match storage.makeDirectory path with
      | .ok after => (.ok (), after)
      | .error obstacle => (.error obstacle, storage) := by
  simp only [system, StateT.run_bind, StateT.run_get, pure_bind]
  cases storage.makeDirectory path <;> rfl

theorem system_write (storage : Storage) (path : String) (content : ByteArray) :
    (system.write path content).run storage =
      match storage.write? path content with
      | some after => (true, after)
      | none => (false, storage) := by
  simp only [system, StateT.run_bind, StateT.run_get, pure_bind]
  cases storage.write? path content <;> rfl

theorem system_makeWithin (storage : Storage) (path : String) (above : List String) :
    (system.makeWithin (path :: above)).run storage =
      match storage.makeDirectory path with
      | .ok after => (true, after)
      | .error .blocked => (false, storage)
      | .error .missing =>
        match (system.makeWithin above).run storage with
        | (false, next) => (false, next)
        | (true, next) =>
          match next.makeDirectory path with
          | .ok after => (true, after)
          | .error _ => (false, next) := by
  rw [FileSystem.makeWithin, run_bind, system_makeDirectory]
  cases storage.makeDirectory path with
  | ok after => rfl
  | error obstacle =>
    cases obstacle with
    | blocked => rfl
    | missing =>
      simp only [run_bind]
      rcases (system.makeWithin above).run storage with ⟨made, next⟩
      cases made with
      | false => rfl
      | true =>
        simp only [if_true, run_bind, system_makeDirectory]
        cases next.makeDirectory path <;> rfl

theorem makeWithin_extends (paths : List String) (storage : Storage) :
    Extends storage ((system.makeWithin paths).run storage).2 := by
  induction paths generalizing storage with
  | nil => exact .refl storage
  | cons path above ih =>
    rw [system_makeWithin]
    cases made : storage.makeDirectory path with
    | ok after => exact makeDirectory_extends made
    | error obstacle =>
      cases obstacle with
      | blocked => exact .refl storage
      | missing =>
        have grown := ih storage
        rcases ended : (system.makeWithin above).run storage with ⟨found, next⟩
        rw [ended] at grown
        cases found with
        | false => exact grown
        | true =>
          cases again : next.makeDirectory path with
          | error obstacle => simpa [again] using grown
          | ok after => simpa [again] using grown.trans (makeDirectory_extends again)

/-- Whatever is made first, the directory that was asked for is made last. -/
theorem makeWithin_last {above : List String}
    (made : (system.makeWithin (path :: above)).run before = (true, after)) :
    ∃ start : Storage, start.makeDirectory path = .ok after := by
  rw [system_makeWithin] at made
  cases first : before.makeDirectory path with
  | ok next =>
    rw [first] at made
    cases made
    exact ⟨before, first⟩
  | error obstacle =>
    cases obstacle with
    | blocked =>
      rw [first] at made
      cases made
    | missing =>
      rcases ended : (system.makeWithin above).run before with ⟨found, next⟩
      cases found with
      | false =>
        simp only [first, ended] at made
        cases made
      | true =>
        cases again : next.makeDirectory path with
        | error obstacle =>
          simp only [first, ended, again] at made
          cases made
        | ok last =>
          simp only [first, ended, again] at made
          cases made
          exact ⟨next, again⟩

/-- Directories that were made with those above them stay made for as long as directories
stay. -/
theorem createDirectories_made (made : (system.createDirectories path).run before = (true, after)) :
    Extends before after ∧
      ∀ later, DirectoriesKept after later →
        (system.createDirectories path).run later = (true, later) := by
  rw [FileSystem.createDirectories] at made ⊢
  cases current : path.isEmpty with
  | true =>
    rw [current] at made
    cases made
    exact ⟨.refl before, fun _ _ => rfl⟩
  | false =>
    replace made : (system.makeWithin (path :: Path.ancestors path)).run before = (true, after) := by
      rwa [current] at made
    have grown := makeWithin_extends (path :: Path.ancestors path) before
    rw [made] at grown
    obtain ⟨start, last⟩ := makeWithin_last made
    refine ⟨grown, ?_⟩
    intro later kept
    have again := system_makeWithin later path (Path.ancestors path)
    rwa [makeDirectory_again last kept] at again

/-- All that was added are directories to which some paths lead. -/
def Adds (paths : List String) (before after : Storage) : Prop :=
  ∀ route, after.node? route = before.node? route ∨
    before.node? route = none ∧ after.node? route = some .directory ∧
      ∃ path ∈ paths, after.locate path = .ok route

theorem Adds.refl (paths : List String) (storage : Storage) : Adds paths storage storage :=
  fun _ => .inl rfl

theorem Adds.trans {paths others : List String} (first : Adds paths before after)
    (second : Adds others after later) (kept : DirectoriesKept after later)
    (included : paths ⊆ others) : Adds others before later := by
  intro route
  rcases second route with same | ⟨free, made, leads⟩
  · rcases first route with old | ⟨free, made, path, listed, located⟩
    · exact .inl (same.trans old)
    · exact .inr ⟨free, same.trans made, path, included listed, locate_kept kept located⟩
  · rcases first route with old | ⟨-, stands, -⟩
    · exact .inr ⟨old.symm.trans free, made, leads⟩
    · rw [free] at stands
      cases stands

/-- Empty names lead from a directory to itself. -/
theorem blanks_stay {storage : Storage} {names : List String} {here : Route}
    (blank : ∀ name ∈ names, name = "") (stands : storage.node? here = some .directory) :
    names.foldlM storage.step here = .ok here := by
  induction names with
  | nil => rfl
  | cons name names ih =>
    obtain rfl := blank name (by simp)
    have stays : storage.step here "" = .ok here := by simp [step, stands]
    rw [List.foldlM_cons, stays]
    exact ih fun other member => blank other (by simp [member])

/-- A path leads to the directory that it makes, also with slashes at its end. -/
theorem locate_directory (followed : canFollow path = true)
    (led : before.follow (before.start path) (directoryNames path) = .ok route)
    (stands : before.node? route = some .directory) : before.locate path = .ok route := by
  have split : Path.names path =
      directoryNames path ++ ((Path.names path).reverse.takeWhile (· == "")).reverse := by
    rw [directoryNames, ← List.reverse_append, List.takeWhile_append_dropWhile,
      List.reverse_reverse]
  have blank : ∀ name ∈ ((Path.names path).reverse.takeWhile (· == "")).reverse, name = "" := by
    intro name member
    simpa using List.all_eq_true.mp List.all_takeWhile name (List.mem_reverse.mp member)
  rw [follow] at led
  rw [locate, if_pos followed, follow, split, List.foldlM_append, led]
  exact blanks_stay blank stands

theorem makeDirectory_adds (made : before.makeDirectory path = .ok after) (above : List String) :
    Adds (path :: above) before after := by
  obtain ⟨followed, route, led, ⟨-, rfl⟩ | ⟨free, rfl⟩⟩ := makeDirectory_iff.mp made
  · exact .refl _ after
  · have below : route ≠ [] := by
      rintro rfl
      simp [node?] at free
    have stands : (before.put route .directory).node? route = some .directory := by
      simp [node?_put below]
    have kept := (put_directory_extends free).directories
    have reached := follow_kept kept led
    rw [← kept.start] at reached
    intro other
    by_cases same : other = route
    · subst same
      exact .inr ⟨free, stands, path, by simp, locate_directory followed reached stands⟩
    · exact .inl (by rw [node?_put below, if_neg same])

theorem makeWithin_adds (paths : List String) (storage : Storage) :
    Adds paths storage ((system.makeWithin paths).run storage).2 := by
  induction paths generalizing storage with
  | nil => exact .refl [] storage
  | cons path above ih =>
    rw [system_makeWithin]
    cases made : storage.makeDirectory path with
    | ok after => exact makeDirectory_adds made above
    | error obstacle =>
      cases obstacle with
      | blocked => exact .refl _ storage
      | missing =>
        have added := ih storage
        have widened (later : Storage) (grown : Adds above storage later) :
            Adds (path :: above) storage later :=
          grown.trans (.refl _ later) (.refl later) (List.subset_cons_self path above)
        rcases ended : (system.makeWithin above).run storage with ⟨found, next⟩
        rw [ended] at added
        cases found with
        | false => exact widened next added
        | true =>
          cases again : next.makeDirectory path with
          | error obstacle => simpa [again] using widened next added
          | ok last =>
            simpa [again] using added.trans (makeDirectory_adds again above)
              (makeDirectory_extends again).directories (List.subset_cons_self path above)

theorem createDirectories_adds (path : String) (storage : Storage) :
    Adds (path :: Path.ancestors path) storage
      ((system.createDirectories path).run storage).2 := by
  rw [FileSystem.createDirectories]
  split
  · exact .refl _ storage
  · exact makeWithin_adds (path :: Path.ancestors path) storage

/-- Two storages with the same directories. -/
def SameDirectories (before after : Storage) : Prop :=
  DirectoriesKept before after ∧ DirectoriesKept after before

theorem SameDirectories.refl (storage : Storage) : SameDirectories storage storage :=
  ⟨.refl storage, .refl storage⟩

theorem SameDirectories.trans (first : SameDirectories before after)
    (second : SameDirectories after later) : SameDirectories before later :=
  ⟨first.1.trans second.1, second.2.trans first.2⟩

theorem locate_same (same : SameDirectories before after) :
    after.locate path = .ok route ↔ before.locate path = .ok route :=
  ⟨locate_kept same.2, locate_kept same.1⟩

theorem isDirectory_iff {storage : Storage} :
    storage.isDirectory route = true ↔ storage.node? route = some .directory := by
  rw [isDirectory.eq_def]
  split
  next stood => simp [stood]
  next other => simpa using other

/-- All that writing a file can do when it succeeds. -/
theorem write?_iff {content : ByteArray} :
    before.write? path content = some after ↔
      ∃ route, before.locate path = .ok route ∧ before.node? route ≠ some .directory ∧
        after = before.put route (.file content) := by
  rw [write?]
  cases before.locate path with
  | error obstacle => simp
  | ok route =>
    simp only [Except.ok.injEq, exists_eq_left', ne_eq, ← isDirectory_iff]
    cases before.isDirectory route <;> simp [eq_comm]

theorem write?_none_iff {content : ByteArray} :
    before.write? path content = none ↔
      ∀ route, before.locate path = .ok route → before.node? route = some .directory := by
  rw [write?]
  cases before.locate path <;> simp [← isDirectory_iff]

/-- Only directories decide whether a file can be written. -/
theorem refused_same {content : ByteArray} (same : SameDirectories before after) :
    after.write? path content = none ↔ before.write? path content = none := by
  rw [write?_none_iff, write?_none_iff]
  constructor
  · intro refused route located
    exact same.2.stands route (refused route ((locate_same same).mpr located))
  · intro refused route located
    exact same.1.stands route (refused route ((locate_same same).mp located))

theorem ne_root (free : before.node? route ≠ some .directory) : route ≠ [] := by
  rintro rfl
  exact free rfl

theorem put_file_same {content : ByteArray} (free : before.node? route ≠ some .directory) :
    SameDirectories before (before.put route (.file content)) := by
  constructor
  · refine ⟨put_home before route _, ?_⟩
    intro other stood
    rw [node?_put (ne_root free), if_neg]
    · exact stood
    · rintro rfl
      exact free stood
  · refine ⟨(put_home before route _).symm, ?_⟩
    intro other stood
    rw [node?_put (ne_root free)] at stood
    split at stood
    · cases stood
    · exact stood

theorem splitNames_ne_nil (chars : List Char) : Path.splitNames chars ≠ [] := by
  cases chars with
  | nil => simp [Path.splitNames]
  | cons char rest =>
    rw [Path.splitNames]
    split
    · simp
    · split <;> simp

theorem splitNames_slash (front back : List Char) :
    Path.splitNames (front ++ '/' :: back) = Path.splitNames front ++ Path.splitNames back := by
  induction front with
  | nil => simp [Path.splitNames]
  | cons char rest ih =>
    by_cases slash : char = '/'
    · simp [Path.splitNames, slash, ih]
    · obtain ⟨name, names, split⟩ := List.exists_cons_of_ne_nil (splitNames_ne_nil rest)
      simp [Path.splitNames, slash, ih, split]

theorem splitNames_plain {name : List Char} (plain : '/' ∉ name) :
    Path.splitNames name = [name] := by
  induction name with
  | nil => rfl
  | cons char rest ih =>
    obtain ⟨different, further⟩ := not_or.mp (mt List.mem_cons.mpr plain)
    simp [Path.splitNames, Ne.symm different, ih further]

/-- A name that leads from a directory to a place in it. -/
theorem step_into {storage : Storage} {here : Route} {name : String}
    (named : name ≠ "" ∧ name ≠ "." ∧ name ≠ "..")
    (led : storage.step here name = .ok route) : route = here ++ [name] := by
  obtain ⟨filled, other, upward⟩ := named
  rw [step] at led
  split at led
  · cases led
  · cases led
  · rw [if_neg (by simp [filled, other]), if_neg upward] at led
    split at led
    · exact (Except.ok.inj led).symm
    · cases led

theorem follow_into {storage : Storage} {here : Route} {above : List String} {name : String}
    (named : name ≠ "" ∧ name ≠ "." ∧ name ≠ "..")
    (led : storage.follow here (above ++ [name]) = .ok route) : route.getLast? = some name := by
  rw [follow, List.foldlM_append] at led
  cases entered : above.foldlM storage.step here with
  | error obstacle => simp [entered, bind, Except.bind] at led
  | ok inner =>
    simp only [entered, bind, Except.bind, List.foldlM_cons, List.foldlM_nil] at led
    cases reached : storage.step inner name with
    | error obstacle => simp [reached] at led
    | ok place =>
      rw [reached] at led
      cases led
      simp [step_into named reached]

end VectorForge.Proofs.StoragePlaces
