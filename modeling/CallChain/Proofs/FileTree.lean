import CallChain.FileTree
import CallChain.Proofs.Sequence

/-! Files: what was written to a file is read from it. -/

namespace CallChain.FileTree

variable {files : FileTree} {place : Place}

/-- An entry that was put at a place stands there, unless the place leads to where paths start. -/
theorem entry?_put_self (outside : place.isPrefixOf files.working = false) (entry : FileEntry) :
    entry? (files.put place entry) place = some entry := by
  simp [put, entry?, outside]

/-- Putting an entry at a place leaves what stands at the others. -/
theorem entry?_put_of_ne {other : Place} (different : other ≠ place) (entry : FileEntry) :
    entry? (files.put place entry) other = files.entry? other := by
  have passed : (place == other) = false := beq_eq_false_iff_ne.mpr different.symm
  -- The entries that make room for the new one are not looked for.
  have kept : ∀ entries : List (Place × FileEntry),
      (entries.filter fun old => old.1 != place).find? (fun old => old.1 == other) =
        entries.find? fun old => old.1 == other := by
    intro entries
    rw [List.find?_filter]
    congr 1
    funext old
    by_cases found : old.1 = other
    · simp [found, different]
    · simp [found]
  unfold entry? put
  simp only [List.find?_cons, passed, kept]

/-- Where no directory stands, no path starts, and no directory above it lies. -/
theorem outside_of_vacant (vacant : files.entry? place ≠ some .directory) :
    place.isPrefixOf files.working = false := by
  -- The working directory and those above it are always there.
  by_contra inside
  rw [Bool.not_eq_false] at inside
  exact vacant (by simp [inside, entry?])

/-- The files of a tree after a file was put somewhere: that one there, and elsewhere the same. -/
theorem entry?_put_file_iff {content other : Bytes} {elsewhere : Place}
    (vacant : files.entry? place ≠ some .directory) :
    entry? (files.put place (.file content)) elsewhere = some (.file other) ↔
      (elsewhere = place ∧ other = content) ∨
        (elsewhere ≠ place ∧ files.entry? elsewhere = some (.file other)) := by
  by_cases same : elsewhere = place
  · subst same
    rw [entry?_put_self (outside_of_vacant vacant)]
    simp [eq_comm]
  · rw [entry?_put_of_ne same]
    simp [same]

/-- What is required of a directory holds of one. -/
theorem checkDirectory_eq_ok_iff :
    files.checkDirectory place = .ok () ↔ files.entry? place = some .directory := by
  unfold checkDirectory
  -- Of the three things that can be found, only a directory passes.
  cases files.entry? place with
  | none => simp
  | some entry => cases entry <;> simp

/-- Names lead to the same place in every tree that has the directories of this one. -/
theorem follow_of_directories {after : FileTree}
    (still : ∀ {place}, files.entry? place = some .directory →
      after.entry? place = some .directory)
    {names : List String} {start found : Place} (led : files.follow start names = .ok found) :
    after.follow start names = .ok found := by
  induction names generalizing start with
  | nil => exact led
  | cons name rest ih =>
    -- The way starts at a directory, which is one in the other tree too.
    obtain ⟨_, passed, led⟩ := bind_eq_ok_iff.mp led
    have passes : after.checkDirectory start = .ok () :=
      checkDirectory_eq_ok_iff.mpr (still (checkDirectory_eq_ok_iff.mp passed))
    refine bind_eq_ok_iff.mpr ⟨(), passes, ?_⟩
    -- Each kind of name leads on from the same directory as before.
    split at led
    next dot =>
      rw [if_pos dot]
      exact ih led
    next name =>
      rw [if_neg name]
      split at led
      next above =>
        rw [if_pos above]
        exact ih led
      next below =>
        rw [if_neg below]
        split at led
        next => cases led
        next short =>
          rw [if_neg short]
          exact ih led

/-- Putting a file where no directory stood leaves all directories. -/
theorem entry?_put_file {content : Bytes} {other : Place}
    (vacant : files.entry? place ≠ some .directory)
    (directory : files.entry? other = some .directory) :
    entry? (files.put place (.file content)) other = some .directory := by
  -- The file was not put over the directory.
  have different : other ≠ place := by
    rintro rfl
    exact vacant directory
  rw [entry?_put_of_ne different]
  exact directory

/-- Names lead to the same place as before a file was put where no directory stood. -/
theorem follow_put {content : Bytes} (vacant : files.entry? place ≠ some .directory)
    {names : List String} {start found : Place} (led : files.follow start names = .ok found) :
    (files.put place (.file content)).follow start names = .ok found :=
  follow_of_directories (entry?_put_file vacant) led

/-- A file that was written is at the place that its path leads to. -/
theorem write_eq_ok {path : String} {content : Bytes} {after : FileTree}
    (written : files.write path content = .ok after) :
    checkPath path = .ok () ∧ meansDirectory path = false ∧
      ∃ place, files.follow (files.origin path) (names path) = .ok place ∧
        files.entry? place ≠ some .directory ∧ after = files.put place (.file content) := by
  obtain ⟨_, checked, written⟩ := bind_eq_ok_iff.mp written
  by_cases directory : meansDirectory path = true
  · -- A path that can only mean a directory is refused, wherever it leads.
    rw [if_pos directory] at written
    obtain ⟨_, _, written⟩ := bind_eq_ok_iff.mp written
    cases written
  · rw [if_neg directory] at written
    obtain ⟨place, led, written⟩ := bind_eq_ok_iff.mp written
    by_cases occupied : files.entry? place = some .directory
    · rw [if_pos occupied] at written
      cases written
    · rw [if_neg occupied] at written
      exact ⟨checked, (Bool.not_eq_true _).mp directory, place, led, occupied,
        (pure_eq_ok_iff.mp written).symm⟩

/-- A file holds what was written to it. -/
theorem read_write {path : String} {content : Bytes} {after : FileTree}
    (written : files.write path content = .ok after) : after.read path = .ok content := by
  obtain ⟨checked, named, place, led, vacant, rfl⟩ := write_eq_ok written
  have outside := outside_of_vacant vacant
  have located : (files.put place (.file content)).locate path = .ok place :=
    bind_eq_ok_iff.mpr ⟨(), checked, follow_put vacant led⟩
  refine bind_eq_ok_iff.mpr ⟨place, located, ?_⟩
  simp [named, entry?_put_self outside, Pure.pure, Except.pure]

/-- Writing a file changes nothing but what stands where its path leads. -/
theorem write_elsewhere {path : String} {content : Bytes} {after : FileTree}
    (written : files.write path content = .ok after) :
    ∃ place, files.locate path = .ok place ∧
      ∀ other, other ≠ place → after.entry? other = files.entry? other := by
  obtain ⟨checked, _, place, led, _, rfl⟩ := write_eq_ok written
  refine ⟨place, bind_eq_ok_iff.mpr ⟨(), checked, led⟩, ?_⟩
  intro other different
  exact entry?_put_of_ne different _

end CallChain.FileTree
