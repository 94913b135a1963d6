import CallChain.Proofs.FileTree

/-! Directories: what making them leaves alone, and where the paths of their entries lead. -/

namespace CallChain.FileTree

/-- A tree grows into another when everything keeps its place and no file is added. -/
structure Grows (files after : FileTree) : Prop where
  working : after.working = files.working
  kept : ∀ {place : Place} {entry : FileEntry},
    files.entry? place = some entry → after.entry? place = some entry
  sameFiles : ∀ {place : Place} {content : Bytes},
    after.entry? place = some (.file content) → files.entry? place = some (.file content)

variable {files after : FileTree} {place : Place}

/-- A tree grows into itself. -/
theorem Grows.refl : Grows files files :=
  ⟨rfl, id, id⟩

/-- Growing twice is growing. -/
theorem Grows.trans {between : FileTree} (first : Grows files between)
    (second : Grows between after) : Grows files after where
  working := second.working.trans first.working
  kept stood := second.kept (first.kept stood)
  sameFiles stood := first.sameFiles (second.sameFiles stood)

/-- A directory that is put where nothing stood lets the tree grow. -/
theorem Grows.put_directory (vacant : files.entry? place = none) :
    Grows files (files.put place .directory) where
  working := rfl
  kept {other entry} stood := by
    -- Nothing stood at the place, so whatever stood was elsewhere.
    have different : other ≠ place := by
      intro same
      rw [same, vacant] at stood
      cases stood
    rw [entry?_put_of_ne different]
    exact stood
  sameFiles {other content} stood := by
    -- What is new is no file.
    have outside : place.isPrefixOf files.working = false := outside_of_vacant (by simp [vacant])
    have different : other ≠ place := by
      intro same
      rw [same, entry?_put_self outside] at stood
      cases stood
    rw [entry?_put_of_ne different] at stood
    exact stood

/-- The one directory that is made is new. -/
theorem makeOne_grows {names : List String} (made : files.makeOne place names = .ok after) :
    Grows files after := by
  obtain ⟨parent, _, made⟩ := bind_eq_ok_iff.mp made
  cases named : names.getLast? with
  | none =>
    rw [named] at made
    cases made
  | some name =>
    rw [named] at made
    simp only at made
    -- Of the ways out, only the last makes a directory, where nothing stands.
    split at made
    · cases made
    split at made
    · cases made
    split at made
    · cases made
    next vacant =>
      rw [← pure_eq_ok_iff.mp made]
      exact .put_directory (by simpa using vacant)

/-- Seeing to it that a directory is there lets the tree grow. -/
theorem ensureOne_grows {names : List String} (made : files.ensureOne place names = .ok after) :
    Grows files after := by
  unfold ensureOne at made
  split at made
  next tree one =>
    cases made
    exact makeOne_grows one
  next fault _ =>
    -- A directory that is there already leaves the tree as it is.
    split at made
    · cases made
      exact .refl
    · cases made

/-- Making directories, one in the other, lets the tree grow, however far it gets. -/
theorem makeDirectories_grows {paths : List (List String)} :
    Grows files (files.makeDirectories place paths).1 := by
  induction paths generalizing files with
  | nil => exact .refl
  | cons names outer ih =>
    unfold makeDirectories
    split
    next tree made => exact ensureOne_grows made
    next missing =>
      -- The outer directories come first; only when they are there is the inner one tried again.
      have outerGrows : Grows files (files.makeDirectories place outer).1 := ih
      split
      next tree fault outcome =>
        rw [outcome] at outerGrows
        exact outerGrows
      next tree outcome =>
        rw [outcome] at outerGrows
        split
        next made => exact outerGrows.trans (ensureOne_grows made)
        next => exact outerGrows
    next => exact .refl

/-- Making a directory lets the tree grow. -/
theorem makeDirectory_grows (path : String) : Grows files (files.makeDirectory path).1 := by
  unfold makeDirectory
  split
  · exact .refl
  split
  · exact .refl
  · exact makeDirectories_grows

/-- Names lead on through a tree that has grown. -/
theorem Grows.follow (grown : Grows files after) {names : List String} {start found : Place}
    (led : files.follow start names = .ok found) : after.follow start names = .ok found :=
  follow_of_directories grown.kept led

/-- Following names and then more names is following them all. -/
theorem follow_append {names more : List String} {start : Place} :
    files.follow start (names ++ more) =
      (files.follow start names).bind fun between => files.follow between more := by
  induction names generalizing start with
  | nil => rfl
  | cons name rest ih =>
    rw [List.cons_append, follow, follow]
    -- The first name is followed the same way, and may stop the rest either way.
    cases files.checkDirectory start with
    | error fault => rfl
    | ok _ =>
      show (if _ then _ else _) = Except.bind (if _ then _ else _) _
      split
      · exact ih
      split
      · exact ih
      split
      · rfl
      · exact ih

/-- A text without slashes is its own only part. -/
theorem splitSlashes_of_not_mem {part : List Char} (whole : '/' ∉ part) :
    splitSlashes part = [part] := by
  induction part with
  | nil => rfl
  | cons c rest ih =>
    have other : c ≠ '/' := fun same => whole (by simp [same])
    rw [splitSlashes, if_neg other, ih fun member => whole (List.mem_cons_of_mem c member)]

/-- There always is a part, if only an empty one. -/
theorem splitSlashes_ne_nil (text : List Char) : splitSlashes text ≠ [] := by
  unfold splitSlashes
  split
  · simp
  split
  · simp
  split <;> simp

/-- The parts on both sides of a slash are apart. -/
theorem splitSlashes_append {before after : List Char} :
    splitSlashes (before ++ '/' :: after) = splitSlashes before ++ splitSlashes after := by
  induction before with
  | nil => rfl
  | cons c rest ih =>
    rw [List.cons_append, splitSlashes, splitSlashes, ih]
    -- A character other than a slash joins the first part.
    split
    · rfl
    · obtain ⟨part, parts, parted⟩ := List.exists_cons_of_ne_nil (splitSlashes_ne_nil rest)
      rw [parted]
      rfl

/-- Only a text that is empty or ends with a slash has an empty last part. -/
theorem ends_of_getLast?_splitSlashes {text : List Char}
    (last : (splitSlashes text).getLast? = some []) :
    text = [] ∨ ∃ before, text = before ++ ['/'] := by
  induction text with
  | nil => exact .inl rfl
  | cons c rest ih =>
    right
    obtain ⟨part, parts, parted⟩ := List.exists_cons_of_ne_nil (splitSlashes_ne_nil rest)
    rw [splitSlashes, parted] at last
    split at last
    next slash =>
      -- What follows the slash has the same last part.
      rw [List.getLast?_cons_cons, ← parted] at last
      obtain rfl | ⟨before, rfl⟩ := ih last
      · exact ⟨[], by rw [slash]; rfl⟩
      · exact ⟨c :: before, rfl⟩
    next =>
      -- The part that the character has joined is not empty, so it is not the last one.
      cases parts with
      | nil => simp at last
      | cons next others =>
        simp only [List.getLast?_cons_cons] at last
        rw [parted, List.getLast?_cons_cons] at ih
        obtain rfl | ⟨before, rfl⟩ := ih last
        · simp [splitSlashes] at parted
        · exact ⟨c :: before, rfl⟩

/-- The names on both sides of a slash follow each other. -/
theorem names_append_slash {before after : String} :
    names (before ++ "/" ++ after) = names before ++ names after := by
  have split : (before ++ "/" ++ after).toList = before.toList ++ '/' :: after.toList := by
    simp
  rw [names, parts, split, splitSlashes_append, List.map_append, List.filter_append]
  rfl

/-- A name without slashes is the only name of its path. -/
theorem names_of_not_mem {name : String} (whole : '/' ∉ name.toList) (given : name ≠ "") :
    names name = [name] := by
  rw [names, parts, splitSlashes_of_not_mem whole]
  simp [given]

/-- The path of an entry leads over the names of its directory to the entry's own name. -/
theorem names_join {directory name : String} (whole : '/' ∉ name.toList) (given : name ≠ "") :
    names (join directory name) = names directory ++ [name] := by
  have alone := names_of_not_mem whole given
  unfold join
  split
  next ended =>
    -- Either the directory is not named, or its path brings the slash along.
    have bare : directory = "" ∨ ∃ before, directory = before ++ "/" := by
      obtain empty | last := ended
      · exact .inl empty
      · rw [parts, List.getLast?_map, Option.map_eq_some_iff] at last
        obtain ⟨part, last, unnamed⟩ := last
        have empty : part = [] := by simpa using unnamed
        rw [empty] at last
        obtain none | ⟨before, slash⟩ := ends_of_getLast?_splitSlashes last
        · exact .inl (by simpa using none)
        · exact .inr ⟨String.ofList before, by rw [← String.toList_inj]; simpa using slash⟩
    obtain rfl | ⟨before, rfl⟩ := bare
    · rw [String.empty_append, alone]
      rfl
    · have closed : names (before ++ "/") = names before := by
        have same : names (before ++ "/" ++ "") = names before ++ names "" := names_append_slash
        rw [String.append_empty] at same
        rw [same]
        simp [names, parts, splitSlashes]
      rw [names_append_slash, closed, alone]
  next =>
    rw [names_append_slash, alone]

/-- The path of an entry starts where that of its directory starts. -/
theorem origin_join {directory name : String} (whole : '/' ∉ name.toList) :
    files.origin (join directory name) = files.origin directory := by
  unfold origin
  congr 1
  by_cases unnamed : directory = ""
  · -- The name of an entry does not start with a slash.
    subst unnamed
    have other : name.toList.head? ≠ some '/' :=
      fun first => whole (List.mem_of_head? first)
    simp [join, other]
  · have first : (join directory name).toList.head? = directory.toList.head? := by
      have given : directory.toList ≠ [] := by simpa using unnamed
      obtain ⟨c, rest, listed⟩ := List.exists_cons_of_ne_nil given
      unfold join
      split <;> simp [listed]
    rw [first]

/-- A path leads to a directory that stands at a place. -/
structure Opens (files : FileTree) (path : String) (home : Place) : Prop where
  led : files.follow (files.origin path) (names path) = .ok home
  stands : files.entry? home = some .directory

variable {path directory name : String} {home : Place}

/-- A path leads to one directory only. -/
theorem Opens.unique {other : Place} (opened : Opens files path home)
    (again : Opens files path other) : other = home := by
  have same := again.led.symm.trans opened.led
  simpa using same

/-- A directory can be opened in every tree that has all the directories of this one. -/
theorem Opens.of_directories (opened : Opens files path home)
    (working : after.working = files.working)
    (still : ∀ {place}, files.entry? place = some .directory →
      after.entry? place = some .directory) : Opens after path home where
  led := by
    -- Paths start where they started.
    have start : after.origin path = files.origin path := by
      rw [origin, origin, working]
    rw [start]
    exact follow_of_directories still opened.led
  stands := still opened.stands

/-- A name that an entry of a directory can have. -/
structure IsEntryName (name : String) : Prop where
  whole : '/' ∉ name.toList
  given : name ≠ ""
  notSame : name ≠ "."
  notAbove : name ≠ ".."

/-- The path of an entry leads from its directory, which has to be there, to the entry's place,
unless its name is too long. -/
theorem follow_join_eq_ok_iff (entry : IsEntryName name) :
    files.follow (files.origin (join directory name)) (names (join directory name)) = .ok place ↔
      ∃ home, Opens files directory home ∧ name.utf8ByteSize ≤ longestName ∧
        place = home ++ [name] := by
  rw [names_join entry.whole entry.given, origin_join entry.whole, follow_append]
  constructor
  · intro led
    obtain ⟨home, led, last⟩ := bind_eq_ok_iff.mp led
    -- The last name is followed from a directory, and it is neither of the two special ones.
    obtain ⟨_, passed, last⟩ := bind_eq_ok_iff.mp last
    rw [if_neg entry.notSame, if_neg entry.notAbove] at last
    split at last
    next => cases last
    next short =>
      refine ⟨home, ⟨led, checkDirectory_eq_ok_iff.mp passed⟩, Nat.le_of_not_lt short, ?_⟩
      exact (pure_eq_ok_iff.mp last).symm
  · intro found
    obtain ⟨home, opened, short, rfl⟩ := found
    refine bind_eq_ok_iff.mpr ⟨home, opened.led, ?_⟩
    refine bind_eq_ok_iff.mpr ⟨(), checkDirectory_eq_ok_iff.mpr opened.stands, ?_⟩
    rw [if_neg entry.notSame, if_neg entry.notAbove, if_neg (Nat.not_lt.mpr short)]
    rfl

/-- An entry whose path can be that of a file, wherever its directory is. -/
structure Reachable (directory name : String) : Prop where
  passes : checkPath (join directory name) = .ok ()
  plain : meansDirectory (join directory name) = false
  short : name.utf8ByteSize ≤ longestName

/-- Writing an entry of a directory puts a file in the directory, which was there. -/
theorem write_join_eq_ok {content : Bytes} (entry : IsEntryName name)
    (written : files.write (join directory name) content = .ok after) :
    Reachable directory name ∧ ∃ home, Opens files directory home ∧
      files.entry? (home ++ [name]) ≠ some .directory ∧
      after = files.put (home ++ [name]) (.file content) := by
  obtain ⟨passes, plain, place, led, vacant, rfl⟩ := write_eq_ok written
  obtain ⟨home, opened, short, rfl⟩ := (follow_join_eq_ok_iff entry).mp led
  exact ⟨⟨passes, plain, short⟩, home, opened, vacant, rfl⟩

/-- Reading an entry of a directory gives the content of the file that stands there. -/
theorem read_join_eq_ok_iff {content : Bytes} (entry : IsEntryName name)
    (reachable : Reachable directory name) (opened : Opens files directory home) :
    files.read (join directory name) = .ok content ↔
      files.entry? (home ++ [name]) = some (.file content) := by
  have led := (follow_join_eq_ok_iff entry).mpr ⟨home, opened, reachable.short, rfl⟩
  have located : files.locate (join directory name) = .ok (home ++ [name]) :=
    bind_eq_ok_iff.mpr ⟨(), reachable.passes, led⟩
  unfold read
  rw [located]
  simp only [Bind.bind, Except.bind]
  -- Only a file can be read.
  cases files.entry? (home ++ [name]) with
  | none => simp [throw, throwThe, MonadExceptOf.throw]
  | some found =>
    cases found with
    | directory => simp [throw, throwThe, MonadExceptOf.throw]
    | file other => simp [reachable.plain, Pure.pure, Except.pure]

end CallChain.FileTree
