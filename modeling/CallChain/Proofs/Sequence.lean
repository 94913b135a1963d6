import Mathlib.Data.List.Forall2

/-! What a sequence of steps that can fail has established once it succeeds. -/

namespace CallChain

variable {ε α β : Type}

/-- Two steps succeed together exactly when each succeeds in turn. -/
theorem bind_eq_ok_iff {first : Except ε α} {rest : α → Except ε β} {result : β} :
    first >>= rest = .ok result ↔ ∃ value, first = .ok value ∧ rest value = .ok result := by
  -- A fault in the first step is the fault of both.
  cases first <;> simp [Bind.bind, Except.bind]

/-- A fault of two steps is that of the first, or else that of the second. -/
theorem bind_eq_error_iff {first : Except ε α} {rest : α → Except ε β} {fault : ε} :
    first >>= rest = .error fault ↔
      first = .error fault ∨ ∃ value, first = .ok value ∧ rest value = .error fault := by
  cases first <;> simp [Bind.bind, Except.bind]

/-- A step that always succeeds has just its value as a result. -/
theorem pure_eq_ok_iff {value result : α} :
    (pure value : Except ε α) = .ok result ↔ value = result := by
  simp [Pure.pure, Except.pure]

/-- A step that always succeeds has no fault. -/
theorem pure_ne_error {value : α} {fault : ε} : (pure value : Except ε α) ≠ .error fault := by
  simp [Pure.pure, Except.pure]

/-- A step succeeds exactly when it does so before its result is changed. -/
theorem map_eq_ok_iff {step : Except ε α} {change : α → β} {result : β} :
    step.map change = .ok result ↔ ∃ value, step = .ok value ∧ change value = result := by
  cases step <;> simp [Except.map]

/-- A step succeeds just if it does so before its result is changed. -/
theorem map_succeeds_iff {step : Except ε α} {change : α → β} :
    (∃ result, step.map change = .ok result) ↔ ∃ value, step = .ok value := by
  cases step <;> simp [Except.map]

/-- A step that succeeds does so however its faults are told. -/
theorem mapError_eq_ok_iff {δ : Type} {step : Except ε α} {tell : ε → δ} {result : α} :
    step.mapError tell = .ok result ↔ step = .ok result := by
  cases step <;> simp [Except.mapError]

/-- Telling the fault of two steps in another way is telling that of each one so. -/
theorem mapError_bind {δ : Type} {first : Except ε α} {rest : α → Except ε β} {tell : ε → δ} :
    (first >>= rest).mapError tell =
      first.mapError tell >>= fun value => (rest value).mapError tell := by
  cases first <;> rfl

/-- Two steps succeed when the first does and the second does whatever the first gives. -/
theorem bind_succeeds {first : Except ε α} {rest : α → Except ε β}
    (head : ∃ value, first = .ok value) (tail : ∀ value, ∃ result, rest value = .ok result) :
    ∃ result, first >>= rest = .ok result := by
  obtain ⟨value, rfl⟩ := head
  exact tail value

/-- Checking every element succeeds when the check of each one does. -/
theorem forM_eq_ok {check : α → Except ε Unit} {elements : List α}
    (passes : ∀ element ∈ elements, check element = .ok ()) :
    elements.forM check = .ok () := by
  -- The check of the first element has no result that the others could depend on.
  induction elements with
  | nil => rfl
  | cons element rest ih =>
    have head := passes element (by simp)
    have tail := ih fun other member => passes other (by simp [member])
    show (check element >>= fun _ => rest.forM check) = _
    rw [head]
    exact tail

/-- Checking every element has succeeded only if the check of each one has. -/
theorem of_forM_eq_ok {check : α → Except ε Unit} {elements : List α}
    (passed : elements.forM check = .ok ()) : ∀ element ∈ elements, check element = .ok () := by
  induction elements with
  | nil => simp
  | cons first rest ih =>
    obtain ⟨_, head, tail⟩ := bind_eq_ok_iff.mp passed
    intro element member
    rcases List.mem_cons.mp member with rfl | later
    · exact head
    · exact ih tail element later

/-- Mapping succeeds exactly when every element has the result at its position. -/
theorem mapM_eq_ok_iff {step : α → Except ε β} {elements : List α} {results : List β} :
    elements.mapM step = .ok results ↔
      List.Forall₂ (fun element result => step element = .ok result) elements results := by
  -- The first element and the rest succeed or fail on their own.
  induction elements generalizing results with
  | nil =>
    rw [List.mapM_nil, pure_eq_ok_iff, List.forall₂_nil_left_iff]
    exact eq_comm
  | cons element rest ih =>
    rw [List.mapM_cons, bind_eq_ok_iff]
    constructor
    · rintro ⟨head, passed, others⟩
      obtain ⟨tail, mapped, joined⟩ := bind_eq_ok_iff.mp others
      rw [pure_eq_ok_iff] at joined
      subst joined
      exact .cons passed (ih.mp mapped)
    · intro matched
      cases matched with
      | cons passed tail =>
        refine ⟨_, passed, bind_eq_ok_iff.mpr ⟨_, ih.mpr tail, ?_⟩⟩
        exact pure_eq_ok_iff.mpr rfl

/-- Every element that was mapped has its result among the others. -/
theorem exists_result_of_mem {step : α → Except ε β} {elements : List α} {results : List β}
    (mapped : elements.mapM step = .ok results) {element : α} (member : element ∈ elements) :
    ∃ result ∈ results, step element = .ok result := by
  have matched := mapM_eq_ok_iff.mp mapped
  clear mapped
  induction matched with
  | nil => simp at member
  | cons passed _ ih =>
    rcases List.mem_cons.mp member with rfl | later
    · exact ⟨_, by simp, passed⟩
    · obtain ⟨result, placed, reached⟩ := ih later
      exact ⟨result, by simp [placed], reached⟩

/-- Every result of a mapping is that of one of its elements. -/
theorem exists_element_of_mem {step : α → Except ε β} {elements : List α} {results : List β}
    (mapped : elements.mapM step = .ok results) {result : β} (member : result ∈ results) :
    ∃ element ∈ elements, step element = .ok result := by
  have matched := mapM_eq_ok_iff.mp mapped
  clear mapped
  induction matched with
  | nil => simp at member
  | cons passed _ ih =>
    rcases List.mem_cons.mp member with rfl | later
    · exact ⟨_, by simp, passed⟩
    · obtain ⟨element, placed, reached⟩ := ih later
      exact ⟨element, by simp [placed], reached⟩

/-- A mapping to flags that raises just one of them raises it for a single element. -/
theorem exists_true_of_count_eq_one {check : α → Except ε Bool} {elements : List α}
    {flags : List Bool} (mapped : elements.mapM check = .ok flags) (once : flags.count true = 1) :
    ∃ before element after, elements = before ++ element :: after ∧ check element = .ok true ∧
      ∀ other ∈ before ++ after, check other = .ok false := by
  have matched := mapM_eq_ok_iff.mp mapped
  clear mapped
  induction matched with
  | nil => simp at once
  | @cons element flag rest flags passed tail ih =>
    cases flag with
    | true =>
      -- The flags of all the others are down.
      have down : true ∉ flags := List.count_eq_zero.mp (by simpa using once)
      refine ⟨[], element, rest, rfl, passed, fun other member => ?_⟩
      obtain ⟨raised, placed, found⟩ := exists_result_of_mem (mapM_eq_ok_iff.mpr tail) member
      cases raised with
      | true => exact absurd placed down
      | false => exact found
    | false =>
      obtain ⟨before, chosen, after, rfl, raised, others⟩ := ih (by simpa using once)
      refine ⟨element :: before, chosen, after, rfl, raised, fun other member => ?_⟩
      rcases List.mem_cons.mp member with rfl | later
      · exact passed
      · exact others other later

/-- Mapping with a step that never fails is mapping with its results. -/
theorem mapM_eq_map {step : α → Except ε β} {result : α → β} {elements : List α}
    (succeeds : ∀ element ∈ elements, step element = .ok (result element)) :
    elements.mapM step = .ok (elements.map result) := by
  rw [mapM_eq_ok_iff, List.forall₂_map_right_iff, List.forall₂_same]
  exact succeeds

/-- Mapping with steps that do the same to every element is the same mapping. -/
theorem mapM_congr {first second : α → Except ε β} {elements : List α}
    (same : ∀ element ∈ elements, first element = second element) :
    elements.mapM first = elements.mapM second := by
  induction elements with
  | nil => rfl
  | cons element rest ih =>
    have head := same element (by simp)
    have tail := ih fun other member => same other (by simp [member])
    rw [List.mapM_cons, List.mapM_cons, head, tail]

/-- Telling the fault of a mapping in another way is telling that of each element so. -/
theorem mapError_mapM {δ : Type} {step : α → Except ε β} {elements : List α} {tell : ε → δ} :
    (elements.mapM step).mapError tell =
      elements.mapM fun element => (step element).mapError tell := by
  induction elements with
  | nil => rfl
  | cons element rest ih =>
    -- What the elements give is only collected, and that has no fault to tell.
    have collected : ∀ head, (rest.mapM step >>= fun tail => pure (head :: tail)).mapError tell =
        (rest.mapM step).mapError tell >>= fun tail => pure (head :: tail) :=
      fun head => mapError_bind
    simp only [List.mapM_cons, mapError_bind, collected, ih]

/-- A mapping fails with the fault of the first element that has one. -/
theorem mapM_eq_error_iff {step : α → Except ε β} {elements : List α} {fault : ε} :
    elements.mapM step = .error fault ↔
      ∃ before element after, elements = before ++ element :: after ∧
        (∀ earlier ∈ before, ∃ result, step earlier = .ok result) ∧
        step element = .error fault := by
  induction elements with
  | nil => simp [Pure.pure, Except.pure]
  | cons first rest ih =>
    rw [List.mapM_cons, bind_eq_error_iff]
    constructor
    · rintro (failed | ⟨value, passed, others⟩)
      · exact ⟨[], first, rest, rfl, by simp, failed⟩
      · rcases bind_eq_error_iff.mp others with tail | ⟨results, _, joined⟩
        · obtain ⟨before, element, after, rfl, passes, failed⟩ := ih.mp tail
          refine ⟨first :: before, element, after, rfl, fun earlier member => ?_, failed⟩
          rcases List.mem_cons.mp member with rfl | later
          · exact ⟨value, passed⟩
          · exact passes earlier later
        · exact absurd joined pure_ne_error
    · rintro ⟨before, element, after, split, passes, failed⟩
      cases before with
      | nil =>
        obtain ⟨rfl, rfl⟩ := List.cons.inj split
        exact .inl failed
      | cons head before =>
        -- The first element passes, so the fault is that of the rest.
        obtain ⟨rfl, rfl⟩ := List.cons.inj split
        obtain ⟨value, passed⟩ := passes first (by simp)
        have tail := ih.mpr ⟨before, element, after, rfl,
          fun earlier later => passes earlier (by simp [later]), failed⟩
        exact .inr ⟨value, passed, bind_eq_error_iff.mpr (.inl tail)⟩

/-- A mapping that fails does so at one of its elements. -/
theorem mapM_eq_error {step : α → Except ε β} {elements : List α} {fault : ε}
    (failed : elements.mapM step = .error fault) :
    ∃ element ∈ elements, step element = .error fault := by
  obtain ⟨before, element, after, rfl, _, raised⟩ := mapM_eq_error_iff.mp failed
  exact ⟨element, by simp, raised⟩

/-- The fault of a step, if it has one. -/
def faultOf? : Except ε α → Option ε
  | .error fault => some fault
  | .ok _ => none

/-- The fault of a step is what it fails with. -/
theorem faultOf?_eq_some_iff {step : Except ε α} {fault : ε} :
    faultOf? step = some fault ↔ step = .error fault := by
  cases step <;> simp [faultOf?]

/-- A step without a fault has a result. -/
theorem faultOf?_eq_none_iff {step : Except ε α} :
    faultOf? step = none ↔ ∃ result, step = .ok result := by
  cases step <;> simp [faultOf?]

/-- A step that always succeeds has no fault. -/
@[simp] theorem faultOf?_pure (value : α) : faultOf? (pure value : Except ε α) = none :=
  rfl

/-- The fault of two steps is that of the first, or else the one that the second has whatever the
first gives. -/
theorem faultOf?_bind {first : Except ε α} {rest : α → Except ε β} {later : Option ε}
    (same : ∀ value, faultOf? (rest value) = later) :
    faultOf? (first >>= rest) = (faultOf? first).or later := by
  cases first with
  | error fault => rfl
  | ok value => exact same value

/-- The fault of a mapping is the first of those of its elements. -/
theorem faultOf?_mapM (step : α → Except ε β) (elements : List α) :
    faultOf? (elements.mapM step) =
      (elements.filterMap fun element => faultOf? (step element)).head? := by
  induction elements with
  | nil => rfl
  | cons element rest ih =>
    -- What the elements give is only collected, and that does not fail.
    have collected : ∀ head, faultOf? (rest.mapM step >>= fun tail => pure (head :: tail)) =
        faultOf? (rest.mapM step) := fun head => by
      rw [faultOf?_bind fun _ => faultOf?_pure _, Option.or_none]
    rw [List.mapM_cons, faultOf?_bind collected, ih, List.filterMap_cons]
    cases faultOf? (step element) <;> rfl

/-- Going through lists one after the other fails as going through all their elements does. -/
theorem mapM_flatMap_eq_error_iff {γ : Type} {lists : List α} {elements : α → List β}
    {step : β → Except ε γ} {fault : ε} :
    (lists.flatMap elements).mapM step = .error fault ↔
      lists.mapM (fun list => (elements list).mapM step) = .error fault := by
  induction lists with
  | nil => simp [Pure.pure, Except.pure]
  | cons list rest ih =>
    rw [List.flatMap_cons, List.mapM_append, List.mapM_cons, bind_eq_error_iff, bind_eq_error_iff]
    simp only [bind_eq_error_iff, ih, pure_ne_error, and_false, exists_false, or_false]

/-- Mappings that fail alike at each element fail alike. -/
theorem mapM_eq_error_congr {γ : Type} {first : α → Except ε β} {second : α → Except ε γ}
    {elements : List α}
    (same : ∀ element ∈ elements, ∀ fault, first element = .error fault ↔
      second element = .error fault) (fault : ε) :
    elements.mapM first = .error fault ↔ elements.mapM second = .error fault := by
  -- The faults of the elements are the same, and so is the first of them.
  have faults : (elements.filterMap fun element => faultOf? (first element)) =
      elements.filterMap fun element => faultOf? (second element) := by
    refine List.filterMap_congr fun element member => Option.ext fun own => ?_
    rw [faultOf?_eq_some_iff, faultOf?_eq_some_iff]
    exact same element member own
  rw [← faultOf?_eq_some_iff, ← faultOf?_eq_some_iff, faultOf?_mapM, faultOf?_mapM, faults]

end CallChain
