import CallChain.Json.Parse
import CallChain.Proofs.Json.RoundTrip
import CallChain.Proofs.Sequence

/-! Texts and their numbers: whatever is read from a text has only numbers with a spelling. -/

namespace CallChain.Json

mutual

/-- Whether every number of a tree has a spelling. -/
def Spelled : Json → Prop
  | .number value => value.isFinite
  | .array items => ItemsSpelled items
  | .object members => MembersSpelled members
  | _ => True

/-- Whether every number of some items has a spelling. -/
def ItemsSpelled : List Json → Prop
  | [] => True
  | item :: rest => Spelled item ∧ ItemsSpelled rest

/-- Whether every number in the contents of some members has a spelling. -/
def MembersSpelled : List (String × Json) → Prop
  | [] => True
  | (_, content) :: rest => Spelled content ∧ MembersSpelled rest

end

/-- Items are spelled when each is. -/
theorem itemsSpelled_iff {items : List Json} :
    ItemsSpelled items ↔ ∀ item ∈ items, item.Spelled := by
  induction items with
  | nil => simp [ItemsSpelled]
  | cons item items ih => simp [ItemsSpelled, ih]

/-- Members are spelled when the content of each is. -/
theorem membersSpelled_iff {members : List (String × Json)} :
    MembersSpelled members ↔ ∀ member ∈ members, member.2.Spelled := by
  induction members with
  | nil => simp [MembersSpelled]
  | cons member members ih => simp [MembersSpelled, ih]

section Reading

/-- An object of spelled members is spelled, or has no value. -/
theorem spelled_ofMembers {members : List (Option String × Json)}
    (spelled : ∀ member ∈ members, member.2.Spelled) : (ofMembers members).Spelled := by
  unfold ofMembers
  split
  next named found =>
    refine membersSpelled_iff.mpr ?_
    -- The members that have names are the same ones.
    induction members generalizing named with
    | nil =>
      cases found
      simp
    | cons member members ih =>
      obtain ⟨name, content⟩ := member
      rw [List.mapM_cons] at found
      obtain ⟨first, own, found⟩ := Option.bind_eq_some_iff.mp found
      obtain ⟨others, rest, found⟩ := Option.bind_eq_some_iff.mp found
      obtain ⟨_, _, rfl⟩ := Option.map_eq_some_iff.mp own
      cases found
      intro other placed
      rcases List.mem_cons.mp placed with rfl | later
      · exact spelled (name, content) (by simp)
      · exact ih (fun other member => spelled other (by simp [member])) others rest other later
  next => trivial

/-- A numeral is spelled, or has no value. -/
theorem spelled_numeral (numeral : Numeral) :
    (numeral.value?.elim Json.valueless .number).Spelled := by
  cases read : numeral.value? with
  | none => trivial
  | some number =>
    cases number with
    | natural | negative => exact rfl
    | float x => exact isFinite_of_value? read

/-- Whether what is read with some fuel is spelled: a value, the items of an array, the members of
an object. -/
structure ReadsSpelled (fuel : Nat) : Prop where
  value : ∀ text json rest, value? fuel text = some (json, rest) → json.Spelled
  items : ∀ text items rest, items? fuel text = some (items, rest) → ∀ item ∈ items, item.Spelled
  members : ∀ text members rest, members? fuel text = some (members, rest) →
    ∀ member ∈ members, member.2.Spelled

variable {fuel : Nat}

/-- A value that is read is spelled if what it consists of is. -/
theorem spelled_of_value? (inner : ReadsSpelled fuel) {text rest : List Char} {json : Json}
    (read : value? (fuel + 1) text = some (json, rest)) : json.Spelled := by
  unfold value? at read
  split at read
  · cases read
  split at read
  · -- A string, which may have no value.
    obtain ⟨⟨content, more⟩, _, read⟩ := Option.bind_eq_some_iff.mp read
    cases read
    cases content <;> trivial
  split at read
  · -- An array, empty or not.
    split at read
    · cases read
      trivial
    · obtain ⟨⟨items, more⟩, found, read⟩ := Option.bind_eq_some_iff.mp read
      cases read
      exact itemsSpelled_iff.mpr (inner.items _ _ _ found)
  split at read
  · -- An object, empty or not.
    split at read
    · cases read
      trivial
    · obtain ⟨⟨members, more⟩, found, read⟩ := Option.bind_eq_some_iff.mp read
      cases read
      exact spelled_ofMembers (inner.members _ _ _ found)
  -- The three words.
  split at read
  · obtain ⟨more, _, read⟩ := Option.bind_eq_some_iff.mp read
    cases read
    trivial
  split at read
  · obtain ⟨more, _, read⟩ := Option.bind_eq_some_iff.mp read
    cases read
    trivial
  split at read
  · obtain ⟨more, _, read⟩ := Option.bind_eq_some_iff.mp read
    cases read
    trivial
  · -- A numeral, the only place where a number comes from.
    obtain ⟨⟨numeral, more⟩, _, read⟩ := Option.bind_eq_some_iff.mp read
    cases read
    exact spelled_numeral numeral

/-- So are the items of an array. -/
theorem spelled_of_items? (inner : ReadsSpelled fuel) {text rest : List Char} {items : List Json}
    (read : items? (fuel + 1) text = some (items, rest)) : ∀ item ∈ items, item.Spelled := by
  unfold items? at read
  obtain ⟨⟨item, more⟩, own, read⟩ := Option.bind_eq_some_iff.mp read
  have first := inner.value _ _ _ own
  dsimp only at read
  split at read
  · obtain ⟨⟨others, last⟩, found, read⟩ := Option.bind_eq_some_iff.mp read
    cases read
    exact List.forall_mem_cons.mpr ⟨first, inner.items _ _ _ found⟩
  · cases read
    exact List.forall_mem_singleton.mpr first
  · cases read

/-- So are the members of an object. -/
theorem spelled_of_members? (inner : ReadsSpelled fuel) {text rest : List Char}
    {members : List (Option String × Json)}
    (read : members? (fuel + 1) text = some (members, rest)) :
    ∀ member ∈ members, member.2.Spelled := by
  unfold members? at read
  obtain ⟨opened, _, read⟩ := Option.bind_eq_some_iff.mp read
  obtain ⟨⟨name, more⟩, _, read⟩ := Option.bind_eq_some_iff.mp read
  obtain ⟨more, _, read⟩ := Option.bind_eq_some_iff.mp read
  obtain ⟨⟨content, more⟩, own, read⟩ := Option.bind_eq_some_iff.mp read
  have first := inner.value _ _ _ own
  dsimp only at read
  split at read
  · obtain ⟨⟨others, last⟩, found, read⟩ := Option.bind_eq_some_iff.mp read
    cases read
    exact List.forall_mem_cons.mpr ⟨first, inner.members _ _ _ found⟩
  · cases read
    exact List.forall_mem_singleton.mpr first
  · cases read

/-- With any fuel, what is read is spelled. -/
theorem readsSpelled (fuel : Nat) : ReadsSpelled fuel := by
  -- Each call is made with less fuel, so one induction carries all three.
  induction fuel with
  | zero => exact ⟨by simp [value?], by simp [items?], by simp [members?]⟩
  | succ fuel inner =>
    exact ⟨fun _ _ _ => spelled_of_value? inner, fun _ _ _ => spelled_of_items? inner,
      fun _ _ _ => spelled_of_members? inner⟩

/-- The tree of a text is spelled. -/
theorem spelled_of_read? {text : String} {json : Json} (read : read? text = some json) :
    json.Spelled := by
  obtain ⟨⟨found, rest⟩, own, read⟩ := Option.bind_eq_some_iff.mp read
  dsimp only at read
  split at read
  · cases read
    exact (readsSpelled _).value _ _ _ own
  · cases read

end Reading

/-- Whether all data that is read out of spelled trees has some property. -/
def Yields {α : Type} (decoder : Decoder α) (holds : α → Prop) : Prop :=
  ∀ json a, json.Spelled → decoder json = .ok a → holds a

section Decoders

variable {α : Type} {decoder : Decoder α} {holds : α → Prop} {found : Record} {name : String}

/-- Data of a text has the property. -/
theorem Yields.parse (yields : Yields decoder holds) {text : String} {a : α}
    (read : Json.parse decoder text = .ok a) : holds a := by
  unfold Json.parse at read
  split at read
  · cases read
  · exact yields _ _ (spelled_of_read? ‹_›) read

/-- So do the elements of a list. -/
theorem Yields.list (yields : Yields decoder holds) :
    Yields (list decoder) fun elements => ∀ a ∈ elements, holds a := by
  intro json elements spelled read
  cases json with
  | array items =>
    intro a member
    obtain ⟨item, placed, own⟩ := exists_element_of_mem read member
    exact yields item a (itemsSpelled_iff.mp spelled item placed) own
  | _ => cases read

/-- The fields that are collected are spelled if the members are. -/
theorem spelled_collectFields {fields : List Field} {members : List (String × Json)}
    {result : Record} (spelled : ∀ member ∈ members, member.2.Spelled)
    (before : ∀ field ∈ found, field.2.Spelled)
    (read : collectFields fields members found = .ok result) :
    ∀ field ∈ result, field.2.Spelled := by
  -- The induction moves one member after the other to those found before.
  induction members generalizing found with
  | nil =>
    cases read
    exact before
  | cons member members ih =>
    obtain ⟨name, content⟩ := member
    have others : ∀ member ∈ members, member.2.Spelled :=
      fun member placed => spelled member (by simp [placed])
    unfold collectFields at read
    split at read
    · exact ih others before read
    · split at read
      · cases read
      · refine ih others ?_ read
        intro field placed
        rcases List.mem_append.mp placed with earlier | own
        · exact before field earlier
        · obtain rfl := List.mem_singleton.mp own
          exact spelled (name, content) (by simp)

/-- So are the fields that are paired with items. -/
theorem spelled_pairFields {fields : List Field} {items : List Json} {result : Record}
    (spelled : ∀ item ∈ items, item.Spelled) (read : pairFields fields items = .ok result) :
    ∀ field ∈ result, field.2.Spelled := by
  induction fields generalizing items result with
  | nil =>
    cases items <;> cases read
    simp
  | cons field fields ih =>
    cases items with
    | nil =>
      unfold pairFields at read
      split at read
      · exact ih (by simp) read
      · cases read
    | cons item items =>
      obtain ⟨others, rest, rfl⟩ := map_eq_ok_iff.mp read
      exact List.forall_mem_cons.mpr ⟨spelled item (by simp),
        ih (fun item placed => spelled item (by simp [placed])) rest⟩

/-- A record has spelled fields. -/
theorem record_yields (fields : List Field) :
    Yields (record fields) fun found => ∀ field ∈ found, field.2.Spelled := by
  intro json found spelled read
  cases json with
  | object members =>
    exact spelled_collectFields (membersSpelled_iff.mp spelled) (by simp) read
  | array items => exact spelled_pairFields (itemsSpelled_iff.mp spelled) read
  | _ => cases read

/-- The content of a field is spelled. -/
theorem spelled_find? (spelled : ∀ field ∈ found, field.2.Spelled) {content : Json}
    (own : found.find? name = some content) : content.Spelled := by
  obtain ⟨field, placed, rfl⟩ := Option.map_eq_some_iff.mp own
  exact spelled field (List.mem_of_find?_eq_some placed)

/-- Data of a field that has to be there has the property. -/
theorem Yields.required (yields : Yields decoder holds)
    (spelled : ∀ field ∈ found, field.2.Spelled) {a : α}
    (read : found.required name decoder = .ok a) : holds a := by
  unfold Record.required at read
  split at read
  next content own => exact yields content a (spelled_find? spelled own) read
  next => cases read

/-- So does that of a field with a value for its absence, if that value has it. -/
theorem Yields.orElse (yields : Yields decoder holds)
    (spelled : ∀ field ∈ found, field.2.Spelled) {absent a : α} (holdsAbsent : holds absent)
    (read : found.orElse name absent decoder = .ok a) : holds a := by
  unfold Record.orElse at read
  split at read
  next content own => exact yields content a (spelled_find? spelled own) read
  next =>
    cases read
    exact holdsAbsent

/-- So does that of a field that may be null or absent. -/
theorem Yields.optional (yields : Yields decoder holds)
    (spelled : ∀ field ∈ found, field.2.Spelled) {o : Option α}
    (read : found.optional name decoder = .ok o) : ∀ a ∈ o, holds a := by
  have maybe : Yields (nullable decoder) fun o => ∀ a ∈ o, holds a := by
    intro json o spelled read
    unfold nullable at read
    split at read
    · cases read
      simp
    · obtain ⟨b, own, rfl⟩ := map_eq_ok_iff.mp read
      rintro a ⟨⟩
      exact yields _ _ spelled own
  exact maybe.orElse spelled (by simp) read

end Decoders

end CallChain.Json
