import CallChain.Proofs.Json.RoundTrip
import CallChain.Proofs.Sequence
import CallChain.Value.Json

/-! Data and the trees it is written as: what is left of a tree in its text is read as the data. -/

namespace CallChain.Json

/-- Whether data and its tree belong together: the tree of stable data is storable, and what is
left of the tree in its text is read as the data if that is finite, and else as nothing. -/
structure Mirrors {α : Type} (decoder : Decoder α) (encode : α → Json) (stable finite : α → Prop) :
    Prop where
  storable : ∀ {a}, stable a → (encode a).Storable
  reads : ∀ {a b}, decoder (encode a).stored = .ok b ↔ b = a ∧ finite a

/-- Data without floating-point numbers and its tree. -/
abbrev MirrorsAll {α : Type} (decoder : Decoder α) (encode : α → Json) : Prop :=
  Mirrors decoder encode (fun _ => True) fun _ => True

/-- Data that is always read as it was written belongs together with its tree. -/
theorem MirrorsAll.of_reads {α : Type} {decoder : Decoder α} {encode : α → Json}
    (storable : ∀ a, (encode a).Storable) (reads : ∀ a, decoder (encode a).stored = .ok a) :
    MirrorsAll decoder encode where
  storable _ := storable _
  reads {a b} := by
    rw [reads a, Except.ok.injEq, and_true]
    exact eq_comm

/-- Finite data is read from its own tree. -/
theorem Mirrors.reads_self {α : Type} {decoder : Decoder α} {encode : α → Json}
    {stable finite : α → Prop} (mirrors : Mirrors decoder encode stable finite) {a : α}
    (holds : finite a) : decoder (encode a).stored = .ok a :=
  mirrors.reads.mpr ⟨rfl, holds⟩

/-- Only one value is known to have been wrapped. -/
theorem exists_eq_wrapped_iff {α β : Type} {wrap : α → β} {a : α} {b : β} {holds : Prop} :
    (∃ value, (value = a ∧ holds) ∧ wrap value = b) ↔ b = wrap a ∧ holds := by
  constructor
  · rintro ⟨_, ⟨rfl, holds⟩, rfl⟩
    exact ⟨rfl, holds⟩
  · rintro ⟨rfl, holds⟩
    exact ⟨a, ⟨rfl, holds⟩, rfl⟩

/-- Data may be wrapped once it is read. -/
theorem Mirrors.reads_wrapped {α β : Type} {decoder : Decoder α} {encode : α → Json}
    {stable finite : α → Prop} (mirrors : Mirrors decoder encode stable finite) (wrap : α → β)
    {a : α} {b : β} :
    (do return wrap (← decoder (encode a).stored)) = Except.ok b ↔ b = wrap a ∧ finite a := by
  simp only [bind_eq_ok_iff, mirrors.reads, pure_eq_ok_iff]
  exact exists_eq_wrapped_iff

section Scalars

/-- Natural numbers of 32 bits. -/
theorem word32_mirrors : MirrorsAll word32 ofWord32 := by
  refine .of_reads (fun n _ => natural_readsBack _) fun n => ?_
  have small : n.toNat < UInt32.size := n.toNat_lt_size
  simp [ofWord32, stored, Number.isFinite, word32, small]

/-- Natural numbers of 64 bits. -/
theorem word64_mirrors : MirrorsAll word64 fun n => .number (.natural n) :=
  .of_reads (fun n _ => natural_readsBack n) fun _ => rfl

/-- Integers of 64 bits, which are natural numbers or below zero. -/
theorem int64_mirrors : MirrorsAll int64 ofInt64 := by
  refine .of_reads (fun i => ?_) fun i => ?_
  · unfold ofInt64
    split
    next => exact fun _ => natural_readsBack _
    next negative => exact fun _ => negative_readsBack (by omega)
  · unfold ofInt64
    split
    next natural =>
      have small : i.toInt.toNat < firstTooLarge := by
        have bound := i.toInt_lt
        simp only [firstTooLarge]
        omega
      have same : (UInt64.ofNat i.toInt.toNat).toNat = i.toInt.toNat :=
        UInt64.toNat_ofNat_of_lt' (Nat.lt_trans small (by decide))
      have back : Int64.ofNat i.toInt.toNat = i := by
        have same : (i.toInt.toNat : Int) = i.toInt := Int.toNat_of_nonneg natural
        rw [← Int64.ofInt_eq_ofNat, same, Int64.ofInt_toInt]
      show int64 (.number (.natural _)) = _
      rw [int64, same, if_pos small, back]
    next => rfl

/-- Truth values. -/
theorem boolean_mirrors : MirrorsAll boolean .bool :=
  .of_reads (fun _ => trivial) fun _ => rfl

/-- Texts. -/
theorem text_mirrors : MirrorsAll text .string :=
  .of_reads (fun _ => trivial) fun _ => rfl

/-- Names of alternatives. -/
theorem named_mirrors {α : Type} {ofName? : String → Option α} {name : α → String}
    (found : ∀ a, ofName? (name a) = some a) :
    MirrorsAll (named ofName?) fun a => .string (name a) := by
  refine .of_reads (fun _ => trivial) fun a => ?_
  simp [named, stored, tagged, found, Bind.bind, Except.bind]

/-- Floating-point numbers, which are left out of the text unless they are finite. -/
theorem binary64_mirrors : Mirrors binary64 (fun x => .number (.float x))
    (fun x => x.isFinite → (Number.float x).ReadsBack) fun x => x.isFinite where
  storable stable := stable
  reads {x y} := by
    by_cases finite : x.isFinite
    · simp [stored, Number.isFinite, finite, binary64, eq_comm]
    · -- Null is left in the place of the number, and that is no number to a reader.
      simp [stored, Number.isFinite, finite, binary64]

end Scalars

section Composites

variable {α : Type} {decoder : Decoder α} {encode : α → Json} {stable finite : α → Prop}

/-- Data that may be absent, if its own tree is never null. -/
theorem Mirrors.nullable (mirrors : Mirrors decoder encode stable finite)
    (solid : ∀ a, (encode a).stored ≠ .null) :
    Mirrors (nullable decoder) (ofOption encode) (fun o => ∀ a ∈ o, stable a)
      fun o => ∀ a ∈ o, finite a where
  storable {o} stable := by
    cases o with
    | none => trivial
    | some a => exact mirrors.storable (stable a rfl)
  reads {o p} := by
    cases o with
    | none => simp [ofOption, stored, Json.nullable, eq_comm]
    | some a =>
      -- The tree is not null, so it is not taken for absent data.
      have content : Json.nullable decoder (encode a).stored =
          (decoder (encode a).stored).map some := by
        have present := solid a
        generalize (encode a).stored = tree at present
        cases tree with
        | null => exact absurd rfl present
        | _ => rfl
      rw [ofOption, content, map_eq_ok_iff]
      constructor
      · rintro ⟨b, read, rfl⟩
        obtain ⟨rfl, finite⟩ := mirrors.reads.mp read
        exact ⟨rfl, by rintro b ⟨⟩; exact finite⟩
      · rintro ⟨rfl, finite⟩
        exact ⟨a, mirrors.reads.mpr ⟨rfl, finite a rfl⟩, rfl⟩

/-- Data without floating-point numbers that may be absent, if its own tree is never null. -/
theorem MirrorsAll.nullable (mirrors : MirrorsAll decoder encode)
    (solid : ∀ a, (encode a).stored ≠ .null) :
    MirrorsAll (Json.nullable decoder) (ofOption encode) := by
  have optional := Mirrors.nullable mirrors solid
  exact .of_reads (fun _ => optional.storable fun _ _ => trivial) fun _ =>
    optional.reads_self fun _ _ => trivial

/-- What is left of items is left of each. -/
theorem storedItems_eq_map (items : List Json) : storedItems items = items.map stored := by
  induction items with
  | nil => rfl
  | cons item items ih => rw [storedItems, ih, List.map_cons]

/-- Items are storable when each is. -/
theorem itemsStorable_iff {items : List Json} :
    ItemsStorable items ↔ ∀ item ∈ items, item.Storable := by
  induction items with
  | nil => simp [ItemsStorable]
  | cons item items ih => simp [ItemsStorable, ih]

/-- Lists. -/
theorem Mirrors.list (mirrors : Mirrors decoder encode stable finite) :
    Mirrors (list decoder) (fun elements => .array (elements.map encode))
      (fun elements => ∀ a ∈ elements, stable a) fun elements => ∀ a ∈ elements, finite a where
  storable {elements} stable := by
    refine itemsStorable_iff.mpr fun item member => ?_
    obtain ⟨a, placed, rfl⟩ := List.mem_map.mp member
    exact mirrors.storable (stable a placed)
  reads {elements results} := by
    rw [stored, storedItems_eq_map, Json.list, List.map_map, mapM_eq_ok_iff,
      List.forall₂_map_left_iff]
    -- Element by element the results are the data, so the two lists are one.
    have each : ∀ a b, decoder ((stored ∘ encode) a) = .ok b ↔ finite a ∧ a = b := by
      intro a b
      rw [Function.comp_apply, mirrors.reads, and_comm, eq_comm]
    simp only [each, List.forall₂_and_left, List.forall₂_eq_eq_eq]
    rw [and_comm, eq_comm]

end Composites

section Records

variable {names : List String}

/-- A known name belongs to the plain field of that name. -/
theorem fieldOf?_plain {name : String} (known : name ∈ names) :
    fieldOf? (names.map Field.plain) name = some (Field.plain name) := by
  -- Fields of other names are passed over.
  induction names with
  | nil => simp at known
  | cons first names ih =>
    by_cases same : first = name
    · simp [fieldOf?, Field.plain, same]
    · have later : name ∈ names := by
        rcases List.mem_cons.mp known with rfl | later
        · exact absurd rfl same
        · exact later
      simpa [fieldOf?, Field.plain, same] using ih later

/-- Members with distinct known names are all collected, after those found before. -/
theorem collectFields_plain {members found : Record}
    (known : ∀ member ∈ members, member.1 ∈ names)
    (distinct : ((found ++ members).map Prod.fst).Nodup) :
    collectFields (names.map Field.plain) members found = .ok (found ++ members) := by
  -- The induction moves one member after the other to those found before.
  induction members generalizing found with
  | nil => simp [collectFields]
  | cons member members ih =>
    obtain ⟨name, content⟩ := member
    -- A name that was found before would stand in the list of all names twice.
    have fresh : ¬found.any (·.1 == name) := by
      rw [List.map_append, List.nodup_append] at distinct
      intro repeated
      obtain ⟨other, placed, same⟩ := List.any_eq_true.mp repeated
      exact distinct.2.2 _ (List.mem_map_of_mem placed) name (by simp) (by simpa using same)
    have own : name ∈ names := known (name, content) (by simp)
    have others : collectFields (names.map Field.plain) members (found ++ [(name, content)]) =
        .ok (found ++ [(name, content)] ++ members) :=
      ih (fun other later => known other (by simp [later])) (by simpa using distinct)
    rw [List.append_assoc] at others
    rw [collectFields, fieldOf?_plain own]
    show (if found.any (·.1 == name) then _ else _) = _
    rw [if_neg fresh]
    exact others

/-- What is left of an object is left of its members. -/
theorem stored_object (members : List (String × Json)) :
    stored (.object members) = .object (storedMembers members) := by
  rw [stored]

/-- A record is found as it was written, and its fields are read from there. -/
theorem record_plain {α : Type} {members : List (String × Json)}
    (rest : Record → Except Fault α) (named : members.map Prod.fst = names)
    (distinct : names.Nodup) :
    (do rest (← record (names.map Field.plain) (.object members))) = rest members := by
  subst named
  have found : collectFields ((members.map Prod.fst).map Field.plain) members [] = .ok members :=
    collectFields_plain (fun member placed => List.mem_map_of_mem placed) distinct
  rw [record, found]
  rfl

/-- A field is looked for in one member after the other. -/
theorem Record.required_cons {α : Type} (found : Record) (first name : String) (content : Json)
    (decoder : Decoder α) : Record.required ((first, content) :: found) name decoder =
      if first = name then decoder content else found.required name decoder := by
  by_cases same : first = name <;> simp [Record.required, Record.find?, same]

/-- So is a field that may be absent. -/
theorem Record.optional_cons {α : Type} (found : Record) (first name : String) (content : Json)
    (decoder : Decoder α) : Record.optional ((first, content) :: found) name decoder =
      if first = name then Json.nullable decoder content else found.optional name decoder := by
  by_cases same : first = name <;> simp [Record.optional, Record.orElse, Record.find?, same]

end Records

end CallChain.Json
