import CallChain.Proofs.Document.Json

/-! Documents read from their JSON form: they come back as they were, but each float as its digits
are read. -/

namespace CallChain

namespace Json

/-- Whether data and its tree belong together when the text is read: the tree is readable, and with
each number as it is read again it is the tree of the data read again. -/
structure Rereads {α : Type} (encode : α → Json) (again : α → α) : Prop where
  readable : ∀ a, (encode a).Readable
  same : ∀ a, (encode a).reread = encode (again a)

/-- An object that is read again has the same names. -/
theorem reread_object (members : List (String × Json)) :
    reread (.object members) = .object (rereadMembers members) := by
  rw [reread]

section Composites

variable {α : Type} {decoder : Decoder α} {encode : α → Json} {again : α → α}

/-- Data without floating-point numbers stays itself. -/
theorem MirrorsAll.rereads (mirrors : MirrorsAll decoder encode) : Rereads encode fun a => a where
  readable a := (Storable.reread_eq _ (mirrors.storable (a := a) trivial)).1
  same a := (Storable.reread_eq _ (mirrors.storable (a := a) trivial)).2

/-- Data that may be absent. -/
theorem Rereads.optional (rereads : Rereads encode again) :
    Rereads (ofOption encode) (Option.map again) where
  readable o := by
    cases o with
    | none => trivial
    | some a => exact rereads.readable a
  same o := by
    cases o with
    | none => rfl
    | some a => exact rereads.same a

/-- Lists. -/
theorem Rereads.list (rereads : Rereads encode again) :
    Rereads (fun elements => .array (elements.map encode)) (List.map again) where
  readable elements := by
    show ItemsReadable _
    induction elements with
    | nil => trivial
    | cons a elements ih => exact ⟨rereads.readable a, ih⟩
  same elements := by
    have items : rereadItems (elements.map encode) = (elements.map again).map encode := by
      induction elements with
      | nil => rfl
      | cons a elements ih => simp [rereadItems, rereads.same, ih]
    rw [reread, items]

end Composites

end Json

open Json

namespace Binary64

/-- The number that the digits of a number are read as. -/
def reread (x : Binary64) : Binary64 :=
  match (Number.float x).reread with
  | .float y => y
  | _ => x

variable {x : Binary64}

/-- The text of a float is that of a float. -/
theorem reread_float (x : Binary64) : (Number.float x).reread = .float x.reread := by
  have float : ∃ y, (Number.float x).reread = .float y := by
    by_cases finite : x.isFinite
    · obtain ⟨y, read⟩ := exists_wholeNumber?_float finite
      exact ⟨y, by rw [Number.reread, read, Option.getD_some]⟩
    · exact ⟨x, Number.reread_of_not_isFinite finite⟩
  obtain ⟨y, read⟩ := float
  rw [reread, read]

/-- It is finite just if the float was. -/
theorem isFinite_reread (x : Binary64) : x.reread.isFinite = x.isFinite := by
  have same := (Number.float x).isFinite_reread
  rw [reread_float] at same
  exact same

/-- A number that is read back from its digits stays itself. -/
theorem Stable.reread_eq (stable : x.Stable) : x.reread = x := by
  have same : (Number.float x).reread = .float x := by
    by_cases finite : x.isFinite
    · have back : wholeNumber? (writeNumber (.float x)) = some (.float x) := stable finite
      rw [Number.reread, back, Option.getD_some]
    · exact Number.reread_of_not_isFinite finite
  rw [reread, same]

/-- Floating-point numbers. -/
theorem rereads : Rereads (fun x => .number (.float x)) reread where
  readable x := fun finite => by
    obtain ⟨y, read⟩ := exists_wholeNumber?_float finite
    rw [read]
    rfl
  same x := by rw [Json.reread, reread_float]

end Binary64

namespace Value

/-- A value as it is read from its text. -/
def reread : Value → Value
  | .float x => .float x.reread
  | value => value

/-- It has the type that it had. -/
theorem type_reread (value : Value) : value.reread.type = value.type := by
  cases value <;> rfl

/-- Its floats are its own ones, as they are read. -/
theorem floats_reread (value : Value) : value.reread.floats = value.floats.map Binary64.reread := by
  cases value <;> rfl

/-- A value whose floats are read back stays itself. -/
theorem reread_eq_of_stable {value : Value} (stable : ∀ x ∈ value.floats, x.Stable) :
    value.reread = value := by
  cases value with
  | float x => rw [reread, (stable x (by simp [floats])).reread_eq]
  | _ => rfl

/-- Values. -/
theorem rereads : Rereads toJson reread where
  readable v := by
    cases v with
    | bool | string | text => exact ⟨trivial, trivial⟩
    | integer i => exact ⟨int64_mirrors.rereads.readable i, trivial⟩
    | float x => exact ⟨Binary64.rereads.readable x, trivial⟩
    | object h => exact ⟨Handle.mirrors.rereads.readable h, trivial⟩
  same v := by
    cases v with
    | bool | string | text => rfl
    | integer i => simp [toJson, Json.reread, rereadMembers, int64_mirrors.rereads.same, reread]
    | float x => simp [toJson, Json.reread, rereadMembers, Binary64.reread_float, reread]
    | object h => simp [toJson, Json.reread, rereadMembers, Handle.mirrors.rereads.same, reread]

end Value

namespace Slot

/-- A slot as it is read from its text. -/
def reread (slot : Slot) : Slot :=
  { slot with default := slot.default.map Value.reread }

/-- Its floats are its own ones, as they are read. -/
theorem floats_reread (slot : Slot) : slot.reread.floats = slot.floats.map Binary64.reread := by
  cases held : slot.default <;> simp [reread, floats, held, Value.floats_reread]

/-- A slot whose floats are read back stays itself. -/
theorem reread_eq_of_stable {slot : Slot} (stable : ∀ x ∈ slot.floats, x.Stable) :
    slot.reread = slot := by
  have same : slot.default.map Value.reread = slot.default := by
    cases held : slot.default with
    | none => rfl
    | some value =>
      rw [Option.map_some, Value.reread_eq_of_stable (forall_floats_iff.mp stable value held)]
  rw [reread, same]

/-- Slots. -/
theorem rereads : Rereads toJson reread where
  readable slot := ⟨word32_mirrors.rereads.readable _, trivial, trivial,
    Value.rereads.optional.readable _, trivial⟩
  same slot := by
    simp only [toJson, reread_object, rereadMembers, word32_mirrors.rereads.same,
      text_mirrors.rereads.same, Value.rereads.optional.same, reread]

end Slot

namespace Slots

/-- A table as it is read from its text. -/
def reread (table : Slots) : Slots :=
  { table with entries := table.entries.map Slot.reread }

/-- Tables. -/
theorem rereads : Rereads toJson reread where
  readable table :=
    ⟨Slot.rereads.list.readable _, word32_mirrors.rereads.readable _, trivial⟩
  same table := by
    simp only [toJson, reread_object, rereadMembers, word32_mirrors.rereads.same,
      Slot.rereads.list.same, reread]

/-- A slot is found under its id as before. -/
theorem get?_reread (table : Slots) (id : SlotId) :
    table.reread.get? id = (table.get? id).map Slot.reread := by
  rw [get?, reread, List.find?_map]
  rfl

end Slots

namespace Node

/-- A node as it is read from its text. -/
def reread (node : Node) : Node :=
  { node with slots := node.slots.reread }

/-- Its floats are its own ones, as they are read. -/
theorem floats_reread (node : Node) : node.reread.floats = node.floats.map Binary64.reread := by
  rw [floats, floats, reread, Slots.reread, List.flatMap_map, List.map_flatMap]
  simp only [Slot.floats_reread]

/-- A node whose floats are read back stays itself. -/
theorem reread_eq_of_stable {node : Node} (stable : ∀ x ∈ node.floats, x.Stable) :
    node.reread = node := by
  have same : node.slots.entries.map Slot.reread = node.slots.entries :=
    (List.map_congr_left fun slot member =>
      Slot.reread_eq_of_stable (forall_floats_iff.mp stable slot member)).trans (List.map_id _)
  rw [reread, Slots.reread, same]

/-- Nodes. -/
theorem rereads : Rereads toJson reread where
  readable node := ⟨trivial, FixedLiterals.mirrors.rereads.readable _,
    Slots.rereads.readable _, Link.mirrors.rereads.list.readable _, trivial⟩
  same node := by
    simp only [toJson, reread_object, rereadMembers, text_mirrors.rereads.same,
      FixedLiterals.mirrors.rereads.same, Slots.rereads.same, Link.mirrors.rereads.list.same,
      List.map_id_fun', id_eq, reread]

/-- A consistent node is still consistent then. -/
theorem Consistent.reread {node : Node} (consistent : node.Consistent) :
    node.reread.Consistent where
  ids := by
    rw [Node.reread, Slots.reread, List.map_map]
    exact consistent.ids
  names := by
    rw [Node.reread, Slots.reread, List.map_map]
    exact consistent.names
  slots := by
    intro slot member
    obtain ⟨before, placed, rfl⟩ := List.mem_map.mp member
    obtain ⟨below, named, typed⟩ := consistent.slots before placed
    refine ⟨below, named, fun value held => ?_⟩
    -- Literals keep their types.
    obtain ⟨old, default, rfl⟩ := Option.map_eq_some_iff.mp held
    rw [Value.type_reread]
    exact typed old default
  pins := consistent.pins
  landing := by
    intro link member
    obtain ⟨type, typed⟩ := consistent.landing link member
    refine ⟨type, ?_⟩
    cases landed : link.pin with
    | fixed pin =>
      rw [landed] at typed
      exact typed
    | slot id =>
      rw [landed, pinType?] at typed
      rw [pinType?, Node.reread, Slots.get?_reread, Option.map_map]
      exact typed

end Node

namespace Document

/-- A document as it is read from its text. -/
def reread (document : Document) : Document :=
  { document with nodes := document.nodes.map Node.reread }

/-- Documents. -/
theorem rereads : Rereads toJson reread where
  readable document :=
    ⟨word32_mirrors.rereads.readable _, Node.rereads.list.readable _, trivial⟩
  same document := by
    simp only [toJson, reread_object, rereadMembers, word32_mirrors.rereads.same,
      Node.rereads.list.same, reread]

variable {document : Document}

/-- The floats of a document that is read from its text are its own floats, as they are read. -/
theorem floats_reread (document : Document) :
    document.reread.floats = document.floats.map Binary64.reread := by
  rw [floats, floats, reread, List.flatMap_map, List.map_flatMap]
  simp only [Node.floats_reread]

/-- A document whose floats are all read back stays itself. -/
theorem reread_eq_of_stable (stable : ∀ x ∈ document.floats, x.Stable) :
    document.reread = document := by
  have same : document.nodes.map Node.reread = document.nodes :=
    (List.map_congr_left fun node member =>
      Node.reread_eq_of_stable (forall_floats_iff.mp stable node member)).trans (List.map_id _)
  rw [reread, same]

/-- A document without infinite floats is read from its text, each float as its digits are read. -/
theorem parse_toText (finite : ∀ x ∈ document.floats, x.isFinite) :
    Json.parse ofJson document.toText = .ok document.reread := by
  have tree := read?_pretty_of_readable (rereads.readable document)
  rw [rereads.same] at tree
  rw [Json.parse, toText, tree]
  refine mirrors.reads_self fun x member => ?_
  rw [floats_reread] at member
  obtain ⟨y, placed, rfl⟩ := List.mem_map.mp member
  rw [Binary64.isFinite_reread]
  exact finite y placed

/-- A valid document without infinite floats is loaded from its text like that. -/
theorem ofText_toText_eq_reread (valid : document.validate = .ok ())
    (finite : ∀ x ∈ document.floats, x.isFinite) :
    ofText document.toText = .ok document.reread := by
  refine ofText_eq_ok_iff.mpr ⟨parse_toText finite, ?_⟩
  obtain ⟨version, nodes⟩ := validate_eq_ok_iff.mp valid
  refine validate_eq_ok_iff.mpr ⟨version, fun node member => ?_⟩
  obtain ⟨before, placed, rfl⟩ := List.mem_map.mp member
  obtain ⟨room, consistent⟩ := nodes before placed
  exact ⟨room, consistent.reread⟩

end Document

end CallChain
