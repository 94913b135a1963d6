import CallChain.Document.Contents
import CallChain.Document.Json
import CallChain.Proofs.Document.Binary
import CallChain.Proofs.Json.Mirrors

/-! The JSON form of documents: it is read back exactly as long as every float is finite. -/

namespace CallChain

open Json

namespace Binary64

/-- Whether a number is read back from its digits, if it has any. -/
def Stable (x : Binary64) : Prop :=
  x.isFinite → (Number.float x).ReadsBack

instance (x : Binary64) : Decidable x.Stable :=
  inferInstanceAs (Decidable (x.isFinite → (Number.float x).ReadsBack))

end Binary64

namespace ValueType

/-- Types and their names. -/
theorem mirrors : MirrorsAll ofJson fun type => .string type.name :=
  named_mirrors fun type => by cases type <;> rfl

end ValueType

namespace Handle

/-- Handles and their trees. -/
theorem mirrors : MirrorsAll ofJson toJson := by
  -- A handle is the number under it, or null, with nothing around.
  have raw := MirrorsAll.nullable word64_mirrors (by simp [stored, Number.isFinite])
  refine .of_reads (fun handle => raw.storable trivial) fun handle => ?_
  have read := raw.reads_self (a := handle.raw) trivial
  rw [ofJson, toJson, read]
  rfl

end Handle

namespace Value

/-- Values and their trees. -/
theorem mirrors : Mirrors ofJson toJson (fun v => ∀ x ∈ v.floats, x.Stable)
    fun v => ∀ x ∈ v.floats, x.isFinite where
  storable {v} stable := by
    cases v with
    | bool | string | text => exact ⟨trivial, trivial⟩
    | integer i => exact ⟨int64_mirrors.storable trivial, trivial⟩
    | float x => exact ⟨stable x (by simp [floats]), trivial⟩
    | object h => exact ⟨Handle.mirrors.storable trivial, trivial⟩
  reads {v other} := by
    -- Only a float has a float to be lost.
    rcases v with b | i | x | s | s | h
    all_goals simp only [floats, List.not_mem_nil, List.mem_singleton, false_implies, implies_true,
      forall_eq]
    · exact boolean_mirrors.reads_wrapped bool
    · exact int64_mirrors.reads_wrapped integer
    · exact binary64_mirrors.reads_wrapped float
    · exact text_mirrors.reads_wrapped string
    · exact text_mirrors.reads_wrapped text
    · exact Handle.mirrors.reads_wrapped object

end Value

namespace Slot

/-- Literals that may be absent and their trees. -/
theorem default_mirrors : Mirrors (nullable Value.ofJson) (ofOption Value.toJson)
    (fun literal => ∀ v ∈ literal, ∀ x ∈ v.floats, x.Stable)
    fun literal => ∀ v ∈ literal, ∀ x ∈ v.floats, x.isFinite :=
  Value.mirrors.nullable fun v => by cases v <;> simp [Value.toJson, stored]

/-- All floats of a slot are those of its literal. -/
theorem forall_floats_iff {slot : Slot} {holds : Binary64 → Prop} :
    (∀ x ∈ slot.floats, holds x) ↔ ∀ v ∈ slot.default, ∀ x ∈ v.floats, holds x := by
  rw [floats, List.forall_mem_flatMap]
  simp

/-- Slots and their trees. -/
theorem mirrors : Mirrors ofJson toJson (fun slot => ∀ x ∈ slot.floats, x.Stable)
    fun slot => ∀ x ∈ slot.floats, x.isFinite where
  storable stable := ⟨word32_mirrors.storable trivial, trivial, trivial,
    default_mirrors.storable (forall_floats_iff.mp stable), trivial⟩
  reads {slot other} := by
    -- The reader finds the members under their names, and then looks at each of them.
    simp only [toJson, stored_object, storedMembers, ofJson, forall_floats_iff]
    rw [fields, record_plain _ ?named ?distinct]
    case named => rfl
    case distinct => decide
    simp only [bind_eq_ok_iff, pure_eq_ok_iff, Record.required_cons, Record.optional_cons,
      String.reduceEq, if_true, if_false, word32_mirrors.reads, text_mirrors.reads,
      ValueType.mirrors.reads, default_mirrors.reads, and_true, exists_eq_left]
    exact exists_eq_wrapped_iff

end Slot

namespace Slots

/-- Tables and their trees. -/
theorem mirrors : Mirrors ofJson toJson
    (fun table => ∀ slot ∈ table.entries, ∀ x ∈ slot.floats, x.Stable)
    fun table => ∀ slot ∈ table.entries, ∀ x ∈ slot.floats, x.isFinite where
  storable stable :=
    ⟨Slot.mirrors.list.storable stable, word32_mirrors.storable trivial, trivial⟩
  reads {table other} := by
    simp only [toJson, stored_object, storedMembers, ofJson]
    rw [fields, record_plain _ ?named ?distinct]
    case named => rfl
    case distinct => decide
    simp only [bind_eq_ok_iff, pure_eq_ok_iff, Record.required_cons, String.reduceEq, if_true,
      if_false, word32_mirrors.reads, Slot.mirrors.list.reads, and_true, exists_eq_left]
    exact exists_eq_wrapped_iff

end Slots

namespace Pin

/-- Fixed pins and their names. -/
theorem fixed_mirrors : MirrorsAll (named FixedPin.ofName?) fun pin => .string pin.name :=
  named_mirrors fun pin => by cases pin <;> rfl

/-- Pins and their trees. -/
theorem mirrors : MirrorsAll ofJson toJson where
  storable {pin} _ := by
    cases pin with
    | fixed pin => exact ⟨trivial, trivial⟩
    | slot id => exact ⟨word32_mirrors.storable trivial, trivial⟩
  reads {pin other} := by
    cases pin with
    | fixed pin => exact fixed_mirrors.reads_wrapped fixed
    | slot id => exact word32_mirrors.reads_wrapped fun raw => slot ⟨raw⟩

end Pin

namespace Source

/-- Sources and their trees. -/
theorem mirrors : MirrorsAll ofJson toJson where
  storable _ := ⟨trivial, trivial, trivial⟩
  reads {source other} := by
    simp only [toJson, stored_object, storedMembers, ofJson]
    rw [fields, record_plain _ ?named ?distinct]
    case named => rfl
    case distinct => decide
    simp only [bind_eq_ok_iff, pure_eq_ok_iff, Record.required_cons, String.reduceEq, if_true,
      if_false, text_mirrors.reads, and_true, exists_eq_left]
    exact eq_comm

end Source

namespace Link

/-- The ways to share a source and their names. -/
theorem mode_mirrors : MirrorsAll (named Sharing.ofName?) fun mode => .string mode.name :=
  named_mirrors fun mode => by cases mode <;> rfl

/-- Links and their trees. -/
theorem mirrors : MirrorsAll ofJson toJson where
  storable _ :=
    ⟨Pin.mirrors.storable trivial, Source.mirrors.storable trivial, trivial, trivial, trivial⟩
  reads {link other} := by
    simp only [toJson, stored_object, storedMembers, ofJson]
    rw [fields, record_plain _ ?named ?distinct]
    case named => rfl
    case distinct => decide
    simp only [bind_eq_ok_iff, pure_eq_ok_iff, Record.required_cons, String.reduceEq, if_true,
      if_false, Pin.mirrors.reads, Source.mirrors.reads, ValueType.mirrors.reads,
      mode_mirrors.reads, and_true, exists_eq_left]
    exact eq_comm

end Link

namespace FixedLiterals

/-- Texts that may be absent and their trees. -/
theorem text_mirrors : MirrorsAll (nullable Json.text) (ofOption .string) :=
  MirrorsAll.nullable Json.text_mirrors (by simp [stored])

/-- Integers that may be absent and their trees. -/
theorem integer_mirrors : MirrorsAll (nullable int64) (ofOption ofInt64) :=
  MirrorsAll.nullable int64_mirrors fun i => by
    unfold ofInt64
    split <;> simp [stored, Number.isFinite]

/-- Literals of the fixed pins and their trees. -/
theorem mirrors : MirrorsAll ofJson toJson where
  storable _ := ⟨text_mirrors.storable trivial, text_mirrors.storable trivial,
    integer_mirrors.storable trivial, trivial⟩
  reads {literals other} := by
    simp only [toJson, stored_object, storedMembers, ofJson]
    rw [fields, record_plain _ ?named ?distinct]
    case named => rfl
    case distinct => decide
    simp only [bind_eq_ok_iff, pure_eq_ok_iff, Record.optional_cons, String.reduceEq, if_true,
      if_false, text_mirrors.reads, integer_mirrors.reads, and_true, exists_eq_left]
    exact eq_comm

end FixedLiterals

namespace Node

/-- All floats of a node are those of its slots. -/
theorem forall_floats_iff {node : Node} {holds : Binary64 → Prop} :
    (∀ x ∈ node.floats, holds x) ↔ ∀ slot ∈ node.slots.entries, ∀ x ∈ slot.floats, holds x :=
  List.forall_mem_flatMap

/-- Nodes and their trees. -/
theorem mirrors : Mirrors ofJson toJson (fun node => ∀ x ∈ node.floats, x.Stable)
    fun node => ∀ x ∈ node.floats, x.isFinite where
  storable stable := ⟨trivial, FixedLiterals.mirrors.storable trivial,
    Slots.mirrors.storable (forall_floats_iff.mp stable),
    Link.mirrors.list.storable fun _ _ => trivial, trivial⟩
  reads {node other} := by
    simp only [toJson, stored_object, storedMembers, ofJson, forall_floats_iff]
    rw [fields, record_plain _ ?named ?distinct]
    case named => rfl
    case distinct => decide
    simp only [bind_eq_ok_iff, pure_eq_ok_iff, Record.required_cons, String.reduceEq, if_true,
      if_false, text_mirrors.reads, FixedLiterals.mirrors.reads, Slots.mirrors.reads,
      Link.mirrors.list.reads, implies_true, and_true, exists_eq_left]
    exact exists_eq_wrapped_iff

end Node

namespace Document

/-- All floats of a document are those of its nodes. -/
theorem forall_floats_iff {document : Document} {holds : Binary64 → Prop} :
    (∀ x ∈ document.floats, holds x) ↔ ∀ node ∈ document.nodes, ∀ x ∈ node.floats, holds x :=
  List.forall_mem_flatMap

/-- Documents and their trees. -/
theorem mirrors : Mirrors ofJson toJson (fun document => ∀ x ∈ document.floats, x.Stable)
    fun document => ∀ x ∈ document.floats, x.isFinite where
  storable stable := ⟨word32_mirrors.storable trivial,
    Node.mirrors.list.storable (forall_floats_iff.mp stable), trivial⟩
  reads {document other} := by
    simp only [toJson, stored_object, storedMembers, ofJson, forall_floats_iff]
    rw [fields, record_plain _ ?named ?distinct]
    case named => rfl
    case distinct => decide
    simp only [bind_eq_ok_iff, pure_eq_ok_iff, Record.required_cons, String.reduceEq, if_true,
      if_false, word32_mirrors.reads, Node.mirrors.list.reads, and_true, exists_eq_left]
    exact exists_eq_wrapped_iff

/-- A document of a text is that of its tree, if it is accepted. -/
theorem ofText_eq_ok_iff {text : String} {loaded : Document} :
    ofText text = .ok loaded ↔
      Json.parse ofJson text = .ok loaded ∧ loaded.validate = .ok () := by
  unfold ofText
  cases Json.parse ofJson text with
  | error fault => simp
  | ok document =>
    rw [accepted_eq_ok_iff, Except.ok.injEq]
    constructor
    · rintro ⟨valid, rfl⟩
      exact ⟨rfl, valid⟩
    · rintro ⟨rfl, valid⟩
      exact ⟨valid, rfl⟩

variable {document : Document}

/-- The text of a document is read as the document, unless one of its floats has no digits. -/
theorem parse_toText_eq_ok_iff (stable : ∀ x ∈ document.floats, x.Stable) {loaded : Document} :
    Json.parse ofJson document.toText = .ok loaded ↔
      loaded = document ∧ ∀ x ∈ document.floats, x.isFinite := by
  have tree := read?_pretty (mirrors.storable stable)
  rw [Json.parse, toText, tree]
  exact mirrors.reads

/-- A document without lost or changed floats is loaded from its text exactly when it is valid. -/
theorem ofText_toText_eq_ok_iff (finite : ∀ x ∈ document.floats, x.isFinite)
    (stable : ∀ x ∈ document.floats, x.Stable) :
    ofText document.toText = .ok document ↔ document.validate = .ok () := by
  rw [ofText_eq_ok_iff, parse_toText_eq_ok_iff stable]
  constructor
  · exact And.right
  · exact fun valid => ⟨⟨rfl, finite⟩, valid⟩

/-- A valid document is loaded from its JSON text when its floats are finite and come back from
their digits. -/
theorem ofText_toText (valid : document.validate = .ok ())
    (finite : ∀ x ∈ document.floats, x.isFinite) (stable : ∀ x ∈ document.floats, x.Stable) :
    ofText document.toText = .ok document :=
  (ofText_toText_eq_ok_iff finite stable).mpr valid

/-- A document with texts that need escapes or lie beyond 16 bits, with the extreme integers of
each width, a negative zero and the least positive float. -/
def extremes : Document :=
  ofNodes [⟨"a \"b\" \\ \x01\n", ⟨some "", some "😀", some (-9223372036854775808)⟩,
    ⟨[⟨⟨4294967293⟩, "Größe", .integer, some (.integer 9223372036854775807)⟩,
      ⟨⟨0⟩, "Zero", .float, some (.float ⟨0x8000000000000000⟩)⟩,
      ⟨⟨1⟩, "Least", .float, some (.float ⟨1⟩)⟩,
      ⟨⟨2⟩, "Half", .float, some (.float ⟨0x3FE0000000000000⟩)⟩,
      ⟨⟨3⟩, "Owner", .object, some (.object .invalid)⟩,
      ⟨⟨4⟩, "Other", .object, some (.object ⟨some 18446744073709551615⟩)⟩,
      ⟨⟨5⟩, "Modal", .boolean, none⟩], 4294967294⟩,
    [⟨.slot ⟨1⟩, ⟨"\x7f", "\t"⟩, .integer, .shared⟩]⟩, Node.new "z", Node.new ""]

/-- The extreme document is loaded from its text. -/
theorem ofText_toText_extremes :
    (extremes.validate = .ok () ∧ (∀ x ∈ extremes.floats, x.isFinite) ∧
      ∀ x ∈ extremes.floats, x.Stable) ∧ ofText extremes.toText = .ok extremes := by
  have valid : extremes.validate = .ok () := by decide +kernel
  have finite : ∀ x ∈ extremes.floats, x.isFinite := by decide +kernel
  have stable : ∀ x ∈ extremes.floats, x.Stable := by decide +kernel
  exact ⟨⟨valid, finite, stable⟩, ofText_toText valid finite stable⟩

/-- A valid document whose floats come back from their digits is loaded alike from its two forms
exactly when none of its floats is an infinity or a NaN; otherwise its text is rejected. -/
theorem ofText_toText_eq_ofBytes_toBytes_iff (valid : document.validate = .ok ())
    (addressable : document.Addressable) (stable : ∀ x ∈ document.floats, x.Stable) :
    (ofText document.toText = ofBytes document.toBytes ↔ ∀ x ∈ document.floats, x.isFinite) ∧
      ((∃ x ∈ document.floats, ¬x.isFinite) →
        ∃ fault, ofText document.toText = .error (.json fault)) := by
  have binary := ofBytes_toBytes_append valid addressable []
  rw [List.append_nil] at binary
  constructor
  · -- The binary form gives the document, so the two forms agree when the text does as well.
    rw [binary, ofText_eq_ok_iff, parse_toText_eq_ok_iff stable]
    constructor
    · rintro ⟨⟨_, finite⟩, _⟩
      exact finite
    · intro finite
      exact ⟨⟨rfl, finite⟩, valid⟩
  · rintro ⟨x, placed, infinite⟩
    unfold ofText
    cases read : Json.parse ofJson document.toText with
    | error fault => exact ⟨fault, rfl⟩
    | ok loaded =>
      -- A text that is read at all has lost no float.
      have finite := ((parse_toText_eq_ok_iff stable).mp read).2 x placed
      exact absurd finite infinite

/-- The varied document, with its NaN, is loaded from its binary form but not from its text. -/
theorem ofText_toText_variety :
    (variety.validate = .ok () ∧ variety.Addressable ∧ ∀ x ∈ variety.floats, x.Stable) ∧
      ofText variety.toText ≠ ofBytes variety.toBytes ∧
      ∃ fault, ofText variety.toText = .error (.json fault) := by
  have valid : variety.validate = .ok () := by decide +kernel
  have addressable : variety.Addressable := by decide +kernel
  have stable : ∀ x ∈ variety.floats, x.Stable := by decide +kernel
  have infinite : ∃ x ∈ variety.floats, ¬x.isFinite := by decide +kernel
  have forms := ofText_toText_eq_ofBytes_toBytes_iff valid addressable stable
  refine ⟨⟨valid, addressable, stable⟩, fun same => ?_, forms.2 infinite⟩
  obtain ⟨x, placed, none⟩ := infinite
  exact none (forms.1.mp same x placed)

/-- A document with an infinite literal. -/
def boundless : Document :=
  ofNodes [⟨"n", ⟨none, none, none⟩,
    ⟨[⟨⟨0⟩, "Speed", .float, some (.float ⟨0x7FF0000000000000⟩)⟩], 1⟩, []⟩]

/-- A valid document need not be loaded alike from its two forms. -/
theorem not_forall_ofText_toText_eq :
    ¬∀ document : Document, document.validate = .ok () →
      ofText document.toText = ofBytes document.toBytes := by
  intro alike
  have valid : boundless.validate = .ok () := by decide +kernel
  have addressable : boundless.Addressable := by decide +kernel
  have stable : ∀ x ∈ boundless.floats, x.Stable := by decide +kernel
  have binary := ofBytes_toBytes_append valid addressable []
  rw [List.append_nil, ← alike boundless valid, ofText_eq_ok_iff,
    parse_toText_eq_ok_iff stable] at binary
  exact absurd binary.1.2 (by decide +kernel)

end Document

end CallChain
