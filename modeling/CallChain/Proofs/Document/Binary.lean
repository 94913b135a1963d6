import CallChain.Document.Binary
import CallChain.Document.Contents
import CallChain.Proofs.Codec.Faithful
import CallChain.Proofs.Document.Validation

/-! The binary form of documents: it is read back exactly, and no part of it is a document. -/

namespace CallChain

namespace Codec

/-- Handles are read back. -/
theorem handle_faithful : handle.Faithful fun _ => True :=
  (word64_faithful.option.via fun _ => rfl).mono (by simp)

/-- Values are read back when their texts are. -/
theorem value_faithful : value.Faithful fun v => ∀ s ∈ v.texts, Short s where
  read_write {v} short rest := by
    -- The index of the alternative takes one byte, and the data follows.
    cases v with
    | bool b => simp [value, readNat?, boolean_faithful.read_write trivial]
    | integer i => simp [value, readNat?, int64_faithful.read_write trivial]
    | float x => simp [value, readNat?, fixed64_faithful.read_write trivial]
    | string s | text s =>
      have content := text_faithful.read_write (short s (by simp [Value.texts])) rest
      simp [value, readNat?, content]
    | object h => simp [value, readNat?, handle_faithful.read_write trivial]
  steady.append {bytes rest v} done more := by
    obtain ⟨⟨index, content⟩, placed, done⟩ := Option.bind_eq_some_iff.mp done
    simp only [value, (steady_readNat? 4).append placed more, Option.bind_eq_bind,
      Option.bind_some]
    -- Whatever data the index announces, the rest of it is read steadily.
    simp only at done
    split at done
    · exact (boolean_faithful.steady.map Value.bool).append done more
    · exact (int64_faithful.steady.map Value.integer).append done more
    · exact (fixed64_faithful.steady.map fun bits => Value.float ⟨bits⟩).append done more
    · exact (text_faithful.steady.map Value.string).append done more
    · exact (text_faithful.steady.map Value.text).append done more
    · exact (handle_faithful.steady.map Value.object).append done more
    · cases done

/-- Types are read back. -/
theorem slotType_faithful : slotType.Faithful fun _ => True :=
  (oneOf_faithful (by decide)).mono fun type _ => by cases type <;> decide

/-- Slot ids are read back. -/
theorem slotId_faithful : slotId.Faithful fun _ => True :=
  word32_faithful.via fun _ => rfl

/-- Slots are read back when their texts are. -/
theorem slot_faithful : slot.Faithful fun slot => ∀ s ∈ slot.texts, Short s := by
  -- The four parts stand in a row, and only two of them can hold texts.
  refine ((slotId_faithful.pair (text_faithful.pair
    (slotType_faithful.pair value_faithful.option))).via fun _ => rfl).mono fun slot short => ?_
  refine ⟨trivial, short _ (by simp [Slot.texts]), trivial, fun v literal s member => ?_⟩
  have own : slot.default = some v := literal
  exact short s (by simp [Slot.texts, own, member])

/-- Tables of slots are read back when their texts are. -/
theorem slots_faithful : slots.Faithful fun table =>
    table.entries.length < UInt64.size ∧ ∀ slot ∈ table.entries, ∀ s ∈ slot.texts, Short s :=
  ((slot_faithful.list.pair word32_faithful).via fun _ => rfl).mono fun _ fit => ⟨fit, trivial⟩

/-- Pins are read back. -/
theorem pin_faithful : pin.Faithful fun _ => True where
  read_write {pin} _ rest := by
    cases pin with
    | fixed pin =>
      have found := (oneOf_faithful (by decide)).read_write
        (by cases pin <;> decide : pin ∈ FixedPin.all) rest
      simp [Codec.pin, readNat?, found]
    | slot id => simp [Codec.pin, readNat?, slotId_faithful.read_write trivial]
  steady.append {bytes rest pin} done more := by
    obtain ⟨⟨index, content⟩, placed, done⟩ := Option.bind_eq_some_iff.mp done
    simp only [Codec.pin, (steady_readNat? 4).append placed more, Option.bind_eq_bind,
      Option.bind_some]
    simp only at done
    -- Either kind of pin is read steadily, and there is no third one.
    split at done
    · exact ((oneOf_faithful (by decide)).steady.map Pin.fixed).append done more
    · exact (slotId_faithful.steady.map Pin.slot).append done more
    · cases done

/-- Links are read back when their texts are. -/
theorem link_faithful : link.Faithful fun link => ∀ s ∈ link.texts, Short s := by
  have source : source.Faithful fun source => Short source.node ∧ Short source.pin :=
    (text_faithful.pair text_faithful).via fun _ => rfl
  have mode : (oneOf [Sharing.shared, Sharing.exclusive]).Faithful fun _ => True :=
    (oneOf_faithful (by decide)).mono fun mode _ => by cases mode <;> decide
  refine ((pin_faithful.pair (source.pair (slotType_faithful.pair mode))).via fun _ => rfl).mono
    fun link short => ?_
  have node := short link.source.node (by simp [Link.texts])
  have pin := short link.source.pin (by simp [Link.texts])
  exact ⟨trivial, ⟨node, pin⟩, trivial, trivial⟩

/-- Literals of the fixed pins are read back when their texts are. -/
theorem fixedDefaults_faithful :
    fixedDefaults.Faithful fun literals => ∀ s ∈ literals.texts, Short s := by
  refine ((text_faithful.option.pair (text_faithful.option.pair int64_faithful.option)).via
    fun _ => rfl).mono fun literals short => ?_
  refine ⟨fun s path => short s ?_, fun s itemId => short s ?_, fun _ _ => trivial⟩
  · simp only at path
    simp [FixedLiterals.texts, path]
  · simp only at itemId
    simp [FixedLiterals.texts, itemId]

/-- The texts of a node are those of its parts. -/
theorem mem_texts_iff {node : Node} {s : String} : s ∈ node.texts ↔
    s = node.id ∨ s ∈ node.fixed.texts ∨ (∃ slot ∈ node.slots.entries, s ∈ slot.texts) ∨
      ∃ link ∈ node.links, s ∈ link.texts := by
  simp [Node.texts]

/-- Nodes are read back when their texts are, unless 64 bits cannot count their slots or links. -/
theorem node_faithful : node.Faithful fun node =>
    node.slots.entries.length < UInt64.size ∧ node.links.length < UInt64.size ∧
      ∀ s ∈ node.texts, Short s := by
  -- What is left to show is that the texts of each part are texts of the node.
  refine ((text_faithful.pair (fixedDefaults_faithful.pair
    (slots_faithful.pair link_faithful.list))).via fun _ => rfl).mono ?_
  rintro node ⟨slots, links, short⟩
  refine ⟨short _ (mem_texts_iff.mpr (.inl rfl)), fun s member => ?_,
    ⟨slots, fun slot placed s member => ?_⟩, links, fun link placed s member => ?_⟩
  · exact short s (mem_texts_iff.mpr (.inr (.inl member)))
  · exact short s (mem_texts_iff.mpr (.inr (.inr (.inl ⟨slot, placed, member⟩))))
  · exact short s (mem_texts_iff.mpr (.inr (.inr (.inr ⟨link, placed, member⟩))))

end Codec

namespace Document

/-- Whether 64 bits can count the nodes of a document and the bytes of each of its texts, as they
can for every document in memory. -/
def Addressable (document : Document) : Prop :=
  document.nodes.length < UInt64.size ∧ ∀ s ∈ document.texts, Codec.Short s

instance (document : Document) : Decidable document.Addressable :=
  inferInstanceAs (Decidable (_ ∧ ∀ s ∈ document.texts, Codec.Short s))

variable {document : Document}

/-- Documents in memory are read back when their nodes do not contradict themselves. -/
theorem codec_faithful : Codec.document.Faithful fun document =>
    document.validate = .ok () ∧ document.Addressable := by
  refine ((Codec.word32_faithful.pair Codec.node_faithful.list).via fun _ => rfl).mono ?_
  rintro document ⟨valid, few, short⟩
  refine ⟨trivial, few, fun node placed => ?_⟩
  -- A table has fewer slots than ids, and no more links than pins.
  have consistent := ((validate_eq_ok_iff.mp valid).2 node placed).2
  have slots := consistent.length_le
  have links := consistent.links_length_le
  have ids := UInt32.toNat_lt node.slots.nextId
  have size : UInt64.size = 18446744073709551616 := rfl
  refine ⟨by omega, by omega, fun s member => short s ?_⟩
  exact List.mem_flatMap.mpr ⟨node, placed, member⟩

/-- A valid document in memory is loaded from its binary form, whatever bytes follow. -/
theorem ofBytes_toBytes_append (valid : document.validate = .ok ())
    (addressable : document.Addressable) (rest : Bytes) :
    ofBytes (document.toBytes ++ rest) = .ok document := by
  have found := codec_faithful.read_write ⟨valid, addressable⟩ rest
  -- The bytes after the document are dropped, and the document passes the check once more.
  rw [ofBytes, toBytes, found]
  exact accepted_eq_ok_iff.mpr ⟨valid, rfl⟩

/-- The binary form of a document tells where it ends: the document is loaded from it whatever
bytes follow, and nothing is loaded from a part of it. -/
theorem toBytes_self_delimiting (valid : document.validate = .ok ())
    (addressable : document.Addressable) :
    (∀ rest, ofBytes (document.toBytes ++ rest) = .ok document) ∧
      ∀ start, start <+: document.toBytes → start ≠ document.toBytes →
        ofBytes start = .error .binary := by
  refine ⟨ofBytes_toBytes_append valid addressable, fun start begins shorter => ?_⟩
  have nothing := codec_faithful.read?_of_prefix ⟨valid, addressable⟩ begins shorter
  rw [ofBytes, nothing]

/-- A document with literals of every type: a text beyond ASCII, the least integer, a NaN with a
payload, a handle to nothing; with ids in each size class; and with links to both kinds of pins. -/
def variety : Document :=
  ofNodes [⟨"popup", ⟨some "UI", none, some (-1)⟩,
    ⟨[⟨⟨70000⟩, "Title", .string, some (.string "Größe ☃")⟩,
      ⟨⟨0⟩, "Count", .integer, some (.integer (-9223372036854775808))⟩,
      ⟨⟨251⟩, "Speed", .float, some (.float ⟨0xFFF8000000000001⟩)⟩,
      ⟨⟨3⟩, "Owner", .object, some (.object .invalid)⟩,
      ⟨⟨4⟩, "Hint", .text, some (.text "")⟩,
      ⟨⟨5⟩, "Modal", .boolean, none⟩], 70001⟩,
    [⟨.slot ⟨251⟩, ⟨"clock", "ticks"⟩, .integer, .shared⟩,
      ⟨.fixed .itemId, ⟨"menu", ""⟩, .string, .exclusive⟩]⟩,
    Node.new ""]

/-- The varied document is loaded from its binary form with bytes after it, and not without its
last byte. -/
theorem toBytes_self_delimiting_variety :
    (variety.validate = .ok () ∧ variety.Addressable) ∧
      ofBytes (variety.toBytes ++ [254, 0]) = .ok variety ∧
      ofBytes variety.toBytes.dropLast = .error .binary := by
  have valid : variety.validate = .ok () := by decide +kernel
  have addressable : variety.Addressable := by decide +kernel
  have forms := toBytes_self_delimiting valid addressable
  refine ⟨⟨valid, addressable⟩, forms.1 _, forms.2 _ (List.dropLast_prefix _) fun same => ?_⟩
  have lengths := congrArg List.length same
  have filled : variety.toBytes ≠ [] := by decide +kernel
  rw [List.length_dropLast] at lengths
  have positive := List.length_pos_iff.mpr filled
  omega

end Document

end CallChain
