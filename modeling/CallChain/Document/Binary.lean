import CallChain.Codec.Basic
import CallChain.Document.Basic

/-! The binary form of documents. -/

namespace CallChain

namespace Codec

/-- Handles. -/
def handle : Codec Handle :=
  (option word64).via Handle.raw Handle.mk

/-- Values: the position of the type, then the data. -/
def value : Codec Value where
  write
    | .bool b => 0 :: boolean.write b
    | .integer i => 1 :: int64.write i
    | .float x => 2 :: fixed64.write x.bits
    | .string s => 3 :: text.write s
    | .text s => 4 :: text.write s
    | .object h => 5 :: handle.write h
  read? bytes := do
    let (index, rest) ← readNat? 4 bytes
    match index with
    | 0 => (boolean.read? rest).map fun (b, rest) => (.bool b, rest)
    | 1 => (int64.read? rest).map fun (i, rest) => (.integer i, rest)
    | 2 => (fixed64.read? rest).map fun (bits, rest) => (.float ⟨bits⟩, rest)
    | 3 => (text.read? rest).map fun (s, rest) => (.string s, rest)
    | 4 => (text.read? rest).map fun (s, rest) => (.text s, rest)
    | 5 => (handle.read? rest).map fun (h, rest) => (.object h, rest)
    | _ => none

/-- Types, by their position. -/
def slotType : Codec ValueType :=
  oneOf ValueType.all

/-- Slot ids. -/
def slotId : Codec SlotId :=
  word32.via SlotId.raw SlotId.mk

/-- Parameter slots. -/
def slot : Codec Slot :=
  (pair slotId (pair text (pair slotType (option value)))).via
    (fun slot => (slot.id, slot.name, slot.type, slot.default))
    (fun (id, name, type, default) => ⟨id, name, type, default⟩)

/-- The slots of a node. -/
def slots : Codec Slots :=
  (pair (list slot) word32).via
    (fun table => (table.entries, table.nextId)) (fun (entries, nextId) => ⟨entries, nextId⟩)

/-- Pins: a kind, then the fixed pin or the slot. -/
def pin : Codec Pin where
  write
    | .fixed pin => 0 :: (oneOf FixedPin.all).write pin
    | .slot id => 1 :: slotId.write id
  read? bytes := do
    let (index, rest) ← readNat? 4 bytes
    match index with
    | 0 => ((oneOf FixedPin.all).read? rest).map fun (pin, rest) => (.fixed pin, rest)
    | 1 => (slotId.read? rest).map fun (id, rest) => (.slot id, rest)
    | _ => none

/-- Sources. -/
def source : Codec Source :=
  (pair text text).via (fun source => (source.node, source.pin)) (fun (node, pin) => ⟨node, pin⟩)

/-- Links. -/
def link : Codec Link :=
  (pair pin (pair source (pair slotType (oneOf [Sharing.shared, Sharing.exclusive])))).via
    (fun link => (link.pin, link.source, link.sourceType, link.mode))
    (fun (pin, source, sourceType, mode) => ⟨pin, source, sourceType, mode⟩)

/-- Literals of the fixed pins. -/
def fixedDefaults : Codec FixedLiterals :=
  (pair (option text) (pair (option text) (option int64))).via
    (fun defaults => (defaults.path, defaults.itemId, defaults.priority))
    (fun (path, itemId, priority) => ⟨path, itemId, priority⟩)

/-- Nodes. -/
def node : Codec Node :=
  (pair text (pair fixedDefaults (pair slots (list link)))).via
    (fun node => (node.id, node.fixed, node.slots, node.links))
    (fun (id, fixed, slots, links) => ⟨id, fixed, slots, links⟩)

/-- Documents. -/
def document : Codec Document :=
  (pair word32 (list node)).via
    (fun document => (document.version, document.nodes))
    (fun (version, nodes) => ⟨version, nodes⟩)

end Codec

namespace Document

/-- The binary form of a document. -/
def toBytes (document : Document) : Bytes :=
  Codec.document.write document

/-- The accepted document at the start of a row of bytes; bytes after it do not matter. -/
def ofBytes (bytes : Bytes) : Except DocumentFault Document :=
  match Codec.document.read? bytes with
  | none => .error .binary
  | some (document, _) => document.accepted

end Document

end CallChain
