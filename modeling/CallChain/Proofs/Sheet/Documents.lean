import CallChain.Document.Contents
import CallChain.Proofs.Document.Validation
import CallChain.Proofs.Sheet.Nodes

/-! Documents of sheets: what they hold, or which parameter keeps a sheet from being one. -/

namespace CallChain

namespace SheetNode

variable {raw : SheetNode} {node : Node} {fault : SheetFault}

/-- A node is made from one of a sheet: it has what the sheet says of it, no links, and a slot for
each parameter, in order. A priority that is not given is zero. -/
structure MadeInto (raw : SheetNode) (node : Node) : Prop where
  id : node.id = raw.id
  path : node.fixed.path = raw.path
  itemId : node.fixed.itemId = raw.itemId
  priority : node.fixed.priority = some (raw.priority.getD 0)
  links : node.links = []
  size : node.slots.entries.length = raw.params.length
  slots : ∀ (position : Nat) (param : SheetParam), raw.params[position]? = some param →
    param.BecomesSlot node position

/-- Each slot of such a node is what one of the parameters describes. -/
theorem MadeInto.exists_param (into : raw.MadeInto node) {slot : Slot}
    (placed : slot ∈ node.slots.entries) :
    ∃ param ∈ raw.params, param.Describes (slot.type, slot.default) := by
  obtain ⟨position, below, found⟩ := List.mem_iff_getElem.mp placed
  have bound : position < raw.params.length := by
    have size := into.size
    omega
  obtain ⟨same, there, describes, _⟩ :=
    into.slots position raw.params[position] (List.getElem?_eq_getElem bound)
  rw [List.getElem?_eq_getElem below, found, Option.some.injEq] at there
  subst there
  exact ⟨_, List.getElem_mem bound, describes⟩

/-- A node without its slots has all else that the sheet says of it. -/
theorem header_eq (raw : SheetNode) :
    raw.header =
      ⟨raw.id, ⟨raw.path, raw.itemId, some (raw.priority.getD 0)⟩, .empty, []⟩ := by
  unfold header
  cases raw.priority <;> rfl

/-- It is as a node is before any slot was added. -/
theorem counted_header (raw : SheetNode) : raw.header.Counted := by
  rw [header_eq]
  exact ⟨(Node.consistent_new raw.id).setFixed _, rfl⟩

/-- A node that is made is made from what the sheet says of it. -/
theorem madeInto_of_toNode (small : raw.params.length < 4294967295)
    (made : raw.toNode = .ok node) : node.Counted ∧ raw.MadeInto node := by
  have start : raw.header.slots.entries.length = 0 := by rw [header_eq]; rfl
  obtain ⟨counted, filled⟩ := Node.foldlM_addTo_eq_ok raw.counted_header (by omega) made
  refine ⟨counted, ?_⟩
  have kept := filled.kept
  rw [header_eq] at kept
  have size := filled.size
  have slots := filled.slots
  simp only [start, Nat.zero_add] at size slots
  exact ⟨by rw [kept], by rw [kept], by rw [kept], by rw [kept], by rw [kept], size, slots⟩

/-- A node cannot be made for the reason that one of its parameters cannot be read. -/
theorem toNode_eq_error_iff (small : raw.params.length < 4294967295) :
    raw.toNode = .error fault ↔ raw.params.mapM SheetParam.content = .error fault := by
  have start : raw.header.slots.entries.length = 0 := by rw [header_eq]; rfl
  exact Node.foldlM_addTo_eq_error_iff raw.counted_header (by omega)

end SheetNode

namespace Sheet

/-- The first parameter of a sheet, in the order of the document, that something is wrong with. -/
def FirstFault (sheet : Sheet) (fault : SheetFault) : Prop :=
  ∃ before param after, sheet.nodes.flatMap SheetNode.params = before ++ param :: after ∧
    (∀ earlier ∈ before, ∃ content, earlier.Describes content) ∧ param.Faulty fault

variable {sheet : Sheet} {document : Document} {fault : SheetFault}

/-- A sheet is no document for the reason that is the first fault of its parameters. -/
theorem toDocument_eq_error_iff
    (small : ∀ raw ∈ sheet.nodes, raw.params.length < 4294967295) :
    sheet.toDocument = .error fault ↔ sheet.FirstFault fault := by
  have nodes : sheet.toDocument = .error fault ↔
      sheet.nodes.mapM SheetNode.toNode = .error fault := by
    unfold toDocument
    rw [bind_eq_error_iff]
    simp [pure_ne_error]
  have each : ∀ raw ∈ sheet.nodes, ∀ own, raw.toNode = .error own ↔
      raw.params.mapM SheetParam.content = .error own :=
    fun raw member _ => SheetNode.toNode_eq_error_iff (small raw member)
  -- Node after node, the parameters are gone through in the order of the document.
  rw [nodes, mapM_eq_error_congr each, ← mapM_flatMap_eq_error_iff, mapM_eq_error_iff, FirstFault]
  simp only [SheetParam.content_eq_ok_iff, SheetParam.content_eq_error_iff]

/-- A sheet is no document just if something is wrong with one of its parameters. -/
theorem exists_fault_iff (small : ∀ raw ∈ sheet.nodes, raw.params.length < 4294967295) :
    (∃ fault, sheet.toDocument = .error fault) ↔
      ∃ raw ∈ sheet.nodes, ∃ param ∈ raw.params, ∃ fault, param.Faulty fault := by
  constructor
  · rintro ⟨fault, failed⟩
    obtain ⟨before, param, after, split, _, faulty⟩ := (toDocument_eq_error_iff small).mp failed
    have member : param ∈ sheet.nodes.flatMap SheetNode.params := by simp [split]
    obtain ⟨raw, placed, own⟩ := List.mem_flatMap.mp member
    exact ⟨raw, placed, param, own, fault, faulty⟩
  · rintro ⟨raw, placed, param, own, fault, faulty⟩
    -- All parameters of a document can be read.
    cases made : sheet.toDocument with
    | error first => exact ⟨first, rfl⟩
    | ok document =>
      obtain ⟨nodes, mapped, _⟩ := bind_eq_ok_iff.mp made
      obtain ⟨node, _, filled⟩ := exists_result_of_mem mapped placed
      obtain ⟨_, into⟩ := SheetNode.madeInto_of_toNode (small raw placed) filled
      obtain ⟨position, found⟩ := List.mem_iff_getElem?.mp own
      obtain ⟨slot, _, describes, _⟩ := into.slots position param found
      rw [← SheetParam.content_eq_ok_iff] at describes
      rw [← SheetParam.content_eq_error_iff, describes] at faulty
      cases faulty

/-- A document of a sheet has a node for each of the sheet's, in order. -/
theorem nodes_of_toDocument (small : ∀ raw ∈ sheet.nodes, raw.params.length < 4294967295)
    (made : sheet.toDocument = .ok document) :
    document.version = Document.currentVersion ∧
      List.Forall₂ (fun raw node => node.Counted ∧ SheetNode.MadeInto raw node)
        sheet.nodes document.nodes := by
  obtain ⟨nodes, mapped, joined⟩ := bind_eq_ok_iff.mp made
  cases joined
  refine ⟨rfl, ?_⟩
  have matched : List.Forall₂ (fun raw node => raw ∈ sheet.nodes ∧ raw.toNode = .ok node)
      sheet.nodes nodes :=
    (List.forall₂_and_left _ _).mpr ⟨fun _ member => member, mapM_eq_ok_iff.mp mapped⟩
  refine matched.imp ?_
  rintro raw node ⟨member, filled⟩
  exact SheetNode.madeInto_of_toNode (small raw member) filled

/-- It is a valid one, as long as none of its nodes uses up the last id. -/
theorem validate_of_toDocument (small : ∀ raw ∈ sheet.nodes, raw.params.length < 4294967295)
    (made : sheet.toDocument = .ok document) : document.validate = .ok () := by
  obtain ⟨nodes, mapped, joined⟩ := bind_eq_ok_iff.mp made
  cases joined
  refine Document.validate_eq_ok_iff.mpr ⟨rfl, fun node member => ?_⟩
  obtain ⟨raw, placed, filled⟩ := exists_element_of_mem mapped member
  obtain ⟨counted, into⟩ := SheetNode.madeInto_of_toNode (small raw placed) filled
  refine ⟨fun last => ?_, counted.consistent⟩
  -- As many ids are used as there are parameters.
  have count := counted.count
  have size := into.size
  have few := small raw placed
  have final : Slots.lastId.toNat = 4294967295 := rfl
  rw [last] at count
  omega

end Sheet

end CallChain
