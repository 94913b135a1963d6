import CallChain.Proofs.Document.Rereading
import CallChain.Proofs.Json.Spelled
import CallChain.Proofs.Sheet.Documents

/-! Sheets that are read from texts: the documents they become can be saved and loaded again. -/

namespace CallChain

open Json

/-- A number of 64 bits below zero is rounded to a finite number. -/
theorem Binary64.isFinite_ofInt (i : Int64) : (ofInt i.toInt).isFinite := by
  have least := Int64.le_toInt i
  have most := Int64.toInt_lt i
  have small : i.toInt.natAbs < 2 ^ 64 := by omega
  exact isFinite_ofUnits_iff.mpr (isFinite_ofUnits_iff.mp (ofNat_bounds small).1)

namespace SheetParam

/-- Parameters that are read have spelled defaults. -/
theorem ofJson_yields : Yields ofJson fun param => ∀ json ∈ param.default, json.Spelled := by
  intro tree param spelled read
  obtain ⟨found, record, read⟩ := bind_eq_ok_iff.mp read
  obtain ⟨name, _, read⟩ := bind_eq_ok_iff.mp read
  obtain ⟨type, _, read⟩ := bind_eq_ok_iff.mp read
  obtain ⟨default, own, read⟩ := bind_eq_ok_iff.mp read
  cases read
  have any : Yields anyJson Spelled := by
    intro json result spelled read
    unfold anyJson at read
    split at read
    · cases read
      exact spelled
    · cases read
  exact any.optional (record_yields _ _ _ spelled record) own

/-- The floats that spelled JSON values stand for are finite. -/
theorem StandsFor.isFinite {type : ValueType} {json : Json} {value : Value}
    (stands : StandsFor type json value) (spelled : json.Spelled) :
    ∀ x ∈ value.floats, x.isFinite := by
  intro x member
  cases stands with
  | float y =>
    obtain rfl := List.mem_singleton.mp member
    exact spelled
  | naturalFloat n =>
    obtain rfl := List.mem_singleton.mp member
    exact (Binary64.ofNat_bounds n.toNat_lt).1
  | negativeFloat i =>
    obtain rfl := List.mem_singleton.mp member
    exact Binary64.isFinite_ofInt i
  | _ => simp [Value.floats] at member

end SheetParam

namespace SheetNode

/-- So have those of nodes that are read. -/
theorem ofJson_yields : Yields ofJson fun raw =>
    ∀ param ∈ raw.params, ∀ json ∈ param.default, json.Spelled := by
  intro tree raw spelled read
  obtain ⟨found, record, read⟩ := bind_eq_ok_iff.mp read
  obtain ⟨id, _, read⟩ := bind_eq_ok_iff.mp read
  obtain ⟨path, _, read⟩ := bind_eq_ok_iff.mp read
  obtain ⟨itemId, _, read⟩ := bind_eq_ok_iff.mp read
  obtain ⟨priority, _, read⟩ := bind_eq_ok_iff.mp read
  obtain ⟨params, own, read⟩ := bind_eq_ok_iff.mp read
  cases read
  exact SheetParam.ofJson_yields.list.orElse (record_yields _ _ _ spelled record) (by simp) own

end SheetNode

namespace Sheet

/-- So have those of sheets that are read. -/
theorem ofJson_yields : Yields ofJson fun sheet =>
    ∀ raw ∈ sheet.nodes, ∀ param ∈ raw.params, ∀ json ∈ param.default, json.Spelled := by
  intro tree sheet spelled read
  obtain ⟨found, record, read⟩ := bind_eq_ok_iff.mp read
  obtain ⟨nodes, own, read⟩ := bind_eq_ok_iff.mp read
  cases read
  exact SheetNode.ofJson_yields.list.required (record_yields _ _ _ spelled record) own

variable {sheet : Sheet} {document : Document}

/-- The document of a sheet whose defaults are spelled has finite floats only. -/
theorem isFinite_of_toDocument (small : ∀ raw ∈ sheet.nodes, raw.params.length < 4294967295)
    (spelled : ∀ raw ∈ sheet.nodes, ∀ param ∈ raw.params, ∀ json ∈ param.default, json.Spelled)
    (made : sheet.toDocument = .ok document) : ∀ x ∈ document.floats, x.isFinite := by
  obtain ⟨nodes, mapped, joined⟩ := bind_eq_ok_iff.mp made
  cases joined
  refine Document.forall_floats_iff.mpr fun node member => ?_
  refine Node.forall_floats_iff.mpr fun slot placed => ?_
  refine Slot.forall_floats_iff.mpr fun value held => ?_
  obtain ⟨raw, own, filled⟩ := exists_element_of_mem mapped member
  obtain ⟨_, into⟩ := SheetNode.madeInto_of_toNode (small raw own) filled
  obtain ⟨param, listed, describes⟩ := into.exists_param placed
  -- A literal is one that the default of the parameter stands for.
  cases given : param.default with
  | none =>
    have absent : slot.default = none := describes.absent given
    rw [absent] at held
    cases held
  | some json =>
    obtain ⟨literal, same, stands⟩ := describes.given json given
    have only : slot.default = some literal := same
    rw [only] at held
    cases held
    exact stands.isFinite (spelled raw own param listed json given)

/-- A sheet that was read from a text is no document just if something is wrong with one of its
parameters, and for the reason that is wrong with the first of these. Otherwise it is a valid
document, with a node for each of the sheet's and a slot for each parameter, all floats of which are
finite, and which is loaded again from both of its forms. From the JSON form each float comes back
as its digits are read. -/
theorem toDocument_of_ofText {text : String} (parsed : ofText text = .ok sheet)
    (small : ∀ raw ∈ sheet.nodes, raw.params.length < 2147483647) :
    ((∃ fault, sheet.toDocument = .error fault) ↔
      ∃ raw ∈ sheet.nodes, ∃ param ∈ raw.params, ∃ fault, param.Faulty fault) ∧
    (∀ fault, sheet.toDocument = .error fault ↔ sheet.FirstFault fault) ∧
    (∀ inner, sheet.toDocument ≠ .error (.node inner)) ∧
    ∀ document, sheet.toDocument = .ok document →
      document.version = Document.currentVersion ∧
      List.Forall₂ SheetNode.MadeInto sheet.nodes document.nodes ∧
      document.validate = .ok () ∧
      (∀ x ∈ document.floats, x.isFinite) ∧
      (document.Addressable → Document.ofBytes document.toBytes = .ok document) ∧
      Document.ofText document.toText = .ok document.reread ∧
      ((∀ x ∈ document.floats, x.Stable) → document.reread = document) := by
  have few : ∀ raw ∈ sheet.nodes, raw.params.length < 4294967295 := by
    intro raw member
    have own := small raw member
    omega
  refine ⟨exists_fault_iff few, fun _ => toDocument_eq_error_iff few, ?_, ?_⟩
  · intro inner failed
    obtain ⟨_, param, _, _, _, faulty⟩ := (toDocument_eq_error_iff few).mp failed
    cases faulty
  · intro document made
    obtain ⟨version, nodes⟩ := nodes_of_toDocument few made
    have valid := validate_of_toDocument few made
    have finite := isFinite_of_toDocument few (ofJson_yields.parse parsed) made
    refine ⟨version, nodes.imp fun _ _ => And.right, valid, finite, ?_,
      Document.ofText_toText_eq_reread valid finite, Document.reread_eq_of_stable⟩
    intro addressable
    have whole := Document.ofBytes_toBytes_append valid addressable []
    rw [List.append_nil] at whole
    exact whole

/-- A sheet with two parameters of one reserved name, and one without a name. -/
def mixedText : String :=
  "\x7b\"nodes\": [\x7b\"id\": \"n\", \"params\": [" ++
    "\x7b\"name\": \" Path \", \"type\": \"Float\", \"default\": 1\x7d, " ++
    "\x7b\"name\": \"Path\", \"type\": \"float\", \"default\": 0.1\x7d, " ++
    "\x7b\"type\": \"Text\"\x7d]\x7d]\x7d"

/-- The document that it becomes. -/
def mixedDocument : Document :=
  .ofNodes [⟨"n", ⟨none, none, some 0⟩,
    ⟨[⟨⟨0⟩, "Path_1", .float, some (.float ⟨0x3FF0000000000000⟩)⟩,
      ⟨⟨1⟩, "Path_2", .float, some (.float ⟨0x3FB999999999999A⟩)⟩,
      ⟨⟨2⟩, "Param", .text, none⟩], 3⟩, []⟩]

/-- It is loaded again from both of its forms as it is. -/
theorem toDocument_of_ofText_mixed : ∃ sheet, ofText mixedText = .ok sheet ∧
    (∀ raw ∈ sheet.nodes, raw.params.length < 2147483647) ∧
    sheet.toDocument = .ok mixedDocument ∧
    Document.ofBytes mixedDocument.toBytes = .ok mixedDocument ∧
    Document.ofText mixedDocument.toText = .ok mixedDocument := by
  have read : ((ofText mixedText).toOption.map fun sheet =>
      (decide (∀ raw ∈ sheet.nodes, raw.params.length < 2147483647),
        sheet.toDocument.toOption)) = some (true, some mixedDocument) := by decide +kernel
  have addressable : mixedDocument.Addressable := by decide +kernel
  have stable : ∀ x ∈ mixedDocument.floats, x.Stable := by decide +kernel
  cases parsed : ofText mixedText with
  | error fault => simp [parsed, Except.toOption] at read
  | ok sheet =>
    simp only [parsed, Except.toOption, Option.map_some, Option.some.injEq, Prod.mk.injEq,
      decide_eq_true_eq] at read
    obtain ⟨small, made⟩ := read
    cases result : sheet.toDocument with
    | error fault => simp [result] at made
    | ok document =>
      rw [result, Option.some.injEq] at made
      subst made
      obtain ⟨_, _, _, loads⟩ := toDocument_of_ofText parsed small
      obtain ⟨_, _, _, _, bytes, text, same⟩ := loads _ result
      rw [same stable] at text
      exact ⟨sheet, rfl, small, result, bytes addressable, text⟩

end Sheet

end CallChain
