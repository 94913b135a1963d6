import CallChain.Proofs.Lowering.Faults
import CallChain.Proofs.Node.Editing
import Mathlib.Data.List.Infix

/-! Nodes with a history: whatever sequence of edits made a node, it is coherent. -/

namespace CallChain.Node

/-- The node after an edit, which is the node itself when the edit is refused. -/
def afterEdit (node : Node) (edit : NodeEdit) : Node :=
  match node.perform edit with
  | .ok (after, _) => after
  | .error _ => node

/-- The node after edits in a row. -/
def afterEdits (node : Node) (edits : List NodeEdit) : Node :=
  edits.foldl afterEdit node

variable {node after : Node}

/-- An edit keeps a node coherent, whether it succeeds or not. -/
theorem Coherent.afterEdit (coherent : node.Coherent)
    (room : node.slots.entries.length < 4294967295) (edit : NodeEdit) :
    (node.afterEdit edit).Coherent := by
  unfold Node.afterEdit
  split
  next after answer done => exact coherent.change room (change_perform done)
  next => exact coherent

/-- Edits in a row keep a node coherent, as long as none of them finds its table full. -/
theorem Coherent.afterEdits (coherent : node.Coherent) {edits : List NodeEdit}
    (room : ∀ before, before <+: edits →
      (node.afterEdits before).slots.entries.length < 4294967295) :
    (node.afterEdits edits).Coherent := by
  -- The last edit is made to the node that all edits before it have led to.
  induction edits using List.reverseRecOn with
  | nil => exact coherent
  | append_singleton edits last ih =>
    have earlier := ih fun before first => room before (first.trans (List.prefix_append _ _))
    have there := room edits (List.prefix_append _ _)
    rw [Node.afterEdits, List.foldl_append]
    exact earlier.afterEdit there last

/-- A change that makes links leaves the slots alone. -/
theorem Change.slots_eq_or_links_subset (change : node.Change after) :
    after.slots = node.slots ∨ after.links ⊆ node.links := by
  -- Only linking an output brings a link in, and it touches no slot.
  cases change with
  | add proposed type default typed => exact .inr (List.Subset.refl _)
  | remove id done =>
    obtain ⟨_, rfl⟩ := remove_eq_ok done
    exact .inr List.filter_sublist.subset
  | rename id name done =>
    obtain ⟨_, _, _, rfl⟩ := rename_eq_ok done
    exact .inr (List.Subset.refl _)
  | retype id type done =>
    obtain ⟨_, _, ⟨_, rfl⟩ | ⟨_, rfl⟩⟩ := retype_eq_ok done
    · exact .inl rfl
    · exact .inr List.filter_sublist.subset
  | setDefault id default done =>
    obtain ⟨_, _, _, rfl⟩ := setDefault_eq_ok done
    exact .inr (List.Subset.refl _)
  | setFixed fixed => exact .inl rfl
  | connect link done =>
    obtain ⟨_, rfl⟩ := connect_eq_ok done
    exact .inl rfl
  | disconnect pin => exact .inl rfl

/-- A slot that was just added has no link. -/
theorem Coherent.link?_added (coherent : node.Coherent)
    (room : node.slots.entries.length < 4294967295) {edit : NodeEdit} {slot : Slot}
    (added : (node.afterEdit edit).slots.entries = node.slots.entries ++ [slot]) :
    (node.afterEdit edit).link? (.slot slot.id) = none := by
  have kept := coherent.afterEdit room edit
  -- The table has grown, so the edit was not one that makes links.
  have longer : (node.afterEdit edit).slots ≠ node.slots := by
    intro same
    have lengths := congrArg List.length added
    rw [same, List.length_append, List.length_singleton] at lengths
    omega
  have fewer : (node.afterEdit edit).links ⊆ node.links := by
    unfold Node.afterEdit at longer ⊢
    split at longer
    next after answer done =>
      exact (change_perform done).slots_eq_or_links_subset.resolve_left longer
    next => exact absurd rfl longer
  rw [link?, List.find?_eq_none]
  intro link member landed
  -- The link was there before, and so was a slot with the id of the added one.
  obtain ⟨type, typed⟩ := coherent.landing link (fewer member)
  rw [eq_of_beq landed] at typed
  obtain ⟨old, found, _⟩ := Option.map_eq_some_iff.mp typed
  obtain ⟨placed, same⟩ := Slots.get?_eq_some found
  have ids := kept.ids
  rw [added, List.map_append, List.nodup_append] at ids
  exact ids.2.2 old.id (List.mem_map_of_mem placed) slot.id (by simp) same

/-- A coherent node without a plan lacks an input, or has an exclusive link that several steps
read. -/
theorem Coherent.lower_eq_error (coherent : node.Coherent) {fault : LoweringFault}
    (failed : node.lower = .error fault) :
    (∃ pin, fault = .missingInput node.id pin) ∨
      ∃ pin source, fault = .exclusiveFanOut node.id pin source := by
  rcases Node.lower_eq_error failed with ⟨pin, present, refused⟩ | other
  · obtain ⟨link, linked, ⟨absent, _⟩ | ⟨expected, typed, misfit, _⟩⟩ :=
      linkedFeed_eq_error refused
    · simp [absent] at present
    · -- A link that was found fits its pin.
      obtain ⟨member, landed⟩ := link?_eq_some linked
      obtain ⟨type, own, fit⟩ := coherent.fits link member
      rw [landed, typed, Option.some.injEq] at own
      rw [← own, misfit] at fit
      cases fit
  · exact other

/-- Editing keeps a node coherent, whatever edits it is made with and whether or not they are
refused. A slot that was just added has no link, and lowering finds no link that does not fit. -/
theorem coherent_of_edits (id : String) (edits : List NodeEdit)
    (bounded : ∀ before, before <+: edits →
      ((Node.new id).afterEdits before).slots.entries.length < 2147483647) :
    let node := (Node.new id).afterEdits edits
    node.Coherent ∧
    (∀ edit slot, (node.afterEdit edit).slots.entries = node.slots.entries ++ [slot] →
      (node.afterEdit edit).link? (.slot slot.id) = none) ∧
    (∀ owner pin expected found,
      node.lower ≠ .error (.incompatible owner pin expected found)) ∧
    ∀ owner cause, node.lower ≠ .error (.invalidPlan owner cause) := by
  intro node
  -- Tables of this size are far from using up all ids.
  have coherent : node.Coherent := (coherent_new id).afterEdits fun before first =>
    Nat.lt_trans (bounded before first) (by decide)
  have room : node.slots.entries.length < 4294967295 :=
    Nat.lt_trans (bounded edits (List.prefix_refl edits)) (by decide)
  refine ⟨coherent, fun edit slot added => coherent.link?_added room added, ?_, ?_⟩
  · intro owner pin expected found failed
    rcases coherent.lower_eq_error failed with ⟨_, other⟩ | ⟨_, _, other⟩ <;> cases other
  · exact lower_ne_invalidPlan node

/-- Edits of all sorts: a name that is taken, a link that a change of type drops, an edit that is
refused, a slot removed through a menu, and a name given back. -/
def popupHistory : List NodeEdit :=
  [.add (some "Title") .string, .addDefault (some "Title") (.integer 3),
    .connect ⟨.slot ⟨1⟩, ⟨"box", "pixels"⟩, .integer, .shared⟩, .retype ⟨1⟩ .text,
    .rename ⟨0⟩ "Path", .menu (.remove ⟨0⟩), .renameFree ⟨1⟩ " Title "]

/-- The popup is coherent after all of its history. -/
theorem coherent_of_edits_popup :
    (∀ before, before <+: popupHistory →
      ((Node.new "popup").afterEdits before).slots.entries.length < 2147483647) ∧
    ((Node.new "popup").afterEdits popupHistory).Coherent := by
  have bounded : ∀ before, before <+: popupHistory →
      ((Node.new "popup").afterEdits before).slots.entries.length < 2147483647 := by
    -- There are eight stages of this history, and each can be looked at.
    have checked : ∀ before ∈ popupHistory.inits,
        ((Node.new "popup").afterEdits before).slots.entries.length < 2147483647 := by
      decide +kernel
    exact fun before first => checked before ((List.mem_inits before popupHistory).mpr first)
  exact ⟨bounded, (coherent_of_edits "popup" popupHistory bounded).1⟩

end CallChain.Node
