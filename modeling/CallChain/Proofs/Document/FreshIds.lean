import CallChain.Proofs.Document.Binary
import CallChain.Proofs.Node.Effects
import CallChain.Proofs.Node.Histories
import CallChain.Proofs.Node.MenuActions

/-! The ids of slots over the history of a node: none is given out twice until all have been, not
even if the node is saved and loaded again in between. -/

namespace CallChain

/-- What surrounds a node in the document that it is saved with. -/
structure Surroundings where
  version : UInt32
  before : List Node
  after : List Node
deriving DecidableEq, Repr

/-- The document that a node is saved with. -/
def Surroundings.around (surroundings : Surroundings) (node : Node) : Document :=
  ⟨surroundings.version, surroundings.before ++ node :: surroundings.after⟩

/-- What happens to a node while its graph is authored. -/
inductive NodeEvent where
  | edit (edit : NodeEdit)
  /-- The document is saved in its binary form and loaded again. -/
  | reload (surroundings : Surroundings)
deriving DecidableEq, Repr

/-- Whether 64 bits can count all that a document holds, as they can for every document in memory,
accepted or not. -/
def Document.Countable (document : Document) : Prop :=
  document.Addressable ∧ ∀ node ∈ document.nodes,
    node.slots.entries.length < UInt64.size ∧ node.links.length < UInt64.size

instance (document : Document) : Decidable document.Countable :=
  inferInstanceAs (Decidable (_ ∧ ∀ node ∈ document.nodes,
    node.slots.entries.length < UInt64.size ∧ node.links.length < UInt64.size))

/-- Whether an id is the least one that no slot of a table has. -/
structure Slots.IsLeastFree (table : Slots) (id : SlotId) : Prop where
  free : ∀ slot ∈ table.entries, slot.id ≠ id
  least : ∀ smaller : SlotId, smaller.raw < id.raw → ∃ slot ∈ table.entries, slot.id = smaller

namespace NodeEdit

/-- Whether an edit adds a slot. -/
def isAddition : NodeEdit → Bool
  | add _ _ | addDefault _ _ => true
  | menu action => action.isAddition
  | _ => false

end NodeEdit

namespace Node

/-- The node after its document was saved and loaded again. A document that is not accepted leaves
the node in memory as it is. -/
def afterReload (node : Node) (surroundings : Surroundings) : Node :=
  match Document.ofBytes (surroundings.around node).toBytes with
  | .ok loaded => loaded.nodes[surroundings.before.length]?.getD node
  | .error _ => node

/-- The node after an event. -/
def afterEvent (node : Node) : NodeEvent → Node
  | .edit edit => node.afterEdit edit
  | .reload surroundings => node.afterReload surroundings

/-- The node after events in a row. -/
def afterEvents (node : Node) (events : List NodeEvent) : Node :=
  events.foldl afterEvent node

/-- Whether each document that is saved along the way is one in memory. -/
def SavesInMemory (node : Node) : List NodeEvent → Prop
  | [] => True
  | .edit edit :: rest => SavesInMemory (node.afterEdit edit) rest
  | .reload surroundings :: rest =>
    (surroundings.around node).Countable ∧ SavesInMemory (node.afterReload surroundings) rest

instance decidableSavesInMemory (node : Node) :
    (events : List NodeEvent) → Decidable (node.SavesInMemory events)
  | [] => inferInstanceAs (Decidable True)
  | .edit edit :: rest => decidableSavesInMemory (node.afterEdit edit) rest
  | .reload surroundings :: rest =>
    have := decidableSavesInMemory (node.afterReload surroundings) rest
    inferInstanceAs (Decidable ((surroundings.around node).Countable ∧ _))

/-- Whether some slot had the id at the start of a history or after one of its events. -/
def HasHeld (node : Node) (events : List NodeEvent) (id : SlotId) : Prop :=
  ∃ stage, stage <+: events ∧ ∃ slot ∈ (node.afterEvents stage).slots.entries, slot.id = id

end Node

/-- A document in memory is loaded from its binary form as it was saved, or not at all. -/
theorem Document.eq_of_ofBytes_toBytes {document loaded : Document}
    (countable : document.Countable) (read : ofBytes document.toBytes = .ok loaded) :
    loaded = document := by
  obtain ⟨⟨few, short⟩, sizes⟩ := countable
  -- The bytes are those of the document, whether or not it passes the check that follows.
  have found : Codec.document.read? (document.toBytes ++ []) = some (document, []) :=
    ((Codec.word32_faithful.pair Codec.node_faithful.list).via fun _ => rfl).read_write
      ⟨trivial, few, fun node placed => ⟨(sizes node placed).1, (sizes node placed).2,
        fun s member => short s (List.mem_flatMap.mpr ⟨node, placed, member⟩)⟩⟩ []
  rw [List.append_nil] at found
  rw [ofBytes, found] at read
  exact (accepted_eq_ok_iff.mp read).2

namespace Node

variable {node after : Node}

/-- Saving and loading a document in memory brings back the node that was saved. -/
theorem afterReload_eq_self {surroundings : Surroundings}
    (countable : (surroundings.around node).Countable) : node.afterReload surroundings = node := by
  unfold afterReload
  cases read : Document.ofBytes (surroundings.around node).toBytes with
  | error => rfl
  | ok loaded =>
    -- The nodes before it are the same ones, so it is found where it was.
    rw [Document.eq_of_ofBytes_toBytes countable read]
    simp [Surroundings.around]

/-- Changing a slot but for its id leaves the ids of a table. -/
theorem map_id_modifyFirst {change : Slot → Slot} (keeps : ∀ slot, (change slot).id = slot.id)
    (id : SlotId) (slots : List Slot) :
    (Slots.modifyFirst change id slots).map Slot.id = slots.map Slot.id := by
  induction slots with
  | nil => rfl
  | cons slot rest ih =>
    by_cases here : slot.id = id
    · simp [Slots.modifyFirst, here, keeps]
    · simp [Slots.modifyFirst, here, ih]

/-- Whether a node has no other slot ids than another one, and the same counter. -/
def KeepsIds (before after : Node) : Prop :=
  after.slots.entries.map Slot.id ⊆ before.slots.entries.map Slot.id ∧
    after.slots.nextId = before.slots.nextId

/-- Changing a slot but for its id keeps the ids of a node, whatever becomes of its links. -/
theorem keepsIds_modify {change : Slot → Slot} (keeps : ∀ slot, (change slot).id = slot.id)
    (id : SlotId) (links : List Link) :
    node.KeepsIds { node with slots := node.slots.modify id change, links } := by
  refine ⟨?_, rfl⟩
  show (Slots.modifyFirst change id node.slots.entries).map Slot.id ⊆ _
  rw [map_id_modifyFirst keeps]
  exact List.Subset.refl _

/-- A change adds one slot under the id that is allocated next, or it brings no id in. -/
theorem Change.adds_or_keepsIds (change : node.Change after) :
    (∃ slot, node.Appended after slot) ∨ node.KeepsIds after := by
  cases change with
  | add proposed type default typed =>
    exact .inl ⟨⟨node.slots.allocate.1, node.freeName proposed none, type, default⟩, rfl, rfl⟩
  | remove id done =>
    obtain ⟨_, rfl⟩ := remove_eq_ok done
    have fewer := List.eraseP_sublist (p := fun slot : Slot => slot.id == id)
      (l := node.slots.entries)
    exact .inr ⟨(fewer.map Slot.id).subset, rfl⟩
  | rename id name done =>
    obtain ⟨_, _, _, rfl⟩ := rename_eq_ok done
    refine .inr (keepsIds_modify ?_ id node.links)
    exact fun _ => rfl
  | retype id type done =>
    obtain ⟨_, _, ⟨_, rfl⟩ | ⟨_, rfl⟩⟩ := retype_eq_ok done
    · exact .inr ⟨List.Subset.refl _, rfl⟩
    · refine .inr (keepsIds_modify ?_ id _)
      exact fun _ => rfl
  | setDefault id default done =>
    obtain ⟨_, _, _, rfl⟩ := setDefault_eq_ok done
    refine .inr (keepsIds_modify ?_ id node.links)
    exact fun _ => rfl
  | setFixed fixed => exact .inr ⟨List.Subset.refl _, rfl⟩
  | connect link done =>
    obtain ⟨_, rfl⟩ := connect_eq_ok done
    exact .inr ⟨List.Subset.refl _, rfl⟩
  | disconnect pin => exact .inr ⟨List.Subset.refl _, rfl⟩

/-- An edit, whether or not it is refused, adds one slot or brings no id in. -/
theorem afterEdit_adds_or_keepsIds (node : Node) (edit : NodeEdit) :
    (∃ slot, node.Appended (node.afterEdit edit) slot) ∨ node.KeepsIds (node.afterEdit edit) := by
  unfold afterEdit
  split
  next after answer done => exact (change_perform done).adds_or_keepsIds
  next => exact .inr ⟨List.Subset.refl _, rfl⟩

/-- An edit that adds a slot is never refused. -/
theorem appended_afterEdit (node : Node) {edit : NodeEdit} (addition : edit.isAddition = true) :
    ∃ slot, node.Appended (node.afterEdit edit) slot := by
  -- Three kinds of edits add a slot, and all of them do so in one way.
  cases edit with
  | add name type => exact ⟨_, rfl, rfl⟩
  | addDefault name default => exact ⟨_, rfl, rfl⟩
  | menu action =>
    cases action with
    | add name type => exact ⟨_, rfl, rfl⟩
    | _ => cases addition
  | _ => cases addition

/-- The counter never moves back when a slot is added. -/
theorem Appended.nextId_le {slot : Slot} (appended : node.Appended after slot) :
    node.slots.nextId ≤ after.slots.nextId := by
  have moved := Slots.nextId_allocate node.slots
  have size := UInt32.toNat_lt node.slots.nextId
  have last : Slots.lastId.toNat = 4294967295 := rfl
  rw [appended.whole, UInt32.le_iff_toNat_le]
  show node.slots.nextId.toNat ≤ node.slots.allocate.2.toNat
  omega

/-- Before the counter has reached its end, a new slot gets the id it stands at. -/
theorem Appended.id_eq {slot : Slot} (appended : node.Appended after slot)
    (left : node.slots.nextId ≠ Slots.lastId) : slot.id = ⟨node.slots.nextId⟩ := by
  rw [appended.allocated, Slots.allocate, if_neg left]

/-- Whether the counter of a node is ahead of all ids of a kind, among them its own, unless it has
reached its end. -/
structure Ahead (node : Node) (known : SlotId → Prop) : Prop where
  own : ∀ slot ∈ node.slots.entries, known slot.id
  below : node.slots.nextId ≠ Slots.lastId → ∀ id, known id → id.raw < node.slots.nextId

/-- The last of several events happens to the node that the others have led to. -/
theorem afterEvents_concat (node : Node) (events : List NodeEvent) (event : NodeEvent) :
    node.afterEvents (events ++ [event]) = (node.afterEvents events).afterEvent event := by
  simp [afterEvents]

/-- The documents saved over a history are in memory when those saved before its last event are,
and so is the one that the last event saves. -/
theorem savesInMemory_concat {event : NodeEvent} {events : List NodeEvent} :
    node.SavesInMemory (events ++ [event]) ↔
      node.SavesInMemory events ∧ (node.afterEvents events).SavesInMemory [event] := by
  induction events generalizing node with
  | nil => simp [SavesInMemory, afterEvents]
  | cons first rest ih =>
    cases first with
    | edit edit =>
      rw [List.cons_append, SavesInMemory, ih]
      rfl
    | reload surroundings =>
      rw [List.cons_append, SavesInMemory, ih, SavesInMemory, and_assoc]
      rfl

/-- An event adds one slot or brings no id in. -/
theorem afterEvent_adds_or_keepsIds {event : NodeEvent} (fits : node.SavesInMemory [event]) :
    (∃ slot, node.Appended (node.afterEvent event) slot) ∨
      node.KeepsIds (node.afterEvent event) := by
  cases event with
  | edit edit => exact node.afterEdit_adds_or_keepsIds edit
  | reload surroundings =>
    rw [afterEvent, afterReload_eq_self fits.1]
    exact .inr ⟨List.Subset.refl _, rfl⟩

/-- The counter never moves back over an event. -/
theorem nextId_le_afterEvent {event : NodeEvent} (fits : node.SavesInMemory [event]) :
    node.slots.nextId ≤ (node.afterEvent event).slots.nextId := by
  rcases afterEvent_adds_or_keepsIds fits with ⟨slot, appended⟩ | ⟨_, same⟩
  · exact appended.nextId_le
  · exact UInt32.le_of_eq same.symm

/-- A counter that is ahead of all ids known stays so over an event, and is ahead of those that the
event brings in. -/
theorem Ahead.afterEvent {known : SlotId → Prop} (ahead : node.Ahead known) {event : NodeEvent}
    (fits : node.SavesInMemory [event]) :
    (node.afterEvent event).Ahead fun id =>
      known id ∨ ∃ slot ∈ (node.afterEvent event).slots.entries, slot.id = id := by
  refine ⟨fun slot member => .inr ⟨slot, member, rfl⟩, fun left id found => ?_⟩
  rcases afterEvent_adds_or_keepsIds fits with ⟨slot, appended⟩ | ⟨fewer, same⟩
  · -- The counter was not at its end before, for it would have stayed there.
    have moved := Slots.nextId_allocate node.slots
    have last : Slots.lastId.toNat = 4294967295 := rfl
    have early : node.slots.nextId ≠ Slots.lastId := by
      intro exhausted
      apply left
      rw [appended.whole]
      simp [Slots.allocate, exhausted]
    have onward : (node.afterEvent event).slots.nextId.toNat = node.slots.nextId.toNat + 1 := by
      have size := UInt32.toNat_lt node.slots.nextId
      have before : node.slots.nextId.toNat ≠ 4294967295 := fun same =>
        early (UInt32.toNat_inj.mp same)
      rw [appended.whole]
      show node.slots.allocate.2.toNat = _
      omega
    have earlier : known id → id.raw.toNat < node.slots.nextId.toNat := fun old =>
      UInt32.lt_iff_toNat_lt.mp (ahead.below early id old)
    rw [UInt32.lt_iff_toNat_lt, onward]
    -- The id was known, or is that of an old slot, or is the one that the counter stood at.
    rcases found with old | ⟨other, member, rfl⟩
    · have bound := earlier old
      omega
    · rw [appended.whole] at member
      rcases List.mem_append.mp member with old | new
      · have bound := UInt32.lt_iff_toNat_lt.mp (ahead.below early _ (ahead.own other old))
        omega
      · rw [List.mem_singleton.mp new, appended.id_eq early]
        exact Nat.lt_succ_self _
  · rw [same] at left ⊢
    rcases found with old | ⟨other, member, rfl⟩
    · exact ahead.below left id old
    · obtain ⟨old, placed, own⟩ := List.mem_map.mp (fewer (List.mem_map_of_mem member))
      rw [← own]
      exact ahead.below left _ (ahead.own old placed)

/-- A history that goes on with one event has held what it held before and what is there now. -/
theorem hasHeld_concat {events : List NodeEvent} {event : NodeEvent} {id : SlotId} :
    node.HasHeld (events ++ [event]) id ↔ node.HasHeld events id ∨
      ∃ slot ∈ (node.afterEvents (events ++ [event])).slots.entries, slot.id = id := by
  constructor
  · rintro ⟨stage, begins, held⟩
    rcases List.prefix_concat_iff.mp begins with rfl | early
    · exact .inr held
    · exact .inl ⟨stage, early, held⟩
  · rintro (⟨stage, early, held⟩ | held)
    · exact ⟨stage, early.trans (List.prefix_append _ _), held⟩
    · exact ⟨_, List.prefix_refl _, held⟩

/-- The counter is ahead of every id that a node has held, unless it has reached its end. -/
theorem ahead_afterEvents (valid : node.validate = .ok ()) {events : List NodeEvent}
    (fits : node.SavesInMemory events) : (node.afterEvents events).Ahead (node.HasHeld events) := by
  -- The induction adds one event at a time to the end of the history.
  induction events using List.reverseRecOn with
  | nil =>
    obtain ⟨_, consistent⟩ := validate_eq_ok_iff.mp valid
    refine ⟨fun slot member => ⟨[], List.prefix_refl _, slot, member, rfl⟩, fun _ id found => ?_⟩
    obtain ⟨stage, begins, slot, member, rfl⟩ := found
    rw [List.prefix_nil.mp begins] at member
    exact (consistent.slots slot member).below
  | append_singleton events event ih =>
    obtain ⟨earlier, last⟩ := savesInMemory_concat.mp fits
    have next := (ih earlier).afterEvent last
    rw [← afterEvents_concat] at next
    refine ⟨fun slot member => ⟨_, List.prefix_refl _, slot, member, rfl⟩, fun left id found => ?_⟩
    exact next.below left id (hasHeld_concat.mp found)

/-- The counter never moves back over a history. -/
theorem nextId_le_afterEvents {events stage : List NodeEvent} (fits : node.SavesInMemory events)
    (begins : stage <+: events) :
    (node.afterEvents stage).slots.nextId ≤ (node.afterEvents events).slots.nextId := by
  induction events using List.reverseRecOn with
  | nil =>
    rw [List.prefix_nil.mp begins]
    exact UInt32.le_refl _
  | append_singleton events event ih =>
    obtain ⟨earlier, last⟩ := savesInMemory_concat.mp fits
    rcases List.prefix_concat_iff.mp begins with rfl | early
    · exact UInt32.le_refl _
    · rw [afterEvents_concat]
      exact UInt32.le_trans (ih earlier early) (nextId_le_afterEvent last)

/-- Once the counter has reached its end, a new slot gets the least id that no slot has, and the
counter stays where it is. -/
theorem Appended.isLeastFree {slot : Slot} (appended : node.Appended after slot)
    (exhausted : node.slots.nextId = Slots.lastId)
    (room : node.slots.entries.length < 4294967295) :
    node.slots.IsLeastFree slot.id ∧ after.slots.nextId = Slots.lastId := by
  obtain ⟨free, _, least⟩ := Slots.leastFree_spec room
  have given : node.slots.allocate = (node.slots.leastFree, Slots.lastId) := by
    rw [Slots.allocate, if_pos exhausted]
  rw [appended.allocated, appended.whole, given]
  refine ⟨⟨Slots.holds_eq_false_iff.mp free, fun smaller below => ?_⟩, rfl⟩
  -- An id that the table holds is that of a slot in it.
  obtain ⟨slot, found⟩ := Option.isSome_iff_exists.mp (least smaller below)
  exact ⟨slot, Slots.get?_eq_some found⟩

/-- Ids of slots are not given out again. Over any history of an accepted node, with edits of all
sorts, refused or not, and with its document saved and loaded again in between, the counter of ids
never moves back; and until it has reached its end, each slot that is added gets an id greater than
all that the node has held at any time, those of removed slots among them. Once the counter has
reached its end it stays there, and on any node that is not full, consistent or not, a slot that is
added gets the least id that no slot of the node has. No link of a consistent node is into it. -/
theorem slot_ids_not_reused (valid : node.validate = .ok ()) {events : List NodeEvent}
    (fits : node.SavesInMemory events) :
    (∀ stage, stage <+: events →
      (node.afterEvents stage).slots.nextId ≤ (node.afterEvents events).slots.nextId) ∧
    (∀ edit, edit.isAddition = true → (node.afterEvents events).slots.nextId ≠ Slots.lastId →
      ∃ slot, (node.afterEvents events).Appended ((node.afterEvents events).afterEdit edit) slot ∧
        ∀ id, node.HasHeld events id → id.raw < slot.id.raw) ∧
    ∀ other : Node, other.slots.nextId = Slots.lastId →
      other.slots.entries.length < 4294967295 →
      ∀ edit, edit.isAddition = true → ∃ slot, other.Appended (other.afterEdit edit) slot ∧
        other.slots.IsLeastFree slot.id ∧ (other.afterEdit edit).slots.nextId = Slots.lastId ∧
        (other.Consistent → ∀ link ∈ other.links, link.pin ≠ .slot slot.id) := by
  refine ⟨fun stage begins => nextId_le_afterEvents fits begins, ?_, ?_⟩
  · intro edit addition left
    obtain ⟨slot, appended⟩ := (node.afterEvents events).appended_afterEdit addition
    refine ⟨slot, appended, fun id held => ?_⟩
    -- The new id is the number that the counter stands at.
    rw [appended.id_eq left]
    exact (ahead_afterEvents valid fits).below left id held
  · intro other exhausted room edit addition
    obtain ⟨slot, appended⟩ := other.appended_afterEdit addition
    obtain ⟨least, stays⟩ := appended.isLeastFree exhausted room
    refine ⟨slot, appended, least, stays, fun consistent link member landed => ?_⟩
    -- A link into the new id would have been one into a slot of the node.
    have unlinked := consistent.link?_allocate room
    rw [← appended.allocated] at unlinked
    exact absurd landed (by simpa using List.find?_eq_none.mp unlinked link member)

/-- A node whose counter has almost reached its end. -/
def worn : Node :=
  ⟨"gauge", ⟨some "UI", none, some 0⟩, ⟨[⟨⟨0⟩, "Title", .string, none⟩], 4294967292⟩, []⟩

/-- A slot is added and removed again, the node is saved and loaded next to another one, and a
second slot is added. -/
def wear : List NodeEvent :=
  [.edit (.add (some "Speed") .float), .edit (.remove ⟨4294967292⟩), .reload ⟨1, [.new "menu"], []⟩,
    .edit (.addDefault none (.integer 3))]

/-- The next slot gets the last id that the counter can give, which is greater than that of the slot
that was removed; the one after that gets the least id that is free. -/
theorem slot_ids_not_reused_worn :
    (worn.validate = .ok () ∧ worn.SavesInMemory wear) ∧
    (worn.HasHeld wear ⟨4294967292⟩ ∧ ∃ slot : Slot, slot.id = ⟨4294967294⟩ ∧
      (worn.afterEvents wear).Appended
        ((worn.afterEvents wear).afterEdit (.menu (.add none .text))) slot ∧
      (⟨4294967292⟩ : SlotId).raw < slot.id.raw) ∧
    let full := (worn.afterEvents wear).afterEdit (.menu (.add none .text))
    ∃ slot : Slot, slot.id = ⟨1⟩ ∧ full.slots.IsLeastFree slot.id := by
  have valid : worn.validate = .ok () := by decide +kernel
  have fits : worn.SavesInMemory wear := by decide +kernel
  have left : (worn.afterEvents wear).slots.nextId ≠ Slots.lastId := by decide +kernel
  obtain ⟨_, fresh, gaps⟩ := slot_ids_not_reused valid fits
  have held : worn.HasHeld wear ⟨4294967292⟩ :=
    ⟨wear.take 1, List.take_prefix _ _, ⟨⟨4294967292⟩, "Speed", .float, none⟩, by decide +kernel,
      rfl⟩
  obtain ⟨slot, appended, greater⟩ := fresh (.menu (.add none .text)) rfl left
  have given : (worn.afterEvents wear).slots.allocate.1 = ⟨4294967294⟩ := by decide +kernel
  obtain ⟨late, added, least, _⟩ := gaps
    ((worn.afterEvents wear).afterEdit (.menu (.add none .text))) (by decide +kernel)
    (by decide +kernel) (.add none .text) rfl
  have gap : ((worn.afterEvents wear).afterEdit (.menu (.add none .text))).slots.allocate.1 =
      ⟨1⟩ := by decide +kernel
  exact ⟨⟨valid, fits⟩, ⟨held, slot, appended.allocated.trans given, appended,
    greater _ held⟩, late, added.allocated.trans gap, least⟩

end Node

end CallChain
