import CallChain.Proofs.Lowering.Wiring
import CallChain.Proofs.Node.Effects
import CallChain.Proofs.Node.Histories

/-! Histories of links: in which order the links of a node were made, and what else is in its list
of links, makes no difference to its plan. -/

namespace CallChain.Node

variable {node after first second third : Node}

/-- Whether a link fits the pin it leads into. -/
def admits (node : Node) (link : Link) : Bool :=
  (node.pinType? link.pin).any fun type => type.accepts link.sourceType

/-- Two nodes that differ at most in how their links are listed and in the counter for new ids. -/
structure Alike (first second : Node) : Prop where
  id : second.id = first.id
  fixed : second.fixed = first.fixed
  slots : second.slots.entries = first.slots.entries
  links : second.link? = first.link?

/-- A node is like itself. -/
theorem Alike.refl (node : Node) : node.Alike node := ⟨rfl, rfl, rfl, rfl⟩

/-- What is like a node that is like another one is like that. -/
theorem Alike.trans (one : first.Alike second) (two : second.Alike third) : first.Alike third :=
  ⟨two.id.trans one.id, two.fixed.trans one.fixed, two.slots.trans one.slots,
    two.links.trans one.links⟩

/-- Nodes that are alike have the same plan or the same fault. -/
theorem Alike.lower_eq (alike : first.Alike second) : second.lower = first.lower :=
  SameWiring.lower_eq_of_id ⟨alike.fixed, alike.slots, fun pin _ => congrFun alike.links pin⟩
    alike.id

/-- Nodes that are alike have room for the same links. -/
theorem Alike.admits_eq (alike : first.Alike second) (link : Link) :
    second.admits link = first.admits link := by
  unfold admits
  cases link.pin with
  | fixed => rfl
  | slot id => simp only [pinType?, Slots.get?, alike.slots]

/-- What linking an output leaves behind: the link of its pin if that admits it, and all else as it
was, each pin still with one link at most. -/
structure Wired (before after : Node) (link : Link) : Prop where
  pins : (after.links.map Link.pin).Nodup
  id : after.id = before.id
  fixed : after.fixed = before.fixed
  slots : after.slots = before.slots
  links : after.link? =
    if before.admits link then Function.update before.link? link.pin (some link) else before.link?

/-- Linking an output wires its pin, if it is not refused. -/
theorem wired_afterEdit (pins : (node.links.map Link.pin).Nodup) (link : Link) :
    node.Wired (node.afterEdit (.connect link)) link := by
  have admitted : (∃ result, node.connect link = .ok result) ↔ node.admits link = true := by
    rw [connect_succeeds_iff, admits, Option.any_eq_true]
  cases done : node.connect link with
  | error fault =>
    -- A link that is refused leaves the node as it is.
    have unchanged : node.afterEdit (.connect link) = node := by
      simp only [Node.afterEdit, perform, done, Except.map]
    have refused : ¬ node.admits link = true := by
      rw [← admitted, done]
      simp
    rw [unchanged]
    exact ⟨pins, rfl, rfl, rfl, by rw [if_neg refused]⟩
  | ok result =>
    have changed : node.afterEdit (.connect link) = result.1 := by
      simp only [Node.afterEdit, perform, done, Except.map]
    have effect := connected pins done
    obtain ⟨named, distinct⟩ := effect.kept pins
    rw [changed]
    refine ⟨distinct, named, ?_, ?_, ?_⟩
    · rw [effect.whole]
    · rw [effect.whole]
    · rw [if_pos (admitted.mp ⟨result, done⟩), effect.wiring]

/-- What a node admits does not depend on its links. -/
theorem Wired.admits_eq {link : Link} (wired : node.Wired after link) (other : Link) :
    after.admits other = node.admits other := by
  unfold admits
  cases other.pin with
  | fixed => rfl
  | slot id => simp only [pinType?, wired.slots]

/-- The same output is linked to nodes that are alike with the same effect. -/
theorem Alike.afterEdit (alike : first.Alike second) (one : (first.links.map Link.pin).Nodup)
    (two : (second.links.map Link.pin).Nodup) (link : Link) :
    (first.afterEdit (.connect link)).Alike (second.afterEdit (.connect link)) := by
  have left := wired_afterEdit one link
  have right := wired_afterEdit two link
  refine ⟨?_, ?_, ?_, ?_⟩
  · rw [left.id, right.id, alike.id]
  · rw [left.fixed, right.fixed, alike.fixed]
  · rw [left.slots, right.slots, alike.slots]
  · rw [left.links, right.links, alike.links, alike.admits_eq]

/-- Links into different pins do not get in each other's way. -/
theorem alike_afterEdit_swap (pins : (node.links.map Link.pin).Nodup) {one two : Link}
    (apart : one.pin ≠ two.pin) :
    ((node.afterEdit (.connect one)).afterEdit (.connect two)).Alike
      ((node.afterEdit (.connect two)).afterEdit (.connect one)) := by
  have oneMade := wired_afterEdit pins one
  have twoAdded := wired_afterEdit oneMade.pins two
  have twoMade := wired_afterEdit pins two
  have oneAdded := wired_afterEdit twoMade.pins one
  refine ⟨?_, ?_, ?_, ?_⟩
  · rw [twoAdded.id, oneMade.id, oneAdded.id, twoMade.id]
  · rw [twoAdded.fixed, oneMade.fixed, oneAdded.fixed, twoMade.fixed]
  · rw [twoAdded.slots, oneMade.slots, oneAdded.slots, twoMade.slots]
  · rw [twoAdded.links, oneMade.links, oneAdded.links, twoMade.links, oneMade.admits_eq,
      twoMade.admits_eq]
    -- A link that is refused changes nothing, so the order matters only where both are made.
    cases node.admits one with
    | false => rfl
    | true =>
      cases node.admits two with
      | false => rfl
      | true =>
        simp only [if_true]
        exact (Function.update_comm apart _ _ _).symm

/-- The same outputs are linked to nodes that are alike with the same effect. -/
theorem Alike.afterEdits (alike : first.Alike second) (one : (first.links.map Link.pin).Nodup)
    (two : (second.links.map Link.pin).Nodup) (links : List Link) :
    (first.afterEdits (links.map .connect)).Alike (second.afterEdits (links.map .connect)) := by
  induction links generalizing first second with
  | nil => exact alike
  | cons link rest ih =>
    exact ih (alike.afterEdit one two link) (wired_afterEdit one link).pins
      (wired_afterEdit two link).pins

/-- Links into different pins may be made in any order. -/
theorem alike_afterEdits_of_perm {links others : List Link} (reordered : links.Perm others)
    (pins : (node.links.map Link.pin).Nodup) (apart : (links.map Link.pin).Nodup) :
    (node.afterEdits (links.map .connect)).Alike (node.afterEdits (others.map .connect)) := by
  -- Any order is reached by swapping neighbours.
  induction reordered generalizing node with
  | nil => exact .refl node
  | cons link _ ih => exact ih (wired_afterEdit pins link).pins (List.nodup_cons.mp apart).2
  | swap one two rest =>
    -- The links after the two meet nodes that are alike.
    have different : two.pin ≠ one.pin := fun same => by simp [same] at apart
    have oneMade := wired_afterEdit pins one
    have twoMade := wired_afterEdit pins two
    exact (alike_afterEdit_swap pins different).afterEdits (wired_afterEdit twoMade.pins one).pins
      (wired_afterEdit oneMade.pins two).pins rest
  | trans once _ ih again =>
    exact (ih pins apart).trans (again pins ((once.map Link.pin).nodup_iff.mp apart))

/-- Lowering does not see how a node came to be wired. Nodes with the same literals and slots, whose
pins have the same links, are both lowered to the same plan or both fail with the same fault, but
for the id of the node. In particular two outputs can be linked to different pins in either
order. -/
theorem lower_eq_of_wiring :
    (∀ first second : Node, first.SameWiring second →
      (∀ plan, first.lower = .ok plan → second.lower = .ok { plan with nodeId := second.id }) ∧
      ∀ fault, first.lower = .error fault → second.lower = .error (fault.inNode second.id)) ∧
    ∀ (node : Node) (one two : Link), (node.links.map Link.pin).Nodup → one.pin ≠ two.pin →
      (node.afterEdits [.connect one, .connect two]).lower =
        (node.afterEdits [.connect two, .connect one]).lower := by
  refine ⟨fun first second same => ⟨fun plan lowered => ?_, fun fault failed => ?_⟩, ?_⟩
  · rw [same.lower_eq, lowered]
    rfl
  · rw [same.lower_eq, failed]
    rfl
  · intro node one two pins apart
    have distinct : ([one, two].map Link.pin).Nodup := by simpa using apart
    exact (alike_afterEdits_of_perm (List.Perm.swap two one []) pins distinct).lower_eq.symm

/-- A node with one slot. -/
def lamp (id : String) (itemId : Option String) (nextId : UInt32) (links : List Link) : Node where
  id
  fixed := ⟨some "UI", itemId, some 0⟩
  slots := ⟨[⟨⟨1⟩, "Lit", .boolean, none⟩], nextId⟩
  links

/-- An output that is linked to the slot of the node. -/
def switch : Link := ⟨.slot ⟨1⟩, ⟨"wall", "switch"⟩, .boolean, .exclusive⟩

/-- An output that is linked to the context of the node. -/
def room : Link := ⟨.fixed .context, ⟨"house", "room"⟩, .object, .shared⟩

/-- An output that is linked to a slot that the node does not have. -/
def loose : Link := ⟨.slot ⟨0⟩, ⟨"wall", "dimmer"⟩, .float, .shared⟩

/-- The node is lowered alike with its links in another order and a loose one among them; without
an item both fail; and it makes no difference whether it gets its context or its slot first. -/
theorem lower_eq_of_wiring_lamp :
    (lamp "hall" (some "Lamp") 2 [switch, room]).SameWiring
      (lamp "attic" (some "Lamp") 7 [loose, room, switch]) ∧
    (∃ plan, (lamp "hall" (some "Lamp") 2 [switch, room]).lower = .ok plan ∧
      (lamp "attic" (some "Lamp") 7 [loose, room, switch]).lower =
        .ok { plan with nodeId := "attic" }) ∧
    (lamp "hall" none 2 [switch, room]).SameWiring (lamp "attic" none 7 [loose, room, switch]) ∧
    (lamp "attic" none 7 [loose, room, switch]).lower = .error (.missingInput "attic" .itemId) ∧
    ((lamp "hall" (some "Lamp") 2 []).links.map Link.pin).Nodup ∧ switch.pin ≠ room.pin ∧
    ((lamp "hall" (some "Lamp") 2 []).afterEdits [.connect switch, .connect room]).lower =
      ((lamp "hall" (some "Lamp") 2 []).afterEdits [.connect room, .connect switch]).lower := by
  obtain ⟨alike, order⟩ := lower_eq_of_wiring
  have same : ∀ itemId, (lamp "hall" itemId 2 [switch, room]).SameWiring
      (lamp "attic" itemId 7 [loose, room, switch]) := by
    intro itemId
    refine ⟨rfl, rfl, ?_⟩
    rintro _ (⟨fixed, rfl⟩ | ⟨slot, member, rfl⟩)
    · cases fixed <;> rfl
    · obtain rfl := List.mem_singleton.mp member
      rfl
  have pins : ((lamp "hall" (some "Lamp") 2 []).links.map Link.pin).Nodup := by decide
  have apart : switch.pin ≠ room.pin := by decide
  have failed : (lamp "hall" none 2 [switch, room]).lower =
    .error (.missingInput "hall" .itemId) := rfl
  have told := (alike _ _ (same none)).2 _ failed
  exact ⟨same _, ⟨_, rfl, (alike _ _ (same _)).1 _ rfl⟩, same _, told, pins, apart,
    order _ _ _ pins apart⟩

end CallChain.Node
