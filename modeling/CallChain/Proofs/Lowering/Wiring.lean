import CallChain.Proofs.Lowering.Faults

/-! Lowering sees nothing of the links of a node but the one that is found for each of its pins. -/

namespace CallChain

/-- The same fault of a node with another id. -/
def LoweringFault.inNode (id : String) : LoweringFault → LoweringFault
  | .missingInput _ pin => .missingInput id pin
  | .incompatible _ pin expected found => .incompatible id pin expected found
  | .exclusiveFanOut _ pin source => .exclusiveFanOut id pin source
  | .invalidPlan _ fault => .invalidPlan id fault

namespace Node

/-- A node has its fixed pins and a pin for each slot. -/
def HasPin (node : Node) (pin : Pin) : Prop :=
  (∃ fixed, pin = .fixed fixed) ∨ ∃ slot ∈ node.slots.entries, pin = .slot slot.id

/-- Two nodes have the same literals and the same slots, and on each of their pins the same link. -/
structure SameWiring (first second : Node) : Prop where
  fixed : second.fixed = first.fixed
  slots : second.slots.entries = first.slots.entries
  links : ∀ pin, first.HasPin pin → second.link? pin = first.link? pin

variable {node first second : Node} {pin : Pin}

/-- Every pin of a node has a type. -/
theorem HasPin.pinType?_isSome (has : node.HasPin pin) : (node.pinType? pin).isSome := by
  obtain ⟨fixed, rfl⟩ | ⟨slot, member, rfl⟩ := has
  · rfl
  · exact Node.pinType?_isSome member

/-- The pins that are read are all pins of the node. -/
theorem mem_map_pin_pinUses_iff : pin ∈ node.pinUses.map PinUse.pin ↔ node.HasPin pin := by
  -- The readings of slots stand in slot order, one for each slot.
  have slotted : (∃ use ∈ node.slots.entries.mapIdx fun position slot =>
      (⟨.slot slot.id, Plan.propertyId position, .value⟩ : PinUse), use.pin = pin) ↔
        ∃ slot ∈ node.slots.entries, pin = .slot slot.id := by
    constructor
    · rintro ⟨_, member, rfl⟩
      obtain ⟨position, inside, rfl⟩ := List.mem_mapIdx.mp member
      exact ⟨_, List.getElem_mem inside, rfl⟩
    · rintro ⟨slot, member, rfl⟩
      obtain ⟨position, inside, rfl⟩ := List.mem_iff_getElem.mp member
      exact ⟨_, List.mem_mapIdx.mpr ⟨position, inside, rfl⟩, rfl⟩
  rw [pinUses, List.map_append, List.mem_append, List.mem_map (l := List.mapIdx _ _), slotted,
    HasPin]
  refine or_congr_left ?_
  cases pin with
  | fixed fixed => cases fixed <;> simp
  | slot id => simp

/-- The link of a pin is read alike in both nodes, but for the id of the node in a fault. -/
theorem SameWiring.linkedFeed_eq (same : first.SameWiring second) (has : first.HasPin pin) :
    second.linkedFeed pin = (first.linkedFeed pin).mapError (.inNode second.id) := by
  have typed : second.pinType? pin = first.pinType? pin := by
    cases pin with
    | fixed => rfl
    | slot id => simp only [pinType?, Slots.get?, same.slots]
  have named : second.pinName pin = first.pinName pin := by
    cases pin with
    | fixed => rfl
    | slot id => simp only [pinName, Slots.get?, same.slots]
  unfold linkedFeed
  rw [same.links pin has, typed, named]
  -- The two faults that are left name the node, and nothing else in them differs.
  cases first.link? pin with
  | none => rfl
  | some link =>
    cases first.pinType? pin with
    | none => rfl
    | some expected =>
      by_cases fits : expected.accepts link.sourceType
      · simp only [fits, if_true]
        rfl
      · simp only [fits]
        rfl

/-- The context is read alike in both nodes. -/
theorem SameWiring.contextFeed_eq (same : first.SameWiring second) :
    second.contextFeed = first.contextFeed.mapError (.inNode second.id) := by
  rw [contextFeed, contextFeed, same.linkedFeed_eq (.inl ⟨_, rfl⟩), mapError_bind]
  rfl

/-- A required input is read alike in both nodes. -/
theorem SameWiring.requiredFeed_eq (same : first.SameWiring second) (pin : FixedPin) :
    second.requiredFeed pin = (first.requiredFeed pin).mapError (.inNode second.id) := by
  rw [requiredFeed, requiredFeed, same.linkedFeed_eq (.inl ⟨_, rfl⟩), mapError_bind, same.fixed]
  congr 1
  funext linked
  -- Only a pin with neither a link nor a literal fails.
  cases linked with
  | some feed => rfl
  | none => cases first.fixed.literal? pin <;> rfl

/-- The values of the slots are read alike in both nodes. -/
theorem SameWiring.mapM_slotFeed_eq (same : first.SameWiring second) :
    second.slots.entries.mapM second.slotFeed =
      (first.slots.entries.mapM first.slotFeed).mapError (.inNode second.id) := by
  rw [same.slots, mapError_mapM]
  refine mapM_congr fun slot member => ?_
  rw [slotFeed, slotFeed, same.linkedFeed_eq (.inr ⟨slot, member, rfl⟩), mapError_bind]
  rfl

/-- The same redirects are made in both nodes. -/
theorem SameWiring.redirects_eq (same : first.SameWiring second) :
    second.redirects = first.redirects.mapError (.inNode second.id) := by
  have uses : second.pinUses = first.pinUses := by rw [pinUses, pinUses, same.slots]
  rw [redirects, redirects, mapError_bind, mapError_mapM, uses]
  have each : ∀ pin ∈ (first.pinUses.map PinUse.pin).eraseDups, second.redirectsOf pin =
      (first.redirectsOf pin).mapError (.inNode second.id) := by
    intro pin member
    -- Only pins of the node are read, and these have the same links in both nodes.
    have has := mem_map_pin_pinUses_iff.mp (List.mem_eraseDups.mp member)
    unfold redirectsOf
    rw [same.links pin has, uses]
    cases first.link? pin with
    | none => rfl
    | some link =>
      simp only
      split <;> rfl
  rw [mapM_congr each]
  rfl

/-- Nodes that are wired alike are lowered alike: the plans of both differ in nothing but the id of
the node, and so do the faults. -/
theorem SameWiring.lower_eq (same : first.SameWiring second) :
    second.lower = (first.lower.map fun plan => { plan with nodeId := second.id }).mapError
      (.inNode second.id) := by
  unfold lower
  rw [same.contextFeed_eq, same.requiredFeed_eq, same.requiredFeed_eq, same.requiredFeed_eq,
    same.mapM_slotFeed_eq, same.redirects_eq, same.slots]
  -- Each stage fails in both nodes or in neither, and the first that fails decides.
  cases first.contextFeed with
  | error fault => rfl
  | ok context =>
    cases first.requiredFeed .path with
    | error fault => rfl
    | ok path =>
      cases first.requiredFeed .itemId with
      | error fault => rfl
      | ok itemId =>
        cases first.requiredFeed .priority with
        | error fault => rfl
        | ok priority =>
          cases first.slots.entries.mapM first.slotFeed with
          | error fault => rfl
          | ok values => cases first.redirects <;> rfl

/-- Nodes of one id that are wired alike have the same plan or the same fault. -/
theorem SameWiring.lower_eq_of_id (same : first.SameWiring second) (named : second.id = first.id) :
    second.lower = first.lower := by
  -- The first node is wired like itself, and what is lowered names its own id.
  have itself : first.SameWiring first := ⟨rfl, rfl, fun _ _ => rfl⟩
  rw [same.lower_eq, named, ← itself.lower_eq]

end Node

end CallChain
