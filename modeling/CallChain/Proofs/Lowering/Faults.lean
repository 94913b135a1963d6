import CallChain.Lowering
import CallChain.Proofs.Sequence

/-! Why a node has no plan: a link does not fit, a literal is missing, or a link cannot be shared. -/

namespace CallChain.Node

variable {node : Node} {fault : LoweringFault}

/-- The pin of every slot in the table exists. -/
theorem pinType?_isSome {slot : Slot} (member : slot ∈ node.slots.entries) :
    (node.pinType? (.slot slot.id)).isSome := by
  rw [pinType?, Option.isSome_map, Slots.get?, List.find?_isSome]
  exact ⟨slot, member, by simp⟩

/-- A link that cannot be read lands nowhere, or on a pin that it does not fit. -/
theorem linkedFeed_eq_error {pin : Pin} (failed : node.linkedFeed pin = .error fault) :
    ∃ link, node.link? pin = some link ∧
      ((node.pinType? pin = none ∧ fault = .invalidPlan node.id (.unknownPin pin)) ∨
        ∃ expected, node.pinType? pin = some expected ∧
          expected.accepts link.sourceType = false ∧
          fault = .incompatible node.id (node.pinName pin) expected link.sourceType) := by
  unfold linkedFeed at failed
  -- Without a link there is nothing to read, so nothing can fail.
  cases linked : node.link? pin with
  | none => simp [linked] at failed
  | some link =>
    cases typed : node.pinType? pin with
    | none =>
      simp only [linked, typed, Except.error.injEq] at failed
      exact ⟨link, rfl, .inl ⟨rfl, failed.symm⟩⟩
    | some expected =>
      cases fits : expected.accepts link.sourceType with
      | true => simp [linked, typed, fits] at failed
      | false =>
        simp only [linked, typed, fits, Bool.false_eq_true, if_false, Except.error.injEq] at failed
        exact ⟨link, rfl, .inr ⟨expected, rfl, fits, failed.symm⟩⟩

/-- A pin that always falls back to something only fails at its link. -/
theorem linkedFeed_getD_eq_error {pin : Pin} {fallback : Feed}
    (failed : (do return (← node.linkedFeed pin).getD fallback : Except LoweringFault Feed) =
      .error fault) : node.linkedFeed pin = .error fault := by
  rcases bind_eq_error_iff.mp failed with linked | ⟨_, _, chosen⟩
  · exact linked
  · exact absurd chosen pure_ne_error

/-- A required input fails at its link, or is missing. -/
theorem requiredFeed_eq_error {pin : FixedPin} (failed : node.requiredFeed pin = .error fault) :
    node.linkedFeed (.fixed pin) = .error fault ∨ fault = .missingInput node.id pin := by
  rcases bind_eq_error_iff.mp failed with linked | ⟨found, _, chosen⟩
  · exact .inl linked
  · -- With a link or a literal there is nothing more to go wrong.
    cases found with
    | some feed => exact absurd chosen pure_ne_error
    | none =>
      cases literal : node.fixed.literal? pin with
      | some value => simp [literal, Pure.pure, Except.pure] at chosen
      | none =>
        simp only [literal] at chosen
        exact .inr (Except.error.inj chosen).symm

/-- A link that has no redirects is exclusive, and more than one step reads its pin. -/
theorem redirectsOf_eq_error {pin : Pin} (failed : node.redirectsOf pin = .error fault) :
    ∃ link, node.link? pin = some link ∧ link.mode = .exclusive ∧
      fault = .exclusiveFanOut node.id pin link.source := by
  unfold redirectsOf at failed
  cases linked : node.link? pin with
  | none => simp [linked] at failed
  | some link =>
    -- A shared link is copied as often as it takes.
    simp only [linked] at failed
    split at failed
    · rename_i shared
      exact ⟨link, rfl, shared.1, (Except.error.inj failed).symm⟩
    · simp at failed

/-- A node without a plan has a link that cannot be read from a pin of the node, lacks an input,
or has an exclusive link that more than one step reads. -/
theorem lower_eq_error (failed : node.lower = .error fault) :
    (∃ pin, (node.pinType? pin).isSome ∧ node.linkedFeed pin = .error fault) ∨
      (∃ pin, fault = .missingInput node.id pin) ∨
      ∃ pin source, fault = .exclusiveFanOut node.id pin source := by
  have required : ∀ pin, node.requiredFeed pin = .error fault →
      (∃ pin, (node.pinType? pin).isSome ∧ node.linkedFeed pin = .error fault) ∨
        (∃ pin, fault = .missingInput node.id pin) ∨
        ∃ pin source, fault = .exclusiveFanOut node.id pin source := by
    intro pin refused
    rcases requiredFeed_eq_error refused with linked | missing
    · exact .inl ⟨.fixed pin, rfl, linked⟩
    · exact .inr (.inl ⟨pin, missing⟩)
  unfold lower at failed
  -- The stages of lowering are tried one after the other, and the first to fail gives the fault.
  rcases bind_eq_error_iff.mp failed with context | ⟨_, _, failed⟩
  · exact .inl ⟨.fixed .context, rfl, linkedFeed_getD_eq_error context⟩
  rcases bind_eq_error_iff.mp failed with path | ⟨_, _, failed⟩
  · exact required .path path
  rcases bind_eq_error_iff.mp failed with itemId | ⟨_, _, failed⟩
  · exact required .itemId itemId
  rcases bind_eq_error_iff.mp failed with priority | ⟨_, _, failed⟩
  · exact required .priority priority
  rcases bind_eq_error_iff.mp failed with values | ⟨_, _, failed⟩
  · obtain ⟨slot, member, refused⟩ := mapM_eq_error values
    exact .inl ⟨.slot slot.id, pinType?_isSome member, linkedFeed_getD_eq_error refused⟩
  rcases bind_eq_error_iff.mp failed with redirects | ⟨_, _, joined⟩
  · rcases bind_eq_error_iff.mp redirects with groups | ⟨_, _, joined⟩
    · obtain ⟨pin, _, refused⟩ := mapM_eq_error groups
      obtain ⟨link, _, _, found⟩ := redirectsOf_eq_error refused
      exact .inr (.inr ⟨pin, link.source, found⟩)
    · exact absurd joined pure_ne_error
  · exact absurd joined pure_ne_error

/-- Lowering never finds a plan malformed by itself: the pins it reads all exist. -/
theorem lower_ne_invalidPlan (node : Node) (id : String) (cause : PlanFault) :
    node.lower ≠ .error (.invalidPlan id cause) := by
  intro failed
  -- Only a link on a pin that does not exist would be reported so.
  rcases lower_eq_error failed with ⟨pin, present, refused⟩ | ⟨_, other⟩ | ⟨_, _, other⟩
  · obtain ⟨_, _, ⟨absent, _⟩ | ⟨_, _, _, other⟩⟩ := linkedFeed_eq_error refused
    · simp [absent] at present
    · cases other
  · cases other
  · cases other

end CallChain.Node
