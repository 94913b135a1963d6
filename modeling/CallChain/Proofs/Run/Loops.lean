import CallChain.Proofs.Run.Diagnostics
import CallChain.Proofs.Run.Later

/-! Loops: a run whose control flow leads back to a step goes round for good, because each step is
left over the same edge whenever it is carried out, and so it never ends well. -/

namespace CallChain

namespace Machine

variable {α : Type} [Bindable α] {setting : RunSetting} {machine moved : Machine α}
  {cursor : StepId} {goal : Goal}

/-- A loop that has turns left makes a turn and goes on from there. -/
theorem Turn.follow_eq (turn : Turn setting cursor machine moved goal) (turns : Nat) :
    follow setting (turns + 1) machine cursor = moved.advance setting turns goal := by
  obtain ⟨found, done, led⟩ := turn
  obtain rfl := Plan.id_of_step? found
  exact follow_ok found done led turns

/-- A turn is told in the trace as one step, whether or not the chain is left after an invalid
handle. -/
theorem Turn.steps_eq (turn : Turn setting cursor machine moved goal) :
    moved.trace.filterMap TraceEntry.step? =
      machine.trace.filterMap TraceEntry.step? ++ [cursor] := by
  obtain @⟨step, executed, found, done, led⟩ := turn
  obtain rfl := Plan.id_of_step? found
  obtain ⟨entry, recorded, names, _⟩ := (carried_of_execute done).recorded
  obtain ⟨edge, _, _, rfl⟩ := next_eq_ok_iff.mp led
  -- An entry about an exit names no step that was carried out.
  have silent (skipped : List String) :
      TraceEntry.step? (.shortCircuited step.id skipped) = none := rfl
  split
  · simp [record, recorded, names, silent]
  · simp [recorded, names]

/-- Each of some steps leads to one of them. -/
structure Circles (setting : RunSetting) (ring : List StepId) (machine : Machine α) : Prop where
  orderly : machine.Orderly setting
  onward : ∀ cursor ∈ ring, ∃ moved, ∃ next ∈ ring, Turn setting cursor machine moved (.step next)

/-- Steps that lead to each other do so after any turn. -/
theorem Circles.turn {ring : List StepId} (circles : machine.Circles setting ring)
    (turn : Turn setting cursor machine moved goal) : moved.Circles setting ring := by
  have precedes := turn.precedes circles.orderly
  refine ⟨precedes.late, ?_⟩
  intro id member
  obtain ⟨_, next, within, leads⟩ := circles.onward id member
  obtain ⟨again, leads⟩ := precedes.turn_again leads
  exact ⟨again, next, within, leads⟩

/-- A run that has come to steps that lead to each other uses up all its turns. -/
theorem Circles.follow {ring : List StepId} (circles : machine.Circles setting ring)
    (member : cursor ∈ ring) (turns : Nat) :
    ∃ stuck ∈ ring, (follow setting turns machine cursor).2 =
      .error (.malformed (.loop setting.plan.nodeId stuck)) := by
  -- The step that is due when no turn is left is still one of them.
  induction turns generalizing machine cursor with
  | zero => exact ⟨cursor, member, rfl⟩
  | succ turns ih =>
    obtain ⟨moved, next, within, turn⟩ := circles.onward cursor member
    rw [turn.follow_eq turns]
    exact ih (circles.turn turn) within

end Machine

namespace RunSetting

variable {α : Type} [Bindable α] {setting : RunSetting} {manager : Manager α}
  {done : List StepId} {machine : Machine α} {goal : Goal} {cursor : StepId}

/-- What holds wherever the control flow of a run has got to: each step that was carried out would
lead on to a step that was carried out, or to where the flow has got to. -/
theorem Reaches.paved (reached : setting.Reaches manager done machine goal) :
    machine.Orderly setting ∧ ∀ id ∈ done, ∃ moved next,
      Machine.Turn setting id machine moved next ∧
        (next = goal ∨ ∃ later ∈ done, next = .step later) := by
  -- A turn leaves the state a later one, in which every turn made before can be made again.
  induction reached with
  | start => exact ⟨Machine.orderly_start setting manager, by simp⟩
  | @turn done machine moved cursor goal _ turn ih =>
    obtain ⟨orderly, paved⟩ := ih
    have precedes := turn.precedes orderly
    refine ⟨precedes.late, ?_⟩
    intro id member
    rcases List.mem_append.mp member with early | late
    · obtain ⟨_, next, leads, onward⟩ := paved id early
      obtain ⟨again, leads⟩ := precedes.turn_again leads
      refine ⟨again, next, leads, .inr ?_⟩
      -- The step that was due before has been carried out by now.
      rcases onward with rfl | ⟨later, within, same⟩
      · exact ⟨cursor, by simp, rfl⟩
      · exact ⟨later, by simp [within], same⟩
    · obtain rfl := List.mem_singleton.mp late
      obtain ⟨again, leads⟩ := precedes.turn_again turn
      exact ⟨again, goal, leads, .inl rfl⟩

/-- Where the control flow has come back to a step, all steps that were carried out lead to each
other. -/
theorem Reaches.circles (reached : setting.Reaches manager done machine (.step cursor))
    (again : cursor ∈ done) : machine.Circles setting done := by
  obtain ⟨orderly, paved⟩ := reached.paved
  refine ⟨orderly, ?_⟩
  intro id member
  obtain ⟨moved, next, leads, onward⟩ := paved id member
  -- The way on leads to a step that was carried out, or else back to where the flow is.
  rcases onward with rfl | ⟨later, within, rfl⟩
  · exact ⟨moved, cursor, again, leads⟩
  · exact ⟨moved, later, within, leads⟩

/-- Steps that were carried out once each are no more than the plan has. -/
theorem Reaches.length_le (reached : setting.Reaches manager done machine goal)
    (once : done.Nodup) : done.length ≤ setting.plan.steps.length := by
  -- Each of them is the id of a step of the plan.
  have placed : done ⊆ setting.plan.steps.map Step.id := by
    intro id member
    obtain ⟨_, _, ⟨found, _, _⟩, _⟩ := reached.paved.2 id member
    obtain ⟨stored, own⟩ := Option.filter_eq_some_iff.mp found
    exact List.mem_map.mpr ⟨_, List.mem_of_getElem? stored, eq_of_beq own⟩
  have bounded := once.length_le_of_subset placed
  rwa [List.length_map] at bounded

end RunSetting

namespace Plan

end Plan

namespace RunSetting

end RunSetting

end CallChain
