import CallChain.Proofs.Build.Stopping
import CallChain.Proofs.Lowering.Faults
import CallChain.Proofs.Lowering.Inputs
import CallChain.Proofs.Lowering.Redirects

/-! Every plan that lowering makes passes the structural check, so checking changes no build. -/

namespace CallChain

namespace Node

variable {node : Node} {feeds : Feeds} {plan : Plan}

/-- No step made for a node has two inputs of one name. -/
theorem Lowers.distinct_inputs (lowers : node.Lowers feeds plan) {step : Step}
    (member : step ∈ plan.steps) : (step.inputs.map FedInput.input).Nodup := by
  rcases lowers.mem_steps_iff.mp member with rfl | rfl | ⟨_, _, _, _, _, rfl⟩
  · show [Input.context].Nodup
    decide
  · show [Input.manager, .path, .itemId, .priority, .context].Nodup
    decide
  · show [Input.target, .value].Nodup
    decide

/-- Every input of a step passes: what it reads comes earlier, is recorded, or is a constant. -/
theorem Lowers.checkFeed_eq_ok (lowers : node.Lowers feeds plan)
    (small : node.slots.entries.length ≤ 4294967294) {step : Step} (member : step ∈ plan.steps)
    {entry : FedInput} (read : entry ∈ step.inputs) : plan.checkFeed step entry = .ok () := by
  rcases lowers.input_origin small member read with given | ⟨use, used, target, input, takes⟩
  · obtain ⟨producer, feed, found, earlier⟩ := given
    exact Plan.checkFeed_earlier feed found earlier
  · unfold Takes at takes
    cases linked : node.link? use.pin with
    | some link =>
      -- The reading of a linked pin has a redirect, which records the link for this input.
      simp only [linked] at takes
      obtain ⟨redirect, recorded, leads⟩ := exists_redirect lowers.redirects used linked
      refine Plan.checkFeed_recorded recorded (leads.target.trans target)
        (leads.input.trans input) ?_
      rw [takes, leads.source]
    | none =>
      simp only [linked] at takes
      cases feed : entry.feed <;> simp [feed, Feed.IsConstant] at takes <;>
        simp [Plan.checkFeed, feed]

/-- Every redirect ends in an input of a step of the plan that is fed with its link. -/
theorem Lowers.redirect_fed (lowers : node.Lowers feeds plan)
    (small : node.slots.entries.length ≤ 4294967294) {redirect : Redirect}
    (recorded : redirect ∈ plan.redirects) :
    ∃ target, plan.step? redirect.target = some target ∧
      target.feed? redirect.input = some (.linked redirect.source) := by
  -- A redirect stands for a reading of a linked pin, and each reading is an input of its step.
  obtain ⟨use, used, link, linked, leads⟩ := redirects_lead lowers.redirects recorded
  obtain ⟨step, member, id, feed, fed, takes⟩ := lowers.use_fed used
  obtain ⟨done, rest, split⟩ := List.append_of_mem member
  have found := (lowers.isChain small).numbered.step?_eq split
  simp only [Takes, linked] at takes
  refine ⟨step, ?_, ?_⟩
  · rw [leads.target, ← id, found]
  · rw [leads.input, fed, takes, leads.source]

/-- The step with the id of the call that asks for the item makes that call. -/
theorem Lowers.createOrShow_of_id (lowers : node.Lowers feeds plan)
    (small : node.slots.entries.length ≤ 4294967294) {step : Step} (member : step ∈ plan.steps)
    (asks : step.id = Plan.createId) : step.call = .createOrShow := by
  rcases lowers.mem_steps_iff.mp member with rfl | rfl | ⟨position, _, _, placed, _, rfl⟩
  · exact absurd asks (show Plan.locateId ≠ Plan.createId by decide)
  · rfl
  · have inside := (List.getElem?_eq_some_iff.mp placed).1
    exact absurd asks (Plan.propertyId_ne_createId (by omega))

/-- One step of the plan asks for the item, and no other. -/
theorem Lowers.count_createId (lowers : node.Lowers feeds plan)
    (small : node.slots.entries.length ≤ 4294967294) :
    (plan.steps.map Step.id).count Plan.createId = 1 := by
  refine List.count_eq_one_of_mem (lowers.isChain small).numbered.nodup_ids ?_
  exact List.mem_map.mpr ⟨_, lowers.mem_steps_iff.mpr (.inr (.inl rfl)), rfl⟩

/-- What the plan gives downstream is the handle of the step that asks for the item. -/
theorem Lowers.checkOutput_eq_ok (lowers : node.Lowers feeds plan)
    (small : node.slots.entries.length ≤ 4294967294) : plan.checkOutput = .ok () := by
  have created := (lowers.isChain small).numbered.step?_eq
    (show plan.steps = [_] ++ Plan.createStep feeds.path feeds.itemId feeds.priority feeds.context ::
      _ from lowers.steps)
  rw [Plan.createStep_id] at created
  simp [Plan.checkOutput, lowers.output, Plan.handle, created]

/-- The plan of a node passes the structural check. -/
theorem Lowers.verify_eq_ok (lowers : node.Lowers feeds plan)
    (small : node.slots.entries.length ≤ 4294967294) : plan.verify = .ok () := by
  have chain := lowers.isChain small
  have filled : plan.steps.isEmpty = false := by
    rw [lowers.steps]
    rfl
  -- Steps, redirects, control and output pass one after the other.
  have steps : plan.checkSteps 0 plan.steps = .ok () := by
    refine Plan.checkSteps_eq_ok (List.nil_append plan.steps).symm fun {_ _ step} split => ?_
    have member : step ∈ plan.steps := by simp [split]
    exact Plan.checkStep_eq_ok chain.numbered split (lowers.distinct_inputs member)
      fun _ read => lowers.checkFeed_eq_ok small member read
  have redirects : plan.checkRedirects [] plan.redirects = .ok () :=
    Plan.checkRedirects_eq_ok (fun _ recorded => lowers.redirect_fed small recorded)
      (movedPins_nodup lowers.redirects) (by simp)
  have control : plan.checkControl = .ok () :=
    chain.checkControl_eq_ok (fun _ member asks => lowers.createOrShow_of_id small member asks)
      (lowers.count_createId small)
  have output := lowers.checkOutput_eq_ok small
  simp [Plan.verify, filled, steps, redirects, control, output, Bind.bind, Except.bind]

/-- Whether the plan of a node is checked makes no difference. -/
theorem lowerChecked_eq_lower (small : node.slots.entries.length ≤ 4294967294) (verify : Bool) :
    node.lowerChecked verify = node.lower := by
  unfold lowerChecked
  cases lowered : node.lower with
  | error fault => rfl
  | ok plan =>
    cases verify with
    | false => rfl
    | true =>
      -- The check passes and hands the plan on as it is.
      obtain ⟨feeds, lowers⟩ := lower_eq_ok lowered
      simp [lowers.verify_eq_ok small, Bind.bind, Except.bind, Pure.pure, Except.pure]

end Node

namespace Build

/-- Lowering nodes in order does not depend on whether their plans are checked. -/
theorem lowerNodes_unchecked {nodes : List Node}
    (small : ∀ node ∈ nodes, node.slots.entries.length ≤ 4294967294) (listings : Option String)
    (files : FileTree) :
    lowerNodes ⟨true, listings⟩ nodes files = lowerNodes ⟨false, listings⟩ nodes files := by
  induction nodes generalizing files with
  | nil => rfl
  | cons node rest ih =>
    have own := small node (by simp)
    have others := ih fun other member => small other (by simp [member])
    simp only [lowerNodes, Node.lowerChecked_eq_lower own]
    cases node.lower with
    | error fault => rfl
    | ok plan =>
      -- Listings are written in the same way in both cases.
      have written : writeListing ⟨true, listings⟩ plan files =
          writeListing ⟨false, listings⟩ plan files := rfl
      simp only [written, others]

/-- A fault of lowering that ends a build is that of one of its nodes. -/
theorem exists_fault_of_lowerNodes {setting : Setting} {nodes : List Node} {files : FileTree}
    {fault : LoweringFault}
    (failed : (lowerNodes setting nodes files).result = .error (.lowering fault)) :
    ∃ node ∈ nodes, node.lowerChecked setting.verify = .error fault := by
  cases stops_of_lowerNodes failed with
  | node before node after split _ _ _ raised => exact ⟨node, by simp [split], raised⟩

/-- Every plan that lowering makes passes the check, whether or not its node is consistent. So a
build gives the same with the check and without, and never reports a malformed plan. -/
theorem lowered_plans_pass :
    (∀ (node : Node) (plan : Plan), node.slots.entries.length ≤ 4294967294 →
      node.lower = .ok plan → plan.verify = .ok ()) ∧
    ∀ (document : Document) (listings : Option String) (files : FileTree),
      (∀ node ∈ document.nodes, node.slots.entries.length ≤ 4294967294) →
      run ⟨true, listings⟩ document files = run ⟨false, listings⟩ document files ∧
      ∀ (verify : Bool) (id : String) (fault : PlanFault),
        (run ⟨verify, listings⟩ document files).result ≠
          .error (.lowering (.invalidPlan id fault)) := by
  refine ⟨fun node plan small lowered => ?_, fun document listings files small => ⟨?_, ?_⟩⟩
  · obtain ⟨feeds, lowers⟩ := Node.lower_eq_ok lowered
    exact lowers.verify_eq_ok small
  · unfold run
    rw [lowerNodes_unchecked small]
  · -- A node that is reported as malformed would have been so by lowering alone.
    intro verify id fault failed
    unfold run at failed
    split at failed
    · cases failed
    · obtain ⟨node, member, raised⟩ := exists_fault_of_lowerNodes failed
      rw [Node.lowerChecked_eq_lower (small node member)] at raised
      exact Node.lower_ne_invalidPlan node id fault raised

/-- A node with an id given twice, two links on one pin, and a link to a slot it does not have. -/
def tangled : Node where
  id := "tangled"
  fixed := ⟨some "UI", some "Box", none⟩
  slots := ⟨[⟨⟨1⟩, "Title", .string, none⟩, ⟨⟨1⟩, "Hint", .string, none⟩], 1⟩
  links := [⟨.slot ⟨1⟩, ⟨"menu", "title"⟩, .string, .shared⟩,
    ⟨.fixed .priority, ⟨"menu", "rank"⟩, .integer, .exclusive⟩,
    ⟨.slot ⟨1⟩, ⟨"menu", "hint"⟩, .string, .shared⟩,
    ⟨.slot ⟨9⟩, ⟨"menu", "icon"⟩, .object, .shared⟩]

/-- Inconsistent as the node is, it has a plan that passes, and a build with it is the same. -/
theorem lowered_plans_pass_tangled :
    (∃ plan, tangled.lower = .ok plan ∧ plan.verify = .ok ()) ∧
    run ⟨true, none⟩ ⟨1, [tangled]⟩ .empty = run ⟨false, none⟩ ⟨1, [tangled]⟩ .empty :=
  ⟨⟨_, rfl, lowered_plans_pass.1 tangled _ (by decide) rfl⟩,
    (lowered_plans_pass.2 ⟨1, [tangled]⟩ none .empty (by simp [tangled])).1⟩

end Build

end CallChain
