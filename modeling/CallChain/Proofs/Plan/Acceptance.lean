import CallChain.Proofs.Node.Consistency
import CallChain.Proofs.Plan.Chain
import CallChain.Proofs.Sequence

/-! Chains pass the structural check: what each of its stages needs of their steps. -/

namespace CallChain

namespace Redirect

/-- The pins whose links are moved, in order. -/
def movedPins (redirects : List Redirect) : List Pin :=
  (redirects.filter fun redirect => redirect.action = .moved).map Redirect.pin

/-- The pins moved by redirects in a row are those moved by the first and then the second. -/
theorem movedPins_append (first second : List Redirect) :
    movedPins (first ++ second) = movedPins first ++ movedPins second := by
  simp [movedPins]

end Redirect

namespace Plan

/-- A numbered step passes when its inputs are distinct and each of them is fed soundly. -/
theorem checkStep_eq_ok {plan : Plan} (numbered : Numbered plan.steps) {done rest : List Step}
    {step : Step} (split : plan.steps = done ++ step :: rest)
    (distinct : (step.inputs.map FedInput.input).Nodup)
    (fed : ∀ entry ∈ step.inputs, plan.checkFeed step entry = .ok ()) :
    plan.checkStep done.length step = .ok () := by
  have unrepeated := firstRepeated?_eq_none_iff.mpr distinct
  simp [checkStep, numbered.id_eq split, unrepeated, forM_eq_ok fed]

/-- Steps pass when each of them does. -/
theorem checkSteps_eq_ok {plan : Plan} {done rest : List Step} (split : plan.steps = done ++ rest)
    (passes : ∀ {before after : List Step} {step : Step}, plan.steps = before ++ step :: after →
      plan.checkStep before.length step = .ok ()) :
    plan.checkSteps done.length rest = .ok () := by
  induction rest generalizing done with
  | nil => rfl
  | cons step rest ih =>
    have head := passes split
    -- The step that passed joins the ones before it.
    have tail := @ih (done ++ [step]) (by simp [split])
    rw [List.length_append, List.length_singleton] at tail
    simp [checkSteps, head, tail, Bind.bind, Except.bind]

/-- An input is fed soundly by an output of an earlier step. -/
theorem checkFeed_earlier {plan : Plan} {step producer : Step} {entry : FedInput}
    (feed : entry.feed = .step producer.id producer.call.output)
    (found : plan.step? producer.id = some producer) (earlier : producer.id.raw < step.id.raw) :
    plan.checkFeed step entry = .ok () := by
  simp [checkFeed, feed, found, earlier, Option.filter_some]

/-- An input is fed soundly by a link that a redirect leads to it. -/
theorem checkFeed_recorded {plan : Plan} {step : Step} {entry : FedInput} {redirect : Redirect}
    (recorded : redirect ∈ plan.redirects) (target : redirect.target = step.id)
    (input : redirect.input = entry.input) (feed : entry.feed = .linked redirect.source) :
    plan.checkFeed step entry = .ok () := by
  have found : plan.redirects.any (fun other => other.target == step.id &&
      other.input == entry.input && other.source == redirect.source) = true :=
    List.any_eq_true.mpr ⟨redirect, recorded, by simp [target, input]⟩
  simp [checkFeed, feed, found]

/-- Redirects pass when each ends in an input with its source and no link moves twice. -/
theorem checkRedirects_eq_ok {plan : Plan} {moved : List Pin} {redirects : List Redirect}
    (fed : ∀ redirect ∈ redirects, ∃ target, plan.step? redirect.target = some target ∧
      target.feed? redirect.input = some (.linked redirect.source))
    (distinct : (Redirect.movedPins redirects).Nodup)
    (fresh : ∀ pin ∈ Redirect.movedPins redirects, pin ∉ moved) :
    plan.checkRedirects moved redirects = .ok () := by
  -- The pins moved so far are carried along, and none of them is moved again.
  induction redirects generalizing moved with
  | nil => rfl
  | cons redirect rest ih =>
    obtain ⟨target, found, reads⟩ := fed redirect (by simp)
    have later := fun other member => fed other (List.mem_cons_of_mem redirect member)
    simp only [checkRedirects, found, reads, ne_eq, not_true_eq_false, if_false]
    by_cases taken : redirect.action = .moved
    · -- The pin is new among the moved ones, and none of the rest moves it again.
      have first : Redirect.movedPins (redirect :: rest) =
          redirect.pin :: Redirect.movedPins rest := by simp [Redirect.movedPins, taken]
      rw [first] at distinct fresh
      obtain ⟨once, others⟩ := List.nodup_cons.mp distinct
      have unmoved := fresh redirect.pin (by simp)
      simp only [taken, if_true, unmoved, if_false]
      refine ih later others fun pin member => ?_
      rw [List.mem_cons, not_or]
      refine ⟨?_, fresh pin (by simp [member])⟩
      rintro rfl
      exact once member
    · have same : Redirect.movedPins (redirect :: rest) = Redirect.movedPins rest := by
        simp [Redirect.movedPins, taken]
      rw [same] at distinct fresh
      simpa [taken] using ih later distinct fresh

namespace IsChain

variable {plan : Plan} {done rest : List Step} {step : Step}

/-- The edges made for a step of a chain lead out of it or onwards. -/
theorem checkEdge_eq_ok (chain : plan.IsChain) (split : plan.steps = done ++ step :: rest) :
    ∀ edge ∈ edgesFrom step (goalOf rest), plan.checkEdge step edge = .ok () := by
  -- Both shapes of edges lead to the next step, and else straight out.
  have onward : ∀ guard, plan.checkEdge step ⟨step.id, goalOf rest, guard⟩ = .ok () := by
    intro guard
    cases leads : goalOf rest with
    | exit => rfl
    | step id =>
      obtain ⟨forward, found⟩ := chain.goal_forward split leads
      have kept : ¬ id.raw ≤ step.id.raw := UInt32.not_le.mpr forward
      simp [checkEdge, kept, Option.isSome_iff_ne_none.mp found]
  intro edge member
  unfold edgesFrom at member
  split at member
  · simp only [List.mem_cons, List.not_mem_nil, or_false] at member
    rcases member with rfl | rfl
    · exact onward _
    · rfl
  · rw [List.mem_singleton.mp member]
    exact onward _

/-- Just the step that asks for the item branches. -/
theorem checkBranch_eq_ok (chain : plan.IsChain) (split : plan.steps = done ++ step :: rest)
    (guarded : step.id = createId → step.call = .createOrShow) :
    plan.checkBranch step = .ok (step.id == createId) := by
  have edges := forM_eq_ok (chain.checkEdge_eq_ok split)
  simp only [checkBranch, chain.successors_eq split, edges, Bind.bind, Except.bind]
  by_cases asks : step.id = createId
  · simp [edgesFrom, asks, guarded asks, Pure.pure, Except.pure]
  · simp [edgesFrom, asks, Pure.pure, Except.pure]

/-- While handles are valid, a chain goes on with the next step. -/
theorem nextWhenValid?_eq (chain : plan.IsChain) (split : plan.steps = done ++ step :: rest) :
    plan.nextWhenValid? step.id = rest.head?.map Step.id := by
  rw [nextWhenValid?, chain.successors_eq split]
  cases rest <;> by_cases asks : step.id = createId <;> simp [edgesFrom, goalOf, asks]

/-- From any of its steps, a chain reaches all the later ones. -/
theorem reachFrom_eq (chain : plan.IsChain) (split : plan.steps = done ++ rest) {fuel : Nat}
    (enough : rest.length < fuel) :
    plan.reachFrom fuel (rest.head?.map Step.id) = rest.length := by
  -- Each step takes one turn and leads to the one after it.
  induction rest generalizing done fuel with
  | nil => cases fuel <;> rfl
  | cons step rest ih =>
    obtain ⟨fuel, rfl⟩ : ∃ less, fuel = less + 1 := ⟨fuel - 1, by omega⟩
    rw [List.length_cons] at enough
    have onward : plan.steps = (done ++ [step]) ++ rest := by simp [split]
    have tail := ih onward (show rest.length < fuel by omega)
    simp only [List.head?_cons, Option.map_some, reachFrom, chain.nextWhenValid?_eq split, tail,
      List.length_cons]
    omega

/-- The control of a chain passes when one of its steps asks for the item. -/
theorem checkControl_eq_ok (chain : plan.IsChain)
    (guarded : ∀ step ∈ plan.steps, step.id = createId → step.call = .createOrShow)
    (once : (plan.steps.map Step.id).count createId = 1) : plan.checkControl = .ok () := by
  have branches : plan.steps.mapM plan.checkBranch =
      .ok (plan.steps.map fun step => step.id == createId) := by
    refine mapM_eq_map fun step member => ?_
    obtain ⟨done, rest, split⟩ := List.append_of_mem member
    exact chain.checkBranch_eq_ok split (guarded step member)
  -- A step branches exactly when it has the id of the call that asks for the item.
  have count : (plan.steps.map fun step => step.id == createId).count true = 1 := by
    rw [← once, List.count_eq_countP, List.count_eq_countP, List.countP_map, List.countP_map]
    simp [Function.comp_def]
  have reached := chain.reachFrom_eq (List.nil_append plan.steps).symm (Nat.lt_succ_self _)
  simp [checkControl, branches, count, reached, entry?, Bind.bind, Except.bind, Pure.pure,
    Except.pure]

end IsChain

end Plan

end CallChain
