import CallChain.Proofs.Lowering.Verified
import CallChain.Proofs.Node.Consistency
import CallChain.Proofs.Sequence

/-! Builds without listings: the plan of each node in document order, or the fault that rejects
the document. -/

namespace CallChain.Build

/-- The expansions that stand for nodes: one for each, in order, with the plan that the node has
on its own. -/
def PlansOf (nodes : List Node) (expansions : List Expansion) : Prop :=
  List.Forall₂
    (fun node expansion => expansion.nodeId = node.id ∧ node.lower = .ok expansion.plan)
    nodes expansions

/-- The fault that rejects nodes. -/
inductive Rejects (nodes : List Node) : BuildFault → Prop where
  /-- Some id is given twice; of all such ids, this one has its second occurrence first. What else
  is wrong with the nodes does not matter. -/
  | repeated (before : List Node) (node : Node) (after : List Node)
      (split : nodes = before ++ node :: after) (distinct : (before.map Node.id).Nodup)
      (again : node.id ∈ before.map Node.id) : Rejects nodes (.duplicateNode node.id)
  /-- No id is given twice, and this is the fault of the first node that has no plan. -/
  | unlowered (before : List Node) (node : Node) (after : List Node) {fault : LoweringFault}
      (distinct : (nodes.map Node.id).Nodup) (split : nodes = before ++ node :: after)
      (passes : ∀ earlier ∈ before, ∃ plan, earlier.lower = .ok plan)
      (failed : node.lower = .error fault) : Rejects nodes (.lowering fault)

/-- The expansion of a node. -/
def expand (node : Node) : Except LoweringFault Expansion :=
  node.lower.map fun plan => ⟨node.id, plan⟩

/-- A node expands to its id and its plan. -/
theorem expand_eq_ok_iff {node : Node} {expansion : Expansion} :
    expand node = .ok expansion ↔
      expansion.nodeId = node.id ∧ node.lower = .ok expansion.plan := by
  rw [expand, map_eq_ok_iff]
  constructor
  · rintro ⟨plan, lowered, rfl⟩
    exact ⟨rfl, lowered⟩
  · rintro ⟨named, lowered⟩
    exact ⟨expansion.plan, lowered, by rw [← named]⟩

/-- A node has no expansion for the reason that it has no plan. -/
theorem expand_eq_error_iff {node : Node} {fault : LoweringFault} :
    expand node = .error fault ↔ node.lower = .error fault := by
  unfold expand
  cases node.lower <;> simp [Except.map]

/-- A node has an expansion when it has a plan. -/
theorem expand_succeeds_iff {node : Node} :
    (∃ expansion, expand node = .ok expansion) ↔ ∃ plan, node.lower = .ok plan := by
  constructor
  · rintro ⟨expansion, expanded⟩
    exact ⟨expansion.plan, (expand_eq_ok_iff.mp expanded).2⟩
  · rintro ⟨plan, lowered⟩
    exact ⟨⟨node.id, plan⟩, expand_eq_ok_iff.mpr ⟨rfl, lowered⟩⟩

variable {verify : Bool} {nodes : List Node} {files : FileTree}

/-- Lowering nodes without listings expands them one after the other, and leaves all files. -/
theorem lowerNodes_eq_expand
    (small : ∀ node ∈ nodes, node.slots.entries.length ≤ 4294967294) :
    (lowerNodes ⟨verify, none⟩ nodes files).result =
        (nodes.mapM expand).mapError BuildFault.lowering ∧
      (lowerNodes ⟨verify, none⟩ nodes files).files = files := by
  induction nodes with
  | nil => exact ⟨rfl, rfl⟩
  | cons node rest ih =>
    have own := small node (by simp)
    obtain ⟨result, left⟩ := ih fun other member => small other (by simp [member])
    -- The first node is lowered on its own, and what comes of the rest is added to it.
    rw [List.mapM_cons, lowerNodes, Node.lowerChecked_eq_lower own, expand]
    cases node.lower with
    | error fault => exact ⟨rfl, rfl⟩
    | ok plan =>
      refine ⟨?_, left⟩
      show (lowerNodes ⟨verify, none⟩ rest files).result.map (⟨node.id, plan⟩ :: ·) = _
      rw [result]
      cases rest.mapM expand <;> rfl

/-- Nodes that are lowered without listings give just the expansions that stand for them. -/
theorem lowerNodes_eq_ok_iff
    (small : ∀ node ∈ nodes, node.slots.entries.length ≤ 4294967294)
    {expansions : List Expansion} :
    (lowerNodes ⟨verify, none⟩ nodes files).result = .ok expansions ↔
      PlansOf nodes expansions := by
  rw [(lowerNodes_eq_expand small).1, mapError_eq_ok_iff, mapM_eq_ok_iff, PlansOf]
  simp only [expand_eq_ok_iff]

/-- Nodes that cannot be lowered have the fault of the first that has no plan. -/
theorem lowerNodes_eq_error_iff
    (small : ∀ node ∈ nodes, node.slots.entries.length ≤ 4294967294) {fault : BuildFault} :
    (lowerNodes ⟨verify, none⟩ nodes files).result = .error fault ↔
      ∃ before node after own, nodes = before ++ node :: after ∧
        (∀ earlier ∈ before, ∃ plan, earlier.lower = .ok plan) ∧
        node.lower = .error own ∧ fault = .lowering own := by
  rw [(lowerNodes_eq_expand small).1]
  constructor
  · -- The fault of the build wraps that of the first node without an expansion.
    intro failed
    cases expanded : nodes.mapM expand with
    | ok expansions => simp [expanded, Except.mapError] at failed
    | error own =>
      have told : BuildFault.lowering own = fault := by
        simpa [expanded, Except.mapError] using failed
      obtain ⟨before, node, after, split, passes, raised⟩ := mapM_eq_error_iff.mp expanded
      exact ⟨before, node, after, own, split,
        fun earlier member => expand_succeeds_iff.mp (passes earlier member),
        expand_eq_error_iff.mp raised, told.symm⟩
  · rintro ⟨before, node, after, own, split, passes, raised, rfl⟩
    have expanded : nodes.mapM expand = .error own :=
      mapM_eq_error_iff.mpr ⟨before, node, after, split,
        fun earlier member => expand_succeeds_iff.mpr (passes earlier member),
        expand_eq_error_iff.mpr raised⟩
    rw [expanded]
    rfl

/-- Each of some nodes has a plan exactly when there are expansions that stand for them. -/
theorem exists_plansOf_iff :
    (∃ expansions, PlansOf nodes expansions) ↔ ∀ node ∈ nodes, ∃ plan, node.lower = .ok plan := by
  induction nodes with
  | nil => simp [PlansOf]
  | cons node rest ih =>
    simp only [List.forall_mem_cons, ← ih]
    constructor
    · rintro ⟨expansions, matched⟩
      cases matched with
      | cons head tail => exact ⟨⟨_, head.2⟩, ⟨_, tail⟩⟩
    · rintro ⟨⟨plan, lowered⟩, ⟨expansions, tail⟩⟩
      exact ⟨⟨node.id, plan⟩ :: expansions, .cons ⟨rfl, lowered⟩ tail⟩

variable {document : Document}

/-- A build without listings succeeds just with the expansions of its nodes, whose ids differ. -/
theorem run_eq_ok_iff
    (small : ∀ node ∈ document.nodes, node.slots.entries.length ≤ 4294967294)
    {expansions : List Expansion} :
    (run ⟨verify, none⟩ document files).result = .ok expansions ↔
      (document.nodes.map Node.id).Nodup ∧ PlansOf document.nodes expansions := by
  unfold run
  cases scanned : firstRepeated? (document.nodes.map Node.id) with
  | none =>
    have distinct := firstRepeated?_eq_none_iff.mp scanned
    simp only [lowerNodes_eq_ok_iff small, distinct, true_and]
  | some id =>
    -- An id that is found again keeps the ids from being different.
    have repeated : ¬ (document.nodes.map Node.id).Nodup := by
      rw [← firstRepeated?_eq_none_iff, scanned]
      simp
    simp [repeated]

/-- The id that the scan for repeats finds is that of a node after which nothing else matters. -/
theorem firstRepeated?_ids_eq_some_iff {id : String} :
    firstRepeated? (nodes.map Node.id) = some id ↔ Rejects nodes (.duplicateNode id) := by
  rw [firstRepeated?_eq_some_iff]
  constructor
  · rintro ⟨earlier, later, split, distinct, again⟩
    -- The ids before and after are those of the nodes before and after.
    obtain ⟨before, rest, rfl, rfl, others⟩ := List.map_eq_append_iff.mp split
    obtain ⟨node, after, rfl, rfl, rfl⟩ := List.map_eq_cons_iff.mp others
    exact .repeated before node after rfl distinct again
  · rintro ⟨before, node, after, split, distinct, again⟩
    exact ⟨_, _, by rw [split, List.map_append, List.map_cons], distinct, again⟩

/-- A build without listings fails just with the fault that rejects its nodes. -/
theorem run_eq_error_iff
    (small : ∀ node ∈ document.nodes, node.slots.entries.length ≤ 4294967294)
    {fault : BuildFault} :
    (run ⟨verify, none⟩ document files).result = .error fault ↔ Rejects document.nodes fault := by
  unfold run
  cases scanned : firstRepeated? (document.nodes.map Node.id) with
  | none =>
    have distinct := firstRepeated?_eq_none_iff.mp scanned
    simp only [lowerNodes_eq_error_iff small]
    constructor
    · rintro ⟨before, node, after, own, split, passes, failed, rfl⟩
      exact .unlowered before node after distinct split passes failed
    · intro rejects
      cases rejects with
      | repeated before node after split different again =>
        -- There is no such id, for the scan has found none.
        have found := firstRepeated?_ids_eq_some_iff.mpr
          (.repeated before node after split different again)
        rw [scanned] at found
        cases found
      | unlowered before node after _ split passes failed =>
        exact ⟨before, node, after, _, split, passes, failed, rfl⟩
  | some id =>
    have rejects := firstRepeated?_ids_eq_some_iff.mp scanned
    simp only [Except.error.injEq]
    constructor
    · rintro rfl
      exact rejects
    · intro other
      cases other with
      | repeated before node after split different again =>
        have found := firstRepeated?_ids_eq_some_iff.mpr
          (.repeated before node after split different again)
        rw [scanned, Option.some.injEq] at found
        rw [found]
      | unlowered before node after distinct split passes failed =>
        -- A fault of a node alone is not reported while some id is given twice.
        rw [firstRepeated?_eq_none_iff.mpr distinct] at scanned
        cases scanned

/-- A build without listings is all or nothing. It succeeds exactly when all ids are different and
every node has a plan, and then it gives each node's own plan, in document order. Otherwise it
reports the id that is first given again, whatever else is wrong, or else the fault of the first
node that has no plan. It makes no difference whether plans are checked, and no file is touched. -/
theorem run_all_or_nothing (document : Document)
    (small : ∀ node ∈ document.nodes, node.slots.entries.length ≤ 4294967294)
    (verify : Bool) (files : FileTree) :
    ((∃ expansions, (run ⟨verify, none⟩ document files).result = .ok expansions) ↔
      (document.nodes.map Node.id).Nodup ∧
        ∀ node ∈ document.nodes, ∃ plan, node.lower = .ok plan) ∧
    (∀ expansions, (run ⟨verify, none⟩ document files).result = .ok expansions ↔
      (document.nodes.map Node.id).Nodup ∧ PlansOf document.nodes expansions) ∧
    (∀ fault, (run ⟨verify, none⟩ document files).result = .error fault ↔
      Rejects document.nodes fault) ∧
    (run ⟨verify, none⟩ document files).files = files := by
  refine ⟨?_, fun expansions => run_eq_ok_iff small, fun fault => run_eq_error_iff small, ?_⟩
  · simp only [run_eq_ok_iff small, exists_and_left, exists_plansOf_iff]
  · -- A document with a repeated id is rejected before any node is looked at.
    unfold run
    split
    · rfl
    · exact (lowerNodes_eq_expand small).2

/-- Two nodes that have no plan, then one that repeats an id of the first two. -/
def contested : Document :=
  ⟨1, [.new "menu", .new "popup", .new "menu"]⟩

/-- The repeated id is reported, although the node that gives it first has no plan either. Without
the last node it is the fault of the first, whose path is missing. -/
theorem run_all_or_nothing_contested :
    (run ⟨true, none⟩ contested .empty).result = .error (.duplicateNode "menu") ∧
    (run ⟨true, none⟩ ⟨1, contested.nodes.take 2⟩ .empty).result =
      .error (.lowering (.missingInput "menu" .path)) :=
  have repeated := run_all_or_nothing contested (by decide) true .empty
  have alone := run_all_or_nothing ⟨1, contested.nodes.take 2⟩ (by decide) true .empty
  ⟨(repeated.2.2.1 _).mpr
      (.repeated [.new "menu", .new "popup"] (.new "menu") [] rfl (by decide) (by decide)),
    (alone.2.2.1 _).mpr
      (.unlowered [] (.new "menu") [.new "popup"] (by decide) rfl (by simp) rfl)⟩

end CallChain.Build
