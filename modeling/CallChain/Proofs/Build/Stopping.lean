import CallChain.Build

/-! Builds that stop: the fault that ends the lowering of nodes, and what has been done by then. -/

namespace CallChain.Build

variable {setting : Setting} {node : Node} {nodes rest : List Node} {plan : Plan}
  {files after : FileTree} {fault : BuildFault}

/-- Writing a listing fails for the directory or for the listing itself, never for the plan. -/
theorem fault_of_writeListing (failed : writeListing setting plan files = (after, .error fault)) :
    ∃ own, fault = .directory own ∨ fault = .listing own := by
  unfold writeListing at failed
  -- The directory is made first, and the listing is written if there is one.
  split at failed
  · cases failed
  · split at failed
    · cases failed
      exact ⟨_, .inl rfl⟩
    · simp only at failed
      split at failed
      · cases failed
        exact ⟨_, .inr rfl⟩
      · cases failed

/-- A node that is lowered and listed adds its expansion, and the rest goes on from the files that
it leaves. -/
theorem lowerNodes_cons (rest : List Node)
    (lowered : node.lowerChecked setting.verify = .ok plan)
    (written : writeListing setting plan files = (after, .ok ())) :
    (lowerNodes setting (node :: rest) files).result =
        (lowerNodes setting rest after).result.map (⟨node.id, plan⟩ :: ·) ∧
      (lowerNodes setting (node :: rest) files).files = (lowerNodes setting rest after).files := by
  constructor <;> simp only [lowerNodes, lowered, written]

/-- Why the lowering of nodes stops, and where. -/
inductive Stops (setting : Setting) (nodes : List Node) (files : FileTree) : BuildFault → Prop where
  | directory (fault : FileFault) : Stops setting nodes files (.directory fault)
  | listing (fault : FileFault) : Stops setting nodes files (.listing fault)
  /-- A node has no plan. Those before it are all lowered, and what this leaves is left. -/
  | node (before : List Node) (node : Node) (after : List Node) {expansions : List Expansion}
      {fault : LoweringFault} (split : nodes = before ++ node :: after)
      (passes : ∀ earlier ∈ before, ∃ plan, earlier.lowerChecked setting.verify = .ok plan)
      (built : (lowerNodes setting before files).result = .ok expansions)
      (left : (lowerNodes setting nodes files).files = (lowerNodes setting before files).files)
      (failed : node.lowerChecked setting.verify = .error fault) :
      Stops setting nodes files (.lowering fault)

/-- One more node in front, which is lowered and listed, does not keep the others from stopping
where they stop. -/
theorem Stops.cons (lowered : node.lowerChecked setting.verify = .ok plan)
    (written : writeListing setting plan files = (after, .ok ()))
    (stops : Stops setting rest after fault) : Stops setting (node :: rest) files fault := by
  cases stops with
  | directory cause => exact .directory cause
  | listing cause => exact .listing cause
  | @node before last behind expansions cause split passes built left failed =>
    obtain ⟨result, leaves⟩ := lowerNodes_cons before lowered written
    -- The nodes before the last are now those before it and the one in front.
    have whole : node :: rest = (node :: before) ++ last :: behind := by
      rw [split, List.cons_append]
    have allPass := List.forall_mem_cons.mpr ⟨⟨plan, lowered⟩, passes⟩
    have allBuilt : (lowerNodes setting (node :: before) files).result =
        .ok (⟨node.id, plan⟩ :: expansions) := by
      rw [result, built]
      rfl
    have allLeft : (lowerNodes setting (node :: rest) files).files =
        (lowerNodes setting (node :: before) files).files := by
      rw [leaves, (lowerNodes_cons rest lowered written).2, left]
    exact .node (node :: before) last behind whole allPass allBuilt allLeft failed

/-- Nodes that are not all lowered stop with the fault that they report. -/
theorem stops_of_lowerNodes (failed : (lowerNodes setting nodes files).result = .error fault) :
    Stops setting nodes files fault := by
  -- The files change from node to node, so the fault is traced through any state of them.
  induction nodes generalizing files with
  | nil => cases failed
  | cons node rest ih =>
    cases lowered : node.lowerChecked setting.verify with
    | error own =>
      simp only [lowerNodes, lowered] at failed
      cases failed
      -- Nothing has been done before the first node.
      exact .node [] node rest rfl (by simp) rfl (by simp only [lowerNodes, lowered]) lowered
    | ok plan =>
      rcases written : writeListing setting plan files with ⟨after, own | _⟩
      · simp only [lowerNodes, lowered, written] at failed
        cases failed
        obtain ⟨cause, rfl | rfl⟩ := fault_of_writeListing written
        · exact .directory cause
        · exact .listing cause
      · -- The node itself is through, so the fault is that of a later one.
        rw [(lowerNodes_cons rest lowered written).1] at failed
        cases others : (lowerNodes setting rest after).result with
        | ok expansions => simp [others, Except.map] at failed
        | error later =>
          have same : later = fault := by simpa [others, Except.map] using failed
          exact (ih (same ▸ others)).cons lowered written

end CallChain.Build
