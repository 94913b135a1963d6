import CallChain.Proofs.Build.Stopping
import CallChain.Proofs.Listings

/-! Rejections: what a build leaves behind when it rejects its document. A repeated id is found
before anything is written, but a node without a plan is only met after the listings of the nodes
before it. -/

namespace CallChain

/-- The faults of documents, as against those of the files that a build works with. -/
inductive BuildFault.InDocument : BuildFault → Prop where
  | duplicateNode (id : String) : InDocument (.duplicateNode id)
  | lowering (fault : LoweringFault) : InDocument (.lowering fault)

/-- Two trees have the same files when these stand at the same places with the same contents;
directories do not matter. -/
def FileTree.SameFiles (files after : FileTree) : Prop :=
  ∀ place content,
    after.entry? place = some (.file content) ↔ files.entry? place = some (.file content)

/-- There are no files in the empty tree. -/
theorem FileTree.entry?_empty_ne_file {place : Place} {content : Bytes} :
    FileTree.empty.entry? place ≠ some (.file content) := by
  intro stands
  unfold entry? at stands
  -- Only the root stands in it, and that is a directory.
  split at stands <;> simp [empty] at stands

namespace Build

open FileTree

/-- How far a build comes before a fault of its document rejects it: the expansions that it has
made of the nodes before. -/
inductive RejectsAfter (verify : Bool) (nodes : List Node) : List Expansion → BuildFault → Prop where
  /-- That an id is given twice is found before any node is lowered. -/
  | repeated {id : String} (again : Rejects nodes (.duplicateNode id)) :
      RejectsAfter verify nodes [] (.duplicateNode id)
  /-- Otherwise all nodes before the first without a plan have been expanded. -/
  | unlowered (before : List Node) (node : Node) (after : List Node) {expansions : List Expansion}
      {fault : LoweringFault} (distinct : (nodes.map Node.id).Nodup)
      (split : nodes = before ++ node :: after)
      (passes : ∀ earlier ∈ before, ∃ plan, earlier.lowerChecked verify = .ok plan)
      (plans : PlansOf before expansions) (failed : node.lowerChecked verify = .error fault) :
      RejectsAfter verify nodes expansions (.lowering fault)

variable {verify : Bool} {setting : Setting} {nodes : List Node} {expansions : List Expansion}
  {document : Document} {files left : FileTree} {home : Place} {fault : BuildFault}

/-- Nodes have one expansion each. -/
theorem PlansOf.unique {others : List Expansion} (plans : PlansOf nodes expansions)
    (again : PlansOf nodes others) : others = expansions := by
  -- The id of the node and its plan are all that an expansion has.
  have one : Relator.RightUnique fun (node : Node) (expansion : Expansion) =>
      expansion.nodeId = node.id ∧ node.lower = .ok expansion.plan := by
    rintro node ⟨_, plan⟩ ⟨_, other⟩ ⟨rfl, lowered⟩ ⟨rfl, loweredAgain⟩
    have same : plan = other := by simpa using lowered.symm.trans loweredAgain
    rw [same]
  exact one.forall₂ again plans

/-- The nodes before the first without a plan are those that a search for it goes over. -/
theorem takeWhile_lowered {before after : List Node} {node : Node} {cause : LoweringFault}
    (passes : ∀ earlier ∈ before, ∃ plan, earlier.lowerChecked verify = .ok plan)
    (failed : node.lowerChecked verify = .error cause) :
    (before ++ node :: after).takeWhile (fun other => (other.lowerChecked verify).isOk) =
      before := by
  have passed : ∀ earlier ∈ before, (earlier.lowerChecked verify).isOk = true := by
    intro earlier member
    obtain ⟨plan, lowered⟩ := passes earlier member
    rw [lowered]
    rfl
  rw [List.takeWhile_append_of_pos passed]
  simp [failed, Except.isOk, Except.toBool]

/-- How far a build comes is determined by the nodes. -/
theorem RejectsAfter.unique {others : List Expansion}
    (rejects : RejectsAfter verify nodes expansions fault)
    (again : RejectsAfter verify nodes others fault) : others = expansions := by
  cases rejects with
  | repeated _ =>
    cases again
    rfl
  | unlowered before node after _ split passes plans failed =>
    cases again with
    | unlowered otherBefore otherNode otherAfter _ otherSplit otherPasses otherPlans otherFailed =>
      -- Both searches for a node without a plan go over the same nodes.
      have same : otherBefore = before := by
        rw [← takeWhile_lowered passes failed, ← split, otherSplit,
          takeWhile_lowered otherPasses otherFailed]
      rw [same] at otherPlans
      exact plans.unique otherPlans

/-- The listing of an expansion stands in a directory. -/
def IsListed (files : FileTree) (home : Place) (expansion : Expansion) : Prop :=
  files.entry? (home ++ [listingName expansion.nodeId]) =
    some (.file (Text.toBytes expansion.plan.listing))

/-- Writing listings changes no file just if all that are not written over stood there before. -/
theorem Holds.sameFiles_iff (holds : Holds files left home expansions) :
    SameFiles files left ↔ ∀ last, IsLast expansions last → IsListed files home last := by
  constructor
  · intro same last isLast
    -- The listing stands there now, and what stands there now has stood there.
    have stands : IsListed left home last := (holds _ _).mpr (.inl ⟨last, isLast, rfl, rfl⟩)
    exact (same _ _).mp stands
  · intro listed place content
    rw [holds place content]
    constructor
    · intro stands
      obtain ⟨last, isLast, rfl, rfl⟩ | ⟨-, stood⟩ := stands
      · exact listed last isLast
      · exact stood
    · intro stood
      by_cases named : ∃ expansion ∈ expansions, place = home ++ [listingName expansion.nodeId]
      · -- The last listing of that name is what stood there, and is written once more.
        obtain ⟨expansion, member, rfl⟩ := named
        obtain ⟨last, isLast, same⟩ := exists_isLast member
        have stands := listed last isLast
        rw [IsListed, same, stood] at stands
        refine .inl ⟨last, isLast, by rw [same], ?_⟩
        simpa using stands
      · exact .inr ⟨fun expansion member placed => named ⟨expansion, member, placed⟩, stood⟩

/-- Nodes that are all lowered give the expansions that stand for them. -/
theorem plansOf_of_lowerNodes (built : (lowerNodes setting nodes files).result = .ok expansions) :
    PlansOf nodes expansions := by
  induction nodes generalizing files expansions with
  | nil =>
    cases built
    exact .nil
  | cons node rest ih =>
    obtain ⟨plan, after, others, lowered, -, lowers, rfl, -⟩ := lowerNodes_cons_eq_ok built
    exact .cons ⟨rfl, lowered⟩ (ih lowers)

/-- Without a directory for listings, lowering nodes leaves all files. -/
theorem files_of_lowerNodes_of_listings_eq_none (unlisted : setting.listings = none) :
    (lowerNodes setting nodes files).files = files := by
  have written : ∀ plan, writeListing setting plan files = (files, .ok ()) := by
    intro plan
    rw [writeListing, unlisted]
  induction nodes with
  | nil => rfl
  | cons node rest ih =>
    cases lowered : node.lowerChecked setting.verify with
    | error fault => simp only [lowerNodes, lowered]
    | ok plan => exact (lowerNodes_cons rest lowered (written plan)).2.trans ih

/-- A build that is rejected for a node leaves what lowering the nodes before it leaves. One that is
rejected for a repeated id leaves all as it was. -/
theorem exists_lowered_of_run (rejected : (run setting document files).result = .error fault)
    (own : fault.InDocument) :
    ∃ before expansions, (lowerNodes setting before files).result = .ok expansions ∧
      RejectsAfter setting.verify document.nodes expansions fault ∧
      (run setting document files).files = (lowerNodes setting before files).files := by
  unfold run at rejected ⊢
  -- The ids are looked through before the first node is lowered.
  cases scanned : firstRepeated? (document.nodes.map Node.id) with
  | some id =>
    rw [scanned] at rejected
    cases rejected
    exact ⟨[], [], rfl, .repeated (firstRepeated?_ids_eq_some_iff.mp scanned), rfl⟩
  | none =>
    simp only [scanned] at rejected ⊢
    -- A fault of the files is none of the document.
    cases stops_of_lowerNodes rejected with
    | directory cause => cases own
    | listing cause => cases own
    | @node before node after expansions cause split passes built left failed =>
      have distinct := firstRepeated?_eq_none_iff.mp scanned
      exact ⟨before, expansions, built, .unlowered before node after distinct split passes
        (plansOf_of_lowerNodes built) failed, left⟩

/-- A build that rejects its document has expanded the nodes before the one that it is rejected
for, or none if an id is given twice. Without any of these, or without a directory for listings, it
leaves everything as it was. Otherwise their listings are in the directory, and no other file is
new or changed. So a rejected build leaves the files as they were just if all the listings that it
has come to stood there already. -/
theorem rejected_run_keeps_files_iff (setting : Setting) (document : Document) (files : FileTree)
    (fault : BuildFault) (rejected : (run setting document files).result = .error fault)
    (own : fault.InDocument) :
    let left := (run setting document files).files
    ∃ listed, RejectsAfter setting.verify document.nodes listed fault ∧
      (setting.listings = none ∨ listed = [] → left = files) ∧
      ∀ directory, setting.listings = some directory →
        ∃ home, (listed ≠ [] → Opens left directory home) ∧ Holds files left home listed ∧
          (SameFiles files left ↔ ∀ last, IsLast listed last → IsListed files home last) := by
  obtain ⟨before, listed, built, rejects, same⟩ := exists_lowered_of_run rejected own
  intro left
  have plans := plansOf_of_lowerNodes built
  refine ⟨listed, rejects, ?_, ?_⟩
  · intro bare
    obtain unlisted | rfl := bare
    · exact same.trans (files_of_lowerNodes_of_listings_eq_none unlisted)
    · -- There are no nodes to lower, for each of them would have an expansion.
      cases plans
      exact same
  · intro directory wanted
    -- The nodes before are lowered without a fault, as if they were all that there is.
    have split : setting = ⟨setting.verify, some directory⟩ := by rw [← wanted]
    rw [split] at built
    obtain ⟨-, -, -, home, opens, holds⟩ := lowerNodes_listed built
    rw [← split, ← same] at opens holds
    refine ⟨home, ?_, holds, holds.sameFiles_iff⟩
    intro given
    apply opens
    -- Without nodes there would be no expansions.
    rintro rfl
    cases plans
    exact given rfl

/-- A node without slots that is ready to be lowered. -/
def ready (id : String) : Node :=
  { Node.new id with fixed := ⟨some "UI", some "Box", some 0⟩ }

/-- A node without a path, between two that are ready. -/
def interrupted : Document :=
  ⟨1, [ready "menu", .new "draft", ready "popup"]⟩

/-- The node without a path rejects the document. -/
theorem run_interrupted :
    (run ⟨true, some "out"⟩ interrupted .empty).result =
      .error (.lowering (.missingInput "draft" .path)) := by
  decide +kernel

/-- The listing of the node before the one without a path is left, where no file was. -/
theorem rejected_run_keeps_files_iff_interrupted :
    (run ⟨true, some "out"⟩ interrupted .empty).result =
      .error (.lowering (.missingInput "draft" .path)) ∧
    ∃ plan home, (ready "menu").lower = .ok plan ∧
      Opens (run ⟨true, some "out"⟩ interrupted .empty).files "out" home ∧
      IsListed (run ⟨true, some "out"⟩ interrupted .empty).files home ⟨"menu", plan⟩ ∧
      ¬ SameFiles .empty (run ⟨true, some "out"⟩ interrupted .empty).files := by
  obtain ⟨listed, rejects, -, lists⟩ := rejected_run_keeps_files_iff ⟨true, some "out"⟩
    interrupted .empty _ run_interrupted (.lowering _)
  obtain ⟨home, opens, holds, keeps⟩ := lists "out" rfl
  obtain ⟨plan, lowered⟩ : ∃ plan, (ready "menu").lower = .ok plan := ⟨_, rfl⟩
  -- The build comes just to the node without a path.
  have comes : RejectsAfter true interrupted.nodes [⟨"menu", plan⟩]
      (.lowering (.missingInput "draft" .path)) := by
    refine .unlowered [ready "menu"] (.new "draft") [ready "popup"] (by decide) rfl ?_
      (.cons ⟨rfl, lowered⟩ .nil) rfl
    rw [List.forall_mem_singleton, Node.lowerChecked_eq_lower (by decide)]
    exact ⟨plan, lowered⟩
  obtain rfl := comes.unique rejects
  have isLast : IsLast [⟨"menu", plan⟩] ⟨"menu", plan⟩ :=
    isLast_cons_iff.mpr (.inr ⟨rfl, by simp⟩)
  refine ⟨run_interrupted, plan, home, lowered, opens (by simp),
    (holds _ _).mpr (.inl ⟨_, isLast, rfl, rfl⟩), ?_⟩
  intro same
  -- Its listing would have stood in the empty tree.
  have stood := keeps.mp same _ isLast
  exact entry?_empty_ne_file stood

/-- A rejected build can leave files: those before the node that it is rejected for are listed. -/
theorem not_forall_rejected_run_keeps_files :
    ¬ ∀ (setting : Setting) (document : Document) (files : FileTree) (fault : BuildFault),
      (run setting document files).result = .error fault → fault.InDocument →
      SameFiles files (run setting document files).files := by
  intro kept
  have same := kept ⟨true, some "out"⟩ interrupted .empty _ run_interrupted (.lowering _)
  -- A file stands where the listing of the first node belongs.
  cases stands : (run ⟨true, some "out"⟩ interrupted .empty).files.entry?
      ["out", "plan_menu.txt"] with
  | none => exact absurd stands (by decide +kernel)
  | some entry =>
    cases entry with
    | directory => exact absurd stands (by decide +kernel)
    | file content => exact entry?_empty_ne_file ((same _ _).mp stands)

end Build

end CallChain
