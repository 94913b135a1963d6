import CallChain.Proofs.Build
import CallChain.Proofs.Codec.Faithful
import CallChain.Proofs.Directories

/-! Listings: which of them a build leaves behind when several nodes have the same name for
theirs. -/

namespace CallChain.Build

open FileTree

/-- The path of the listing of a node. -/
def listingPath (directory nodeId : String) : String :=
  FileTree.join directory (listingName nodeId)

/-- What the name of a listing keeps of a node's id. -/
def kept (nodeId : String) : List Char :=
  nodeId.toList.filter fun c => Text.isAlphanumeric c || c == '_'

/-- The characters of a listing's name: those kept of the id stand between two fixed texts. -/
theorem toList_listingName (nodeId : String) :
    (listingName nodeId).toList =
      'p' :: 'l' :: 'a' :: 'n' :: '_' :: (kept nodeId ++ ".txt".toList) := by
  have parts : (listingName nodeId).toList =
      "plan_".toList ++ (String.ofList (kept nodeId)).toList ++ ".txt".toList := by
    rw [← String.toList_append, ← String.toList_append]
    rfl
  simpa using parts

/-- Two listings have the same name exactly when the same is kept of the ids of their nodes. -/
theorem listingName_eq_iff {first second : String} :
    listingName first = listingName second ↔ kept first = kept second := by
  rw [← String.toList_inj, toList_listingName, toList_listingName]
  simp

/-- The name of a listing is that of an entry, for nothing else of the id is kept. -/
theorem listingName_isEntryName (nodeId : String) : IsEntryName (listingName nodeId) where
  whole := by
    -- A slash is neither a letter, nor a number, nor an underscore.
    have dropped : (Text.isAlphanumeric '/' || '/' == '_') = false := by decide
    have absent : '/' ∉ kept nodeId := by
      intro member
      rw [kept, List.mem_filter, dropped] at member
      cases member.2
    simp [toList_listingName, absent]
  given same := by simpa [toList_listingName] using congrArg String.toList same
  notSame same := by simpa [toList_listingName] using congrArg String.toList same
  notAbove same := by simpa [toList_listingName] using congrArg String.toList same

variable {verify : Bool} {directory : String} {files after : FileTree} {home : Place}

/-- A listing that is written is put into the directory, which is made if need be. Apart from it
the files stay as they were. -/
theorem writeListing_eq_ok {plan : Plan}
    (written : writeListing ⟨verify, some directory⟩ plan files = (after, .ok ())) :
    Reachable directory (listingName plan.nodeId) ∧
      ∃ home, Opens after directory home ∧
        (∀ other, Opens files directory other → Opens after directory other) ∧
        ∀ place content, after.entry? place = some (.file content) ↔
          (place = home ++ [listingName plan.nodeId] ∧ content = Text.toBytes plan.listing) ∨
            (place ≠ home ++ [listingName plan.nodeId] ∧
              files.entry? place = some (.file content)) := by
  have grown : Grows files (files.makeDirectory directory).1 := makeDirectory_grows directory
  unfold writeListing at written
  simp only at written
  split at written
  · cases written
  next made outcome =>
    rw [outcome] at grown
    split at written
    · cases written
    next tree stored =>
      cases written
      obtain ⟨reachable, home, opened, vacant, rfl⟩ :=
        write_join_eq_ok (listingName_isEntryName _) stored
      refine ⟨reachable, home, opened.of_directories rfl (entry?_put_file vacant), ?_, ?_⟩
      · -- What could be opened before can be opened in the grown tree, and with the file put in it.
        intro other earlier
        have between := earlier.of_directories grown.working grown.kept
        exact between.of_directories rfl (entry?_put_file vacant)
      · intro place content
        rw [entry?_put_file_iff vacant]
        -- Making the directory has added no file.
        have same : made.entry? place = some (.file content) ↔
            files.entry? place = some (.file content) := ⟨grown.sameFiles, grown.kept⟩
        rw [same]

/-- An expansion is the last of its listing's name when no later one has a listing of that name. -/
def IsLast (expansions : List Expansion) (last : Expansion) : Prop :=
  ∃ before after, expansions = before ++ last :: after ∧
    ∀ later ∈ after, listingName later.nodeId ≠ listingName last.nodeId

/-- The last expansion of a name is one of the expansions. -/
theorem IsLast.mem {expansions : List Expansion} {last : Expansion}
    (isLast : IsLast expansions last) : last ∈ expansions := by
  obtain ⟨before, after, split, _⟩ := isLast
  simp [split]

/-- With one expansion more in front, that one is the last of its name if none of the others has
the name; apart from that nothing changes. -/
theorem isLast_cons_iff {first last : Expansion} {rest : List Expansion} :
    IsLast (first :: rest) last ↔
      IsLast rest last ∨
        (last = first ∧ ∀ later ∈ rest, listingName later.nodeId ≠ listingName first.nodeId) := by
  constructor
  · intro found
    obtain ⟨before, after, split, alone⟩ := found
    cases before with
    | nil =>
      obtain ⟨rfl, rfl⟩ := List.cons_eq_cons.mp split
      exact .inr ⟨rfl, alone⟩
    | cons other before =>
      obtain ⟨rfl, rfl⟩ := List.cons_eq_cons.mp split
      exact .inl ⟨before, after, rfl, alone⟩
  · intro found
    obtain ⟨before, after, rfl, alone⟩ | ⟨rfl, alone⟩ := found
    · exact ⟨first :: before, after, rfl, alone⟩
    · exact ⟨[], rest, rfl, alone⟩

/-- The files of a tree after the listings of expansions were written to a directory: under each
name the listing of the last expansion of that name, and elsewhere what was there before. -/
def Holds (files after : FileTree) (home : Place) (expansions : List Expansion) : Prop :=
  ∀ place content, after.entry? place = some (.file content) ↔
    (∃ last, IsLast expansions last ∧ place = home ++ [listingName last.nodeId] ∧
      content = Text.toBytes last.plan.listing) ∨
    ((∀ expansion ∈ expansions, place ≠ home ++ [listingName expansion.nodeId]) ∧
      files.entry? place = some (.file content))

/-- A listing that is written before others stays just if none of them has its name. -/
theorem Holds.cons {between : FileTree} {first : Expansion} {rest : List Expansion}
    (wrote : ∀ place content, between.entry? place = some (.file content) ↔
      (place = home ++ [listingName first.nodeId] ∧ content = Text.toBytes first.plan.listing) ∨
        (place ≠ home ++ [listingName first.nodeId] ∧
          files.entry? place = some (.file content)))
    (holds : Holds between after home rest) : Holds files after home (first :: rest) := by
  intro place content
  rw [holds place content, wrote place content]
  simp only [isLast_cons_iff, List.forall_mem_cons]
  constructor
  · intro stands
    obtain ⟨last, isLast, placed, told⟩ | ⟨apart, ⟨rfl, told⟩ | ⟨different, stood⟩⟩ := stands
    · exact .inl ⟨last, .inl isLast, placed, told⟩
    · -- The first listing is still there, so nothing was written over it.
      refine .inl ⟨first, .inr ⟨rfl, ?_⟩, rfl, told⟩
      intro later member same
      exact apart later member (by rw [same])
    · exact .inr ⟨⟨different, apart⟩, stood⟩
  · intro stands
    obtain ⟨last, isLast | ⟨rfl, alone⟩, placed, told⟩ | ⟨⟨different, apart⟩, stood⟩ := stands
    · exact .inl ⟨last, isLast, placed, told⟩
    · refine .inr ⟨?_, .inl ⟨placed, told⟩⟩
      intro later member same
      have named : listingName last.nodeId = listingName later.nodeId := by
        simpa using placed.symm.trans same
      exact alone later member named.symm
    · exact .inr ⟨apart, .inr ⟨different, stood⟩⟩

/-- A node that is lowered and checked has its plan. -/
theorem lower_of_lowerChecked {node : Node} {plan : Plan}
    (lowered : node.lowerChecked verify = .ok plan) : node.lower = .ok plan := by
  obtain ⟨found, lowered, checked⟩ := bind_eq_ok_iff.mp lowered
  -- The check only lets the plan pass or not.
  have same : found = plan := by
    split at checked
    · split at checked
      · cases checked
      · exact pure_eq_ok_iff.mp checked
    · exact pure_eq_ok_iff.mp checked
  rw [← same]
  exact lowered

/-- When nodes are all lowered with their listings, the first node has a plan, of which the
listing is written before the others are lowered. -/
theorem lowerNodes_cons_eq_ok {setting : Setting} {node : Node} {rest : List Node}
    {expansions : List Expansion}
    (built : (lowerNodes setting (node :: rest) files).result = .ok expansions) :
    ∃ plan after others, node.lower = .ok plan ∧
      writeListing setting plan files = (after, .ok ()) ∧
      (lowerNodes setting rest after).result = .ok others ∧
      expansions = ⟨node.id, plan⟩ :: others ∧
      (lowerNodes setting (node :: rest) files).files =
        (lowerNodes setting rest after).files := by
  cases lowered : node.lowerChecked setting.verify with
  | error fault =>
    simp only [lowerNodes, lowered] at built
    cases built
  | ok plan =>
    rcases wrote : writeListing setting plan files with ⟨after, fault | _⟩
    · simp only [lowerNodes, lowered, wrote] at built
      cases built
    · obtain ⟨result, leaves⟩ := lowerNodes_cons rest lowered wrote
      rw [result] at built
      obtain ⟨others, lowers, told⟩ := map_eq_ok_iff.mp built
      exact ⟨plan, after, others, lower_of_lowerChecked lowered, wrote, lowers, told.symm, leaves⟩

/-- Without expansions the files are the same, wherever the listings would have been. -/
theorem holds_nil_iff :
    Holds files after home [] ↔ ∀ place content,
      after.entry? place = some (.file content) ↔ files.entry? place = some (.file content) := by
  simp [Holds, IsLast]

/-- Nodes that are all lowered with their listings give the expansions that stand for them, and
the directory, which is there when any listing was written, holds the listings. -/
theorem lowerNodes_listed {nodes : List Node} {expansions : List Expansion}
    (built : (lowerNodes ⟨verify, some directory⟩ nodes files).result = .ok expansions) :
    let left := (lowerNodes ⟨verify, some directory⟩ nodes files).files
    PlansOf nodes expansions ∧
      (∀ expansion ∈ expansions, Reachable directory (listingName expansion.nodeId)) ∧
      (∀ other, Opens files directory other → Opens left directory other) ∧
      ∃ home, (nodes ≠ [] → Opens left directory home) ∧ Holds files left home expansions := by
  induction nodes generalizing files expansions with
  | nil =>
    cases built
    exact ⟨.nil, by simp, fun _ => id, [], by simp, holds_nil_iff.mpr fun _ _ => Iff.rfl⟩
  | cons node rest ih =>
    obtain ⟨plan, after, others, lowered, wrote, lowers, rfl, same⟩ := lowerNodes_cons_eq_ok built
    obtain ⟨reachable, home, opens, keeps, holds⟩ := writeListing_eq_ok wrote
    obtain ⟨plans, reaches, keepsLater, there, opensLater, listed⟩ := ih lowers
    -- The later listings are written to the directory that the first one has been written to.
    have listed :
        Holds after (lowerNodes ⟨verify, some directory⟩ rest after).files home others := by
      cases plans with
      | nil => exact holds_nil_iff.mpr (holds_nil_iff.mp listed)
      | cons _ _ =>
        have meet : there = home := (keepsLater home opens).unique (opensLater (by simp))
        rw [← meet]
        exact listed
    -- The listing is named after the node, whose id the plan has.
    obtain ⟨_, lowering⟩ := Node.lower_eq_ok lowered
    rw [lowering.nodeId] at reachable holds
    rw [same]
    refine ⟨.cons ⟨rfl, lowered⟩ plans, List.forall_mem_cons.mpr ⟨reachable, reaches⟩, ?_, home, ?_,
      listed.cons holds⟩
    · intro other earlier
      exact keepsLater other (keeps other earlier)
    · intro _
      exact keepsLater home opens

/-- Of the expansions with a listing of some name there is a last one. -/
theorem exists_isLast {expansions : List Expansion} {expansion : Expansion}
    (member : expansion ∈ expansions) :
    ∃ last, IsLast expansions last ∧
      listingName last.nodeId = listingName expansion.nodeId := by
  induction expansions generalizing expansion with
  | nil => cases member
  | cons first rest ih =>
    by_cases later : ∃ other ∈ rest, listingName other.nodeId = listingName expansion.nodeId
    · -- A later one has the name, and the last of the later ones is the last of all.
      obtain ⟨other, found, named⟩ := later
      obtain ⟨last, isLast, same⟩ := ih found
      exact ⟨last, isLast_cons_iff.mpr (.inl isLast), same.trans named⟩
    · -- Otherwise the expansion itself is the first of all, and the last of its name.
      have alone : ∀ other ∈ rest, listingName other.nodeId ≠ listingName expansion.nodeId :=
        fun other found same => later ⟨other, found, same⟩
      obtain rfl | found := List.mem_cons.mp member
      · exact ⟨expansion, isLast_cons_iff.mpr (.inr ⟨rfl, alone⟩), rfl⟩
      · exact absurd rfl (alone expansion found)

/-- An expansion whose listing's name no other has is the last of that name. -/
theorem isLast_of_nodup {expansions : List Expansion} {expansion : Expansion}
    (distinct : (expansions.map fun other => listingName other.nodeId).Nodup)
    (member : expansion ∈ expansions) : IsLast expansions expansion := by
  obtain ⟨last, isLast, same⟩ := exists_isLast member
  have one : last = expansion := List.inj_on_of_nodup_map distinct isLast.mem member same
  rw [← one]
  exact isLast

/-- What follows the node's id in the head of a listing. -/
def headEnd : List Char :=
  [' ', '=', '=', '=', '=', '=', '=', '=', '=', '\n', '\n',
    '-', '-', '-', ' ', 'S', 'T', 'E', 'P', 'S', ' ', '-', '-', '-']

/-- A listing has the id of its node in its head. -/
theorem toList_listing (plan : Plan) :
    ∃ rest, plan.listing.toList =
      "======== EXPANSION PLAN for Node: ".toList ++ (plan.nodeId.toList ++ (headEnd ++ rest)) := by
  -- Three lines come before the steps, and the first of them has the id.
  obtain ⟨more, lines⟩ : ∃ more, plan.listingLines =
      ["======== EXPANSION PLAN for Node: " ++ plan.nodeId ++ " ========", "", "--- STEPS ---"]
        ++ more := by
    simp only [Plan.listingLines, List.append_assoc]
    exact ⟨_, rfl⟩
  rw [Plan.listing, lines, String.toList_intercalate]
  simp only [List.cons_append, List.nil_append, List.map_cons, List.intercalate_cons_cons]
  -- The third line is followed by a line break, unless it is the last.
  obtain ⟨rest, onward⟩ : ∃ rest, "\n".toList.intercalate
      ("--- STEPS ---".toList :: more.map String.toList) = "--- STEPS ---".toList ++ rest := by
    cases more with
    | nil => exact ⟨[], by simp⟩
    | cons line others => exact ⟨_, by rw [List.map_cons, List.intercalate_cons_cons,
        List.append_assoc]⟩
  refine ⟨rest, ?_⟩
  rw [onward]
  simp [headEnd]

/-- What follows an id cannot start with more characters of an id and then go on like what follows
an id, unless one of these characters is kept in the name of the listing. -/
theorem eq_nil_of_headEnd {excess first second : List Char}
    (split : headEnd ++ first = excess ++ (headEnd ++ second))
    (dropped : ∀ c ∈ excess, (Text.isAlphanumeric c || c == '_') = false) : excess = [] := by
  -- The first letter after an id stands behind fifteen signs, so no more than these are dropped.
  have short : excess.length < 16 := by
    by_contra long
    have taken : headEnd.take 16 = excess.take 16 := by
      have both := congrArg (List.take 16) split
      rwa [List.take_append_of_le_length (by decide),
        List.take_append_of_le_length (Nat.le_of_not_lt long)] at both
    have letter : 'S' ∈ excess :=
      List.mem_of_mem_take (taken ▸ (by decide : 'S' ∈ headEnd.take 16))
    have kept : (Text.isAlphanumeric 'S' || 'S' == '_') = true := by decide
    rw [dropped 'S' letter] at kept
    cases kept
  -- No other place among them looks like the start, where a space stands before a line of signs.
  have again : (headEnd.drop excess.length).take 2 = headEnd.take 2 := by
    have both := congrArg (fun text => (text.drop excess.length).take 2) split
    have enough : 2 ≤ (headEnd.drop excess.length).length := by
      rw [List.length_drop]
      have long : headEnd.length = 24 := rfl
      omega
    simp only [List.drop_left] at both
    rwa [List.drop_append_of_le_length (Nat.le_trans (Nat.le_of_lt short) (by decide)),
      List.take_append_of_le_length enough, List.take_append_of_le_length (by decide)] at both
  have only : ∀ length < 16, (headEnd.drop length).take 2 = headEnd.take 2 → length = 0 := by
    decide
  exact List.eq_nil_of_length_eq_zero (only _ short again)

/-- Ids of which the same is kept are equal when one of them is the other with some more. -/
theorem dropped_of_kept_append {id : String} {excess : List Char} {longer : String}
    (whole : longer.toList = id.toList ++ excess) (same : kept longer = kept id) :
    ∀ c ∈ excess, (Text.isAlphanumeric c || c == '_') = false := by
  intro c member
  rw [kept, kept, whole, List.filter_append] at same
  -- Nothing is added to what is kept.
  have none := List.append_right_eq_self.mp same
  simpa using List.filter_eq_nil_iff.mp none c member

/-- Two listings of one name and one content are those of one node. -/
theorem nodeId_eq_of_listing_eq {first second : Plan}
    (named : listingName first.nodeId = listingName second.nodeId)
    (same : first.listing = second.listing) : first.nodeId = second.nodeId := by
  obtain ⟨restFirst, listedFirst⟩ := toList_listing first
  obtain ⟨restSecond, listedSecond⟩ := toList_listing second
  have both : first.nodeId.toList ++ (headEnd ++ restFirst) =
      second.nodeId.toList ++ (headEnd ++ restSecond) := by
    rw [same, listedSecond] at listedFirst
    exact (List.append_cancel_left listedFirst).symm
  have kept := listingName_eq_iff.mp named
  -- One id goes on where the other one ends, but with nothing that is kept.
  apply String.toList_inj.mp
  obtain ⟨excess, longer, split⟩ | ⟨excess, longer, split⟩ := List.append_eq_append_iff.mp both
  · have none := eq_nil_of_headEnd split (dropped_of_kept_append longer kept.symm)
    rw [longer, none, List.append_nil]
  · have none := eq_nil_of_headEnd split (dropped_of_kept_append longer kept)
    rw [longer, none, List.append_nil]

/-- Listings with the same bytes are the same. -/
theorem toBytes_injective {first second : String}
    (same : Text.toBytes first = Text.toBytes second) : first = second := by
  have read := congrArg Text.ofBytes? same
  simpa only [Text.ofBytes?_toBytes, Option.some.injEq] using read

/-- The expansions that stand for nodes have their ids. -/
theorem PlansOf.map_nodeId {nodes : List Node} {expansions : List Expansion}
    (plans : PlansOf nodes expansions) {α : Type} (of : String → α) :
    expansions.map (fun expansion => of expansion.nodeId) = nodes.map fun node => of node.id := by
  induction plans with
  | nil => rfl
  | cons head _ ih => rw [List.map_cons, List.map_cons, head.1, ih]

/-- A plan that stands for a node has the id of its expansion. -/
theorem PlansOf.plan_nodeId {nodes : List Node} {expansions : List Expansion}
    (plans : PlansOf nodes expansions) :
    ∀ expansion ∈ expansions, expansion.plan.nodeId = expansion.nodeId := by
  induction plans with
  | nil => simp
  | cons head _ ih =>
    obtain ⟨_, lowering⟩ := Node.lower_eq_ok head.2
    exact List.forall_mem_cons.mpr ⟨lowering.nodeId.trans head.1.symm, ih⟩

/-- A build that succeeds has found different ids and lowered all nodes. -/
theorem run_eq_lowerNodes {setting : Setting} {document : Document} {expansions : List Expansion}
    (built : (run setting document files).result = .ok expansions) :
    (document.nodes.map Node.id).Nodup ∧
      run setting document files = lowerNodes setting document.nodes files := by
  unfold run at built ⊢
  cases scanned : firstRepeated? (document.nodes.map Node.id) with
  | some id =>
    rw [scanned] at built
    cases built
  | none => exact ⟨firstRepeated?_eq_none_iff.mp scanned, rfl⟩

/-- A build with listings gives the plan of each node. Afterwards the file that a node's listing
is named for holds the listing of the last node with that name, and no other file is new or
changed. So every node's own file has the node's listing just if no two ids keep the same
characters for the names, although all ids differ. -/
theorem listing_files_of_run (document : Document) (verify : Bool) (directory : String)
    (files : FileTree) (expansions : List Expansion)
    (built : (run ⟨verify, some directory⟩ document files).result = .ok expansions) :
    let left := (run ⟨verify, some directory⟩ document files).files
    PlansOf document.nodes expansions ∧
    (∀ last, IsLast expansions last →
      left.read (listingPath directory last.nodeId) = .ok (Text.toBytes last.plan.listing)) ∧
    (∀ place content, left.entry? place = some (.file content) →
      files.entry? place = some (.file content) ∨
        ∃ last, IsLast expansions last ∧ content = Text.toBytes last.plan.listing) ∧
    ((∀ expansion ∈ expansions, left.read (listingPath directory expansion.nodeId) =
        .ok (Text.toBytes expansion.plan.listing)) ↔
      (document.nodes.map fun node => kept node.id).Nodup) := by
  obtain ⟨distinct, same⟩ := run_eq_lowerNodes built
  rw [same] at built ⊢
  intro left
  obtain ⟨plans, reaches, -, home, opens, holds⟩ := lowerNodes_listed built
  -- What is read by the path of a listing is what stands in the directory under its name.
  have read_iff : ∀ expansion ∈ expansions, ∀ content,
      left.read (listingPath directory expansion.nodeId) = .ok content ↔
        left.entry? (home ++ [listingName expansion.nodeId]) = some (.file content) := by
    intro expansion member content
    have some : document.nodes ≠ [] := by
      intro none
      rw [none] at plans
      cases plans
      cases member
    exact read_join_eq_ok_iff (listingName_isEntryName _) (reaches expansion member) (opens some)
  have lastRead : ∀ last, IsLast expansions last →
      left.read (listingPath directory last.nodeId) = .ok (Text.toBytes last.plan.listing) := by
    intro last isLast
    exact (read_iff last isLast.mem _).mpr ((holds _ _).mpr (.inl ⟨last, isLast, rfl, rfl⟩))
  refine ⟨plans, lastRead, ?_, ?_⟩
  · intro place content stands
    obtain ⟨last, isLast, _, told⟩ | ⟨_, stood⟩ := (holds place content).mp stands
    · exact .inr ⟨last, isLast, told⟩
    · exact .inl stood
  · -- The names of the listings differ when what is kept for them does.
    have names : (document.nodes.map fun node => kept node.id).Nodup ↔
        (expansions.map fun expansion => listingName expansion.nodeId).Nodup := by
      rw [plans.map_nodeId listingName, List.Nodup, List.Nodup, List.pairwise_map,
        List.pairwise_map]
      simp only [ne_eq, listingName_eq_iff]
    rw [names]
    constructor
    · -- Two nodes with one name would have one listing, and then one id.
      intro own
      have ids : (expansions.map fun expansion => expansion.nodeId).Nodup := by
        rw [plans.map_nodeId fun id => id]
        exact distinct
      have differ : expansions.Nodup := ids.of_map _
      refine differ.map_on ?_
      intro first firstIn second secondIn named
      have readFirst := own first firstIn
      have readSecond := own second secondIn
      rw [listingPath, named] at readFirst
      rw [listingPath, readFirst, Except.ok.injEq] at readSecond
      rw [← plans.plan_nodeId first firstIn, ← plans.plan_nodeId second secondIn] at named
      have one := nodeId_eq_of_listing_eq named (toBytes_injective readSecond)
      rw [plans.plan_nodeId first firstIn, plans.plan_nodeId second secondIn] at one
      exact List.inj_on_of_nodup_map ids firstIn secondIn one
    · intro apart expansion member
      exact lastRead expansion (isLast_of_nodup apart member)

/-- Two nodes with different ids, of which the same is kept for the names of their listings. -/
def hyphened : Document :=
  ⟨1, [{ Node.new "a-b" with fixed := ⟨some "UI", some "Left", some 0⟩ },
    { Node.new "ab" with fixed := ⟨some "UI", some "Right", some 0⟩ }]⟩

/-- Both nodes are lowered, and both listings are written. -/
theorem run_hyphened_succeeds :
    ∃ expansions, (run ⟨true, some "out"⟩ hyphened .empty).result = .ok expansions := by
  have succeeds : (run ⟨true, some "out"⟩ hyphened .empty).result.isOk = true := by decide +kernel
  cases outcome : (run ⟨true, some "out"⟩ hyphened .empty).result with
  | error fault =>
    rw [outcome] at succeeds
    cases succeeds
  | ok expansions => exact ⟨expansions, rfl⟩

/-- Where the two nodes have expansions, the file that is named for both ids holds the listing of
the second, so not every node's own file has its listing. -/
theorem listing_files_of_run_hyphened :
    ∃ (expansions : List Expansion) (last : Expansion),
      (run ⟨true, some "out"⟩ hyphened .empty).result = .ok expansions ∧
      last.nodeId = "ab" ∧
      (run ⟨true, some "out"⟩ hyphened .empty).files.read (listingPath "out" "a-b") =
        .ok (Text.toBytes last.plan.listing) ∧
      ¬ ∀ expansion ∈ expansions,
        (run ⟨true, some "out"⟩ hyphened .empty).files.read
          (listingPath "out" expansion.nodeId) = .ok (Text.toBytes expansion.plan.listing) := by
  obtain ⟨expansions, built⟩ := run_hyphened_succeeds
  obtain ⟨plans, lastRead, -, own⟩ :=
    listing_files_of_run hyphened true "out" .empty expansions built
  have met : listingName "a-b" = listingName "ab" := listingName_eq_iff.mpr (by decide)
  cases plans with
  | cons head tail =>
    cases tail with
    | @cons _ second _ _ named others =>
      cases others
      have read := lastRead second (isLast_cons_iff.mpr (.inl ⟨[], [], rfl, by simp⟩))
      rw [named.1] at read
      refine ⟨_, second, built, named.1, ?_, ?_⟩
      · rw [listingPath, met]
        exact read
      · rw [own]
        decide

/-- A listing can be lost: different ids do not keep the listings of a successful build apart. -/
theorem not_forall_listing_held :
    ¬ ∀ (document : Document) (directory : String) (files : FileTree)
        (expansions : List Expansion),
      (document.nodes.map Node.id).Nodup →
      (run ⟨true, some directory⟩ document files).result = .ok expansions →
      ∀ expansion ∈ expansions, ∃ place,
        (run ⟨true, some directory⟩ document files).files.entry? place =
          some (.file (Text.toBytes expansion.plan.listing)) := by
  intro held
  obtain ⟨expansions, built⟩ := run_hyphened_succeeds
  have holdsAll := held hyphened "out" .empty expansions (by decide) built
  obtain ⟨-, same⟩ := run_eq_lowerNodes built
  rw [same] at built holdsAll
  obtain ⟨plans, -, -, home, -, holds⟩ := lowerNodes_listed built
  have ids := plans.plan_nodeId
  have met : listingName "a-b" = listingName "ab" := listingName_eq_iff.mpr (by decide)
  cases plans with
  | @cons _ first _ _ namedFirst tail =>
    cases tail with
    | @cons _ second _ _ namedSecond others =>
      cases others
      -- The first listing would have to be the last of its name, which is that of the second.
      obtain ⟨place, stands⟩ := holdsAll first (by simp)
      obtain ⟨last, isLast, -, told⟩ | ⟨-, stood⟩ := (holds place _).mp stands
      · obtain later | ⟨rfl, alone⟩ := isLast_cons_iff.mp isLast
        · have one : last = second := by simpa using later.mem
          rw [one] at told
          -- But then both nodes would have one listing, although their ids differ.
          have named : listingName first.plan.nodeId = listingName second.plan.nodeId := by
            rw [ids first (by simp), ids second (by simp), namedFirst.1, namedSecond.1]
            exact met
          have nodes := nodeId_eq_of_listing_eq named (toBytes_injective told)
          rw [ids first (by simp), ids second (by simp), namedFirst.1, namedSecond.1] at nodes
          exact absurd nodes (by decide)
        · apply alone second (by simp)
          rw [namedFirst.1, namedSecond.1]
          exact met.symm
      · -- There was no file at all before.
        unfold FileTree.entry? at stood
        split at stood <;> simp [FileTree.empty] at stood

end CallChain.Build
