import CallChain.Proofs.Plan.Acceptance

/-! Redirects: each reading of a linked pin gets one, and at most one of a pin's takes the link. -/

namespace CallChain

/-- Erasing repeated elements leaves none twice. -/
theorem nodup_eraseDups {α : Type} [BEq α] [LawfulBEq α] (elements : List α) :
    elements.eraseDups.Nodup := by
  match elements with
  | [] => simp
  | first :: rest =>
    rw [List.eraseDups_cons, List.nodup_cons]
    -- What is left of the rest no longer holds the first element.
    exact ⟨by simp, nodup_eraseDups _⟩
termination_by elements.length
decreasing_by exact Nat.lt_succ_of_le (List.length_filter_le _ _)

namespace Redirect

/-- A redirect leads a link to the step input that reads the pin of the link. -/
structure Leads (redirect : Redirect) (link : Link) (use : PinUse) : Prop where
  pin : redirect.pin = use.pin
  source : redirect.source = link.source
  target : redirect.target = use.step
  input : redirect.input = use.input

end Redirect

namespace Node

/-- The redirects of a link to the steps that read its pin: the last one takes the link over. -/
def handovers (pin : Pin) (link : Link) (uses : List PinUse) : List Redirect :=
  uses.mapIdx fun index use =>
    let action := if index + 1 = uses.length then .moved else .copied
    ⟨pin, link.source, action, use.step, use.input⟩

/-- A pin without a link has no redirects, and another has one for each of its readings. -/
theorem redirectsOf_eq_ok {node : Node} {pin : Pin} {group : List Redirect}
    (redirected : node.redirectsOf pin = .ok group) :
    (node.link? pin = none ∧ group = []) ∨ ∃ link, node.link? pin = some link ∧
      group = handovers pin link (node.pinUses.filter fun use => use.pin == pin) := by
  unfold redirectsOf at redirected
  cases linked : node.link? pin with
  | none => simpa [linked, eq_comm] using redirected
  | some link =>
    -- An exclusive link that would have to be spread has no redirects at all.
    simp only [linked] at redirected
    split at redirected
    · simp at redirected
    · exact .inr ⟨link, rfl, (Except.ok.inj redirected).symm⟩

/-- Readings of a pin that are all followed by another one get copies of its link. -/
theorem movedPins_copies (pin : Pin) (link : Link) {before : List PinUse} {total : Nat}
    (more : before.length < total) :
    Redirect.movedPins (before.mapIdx fun index use =>
      ⟨pin, link.source, if index + 1 = total then .moved else .copied, use.step, use.input⟩) =
      [] := by
  rw [Redirect.movedPins, List.map_eq_nil_iff, List.filter_eq_nil_iff]
  intro redirect member
  obtain ⟨index, inside, rfl⟩ := List.mem_mapIdx.mp member
  -- Only the last of all readings would move the link.
  have early : index + 1 ≠ total := by omega
  simp [early]

/-- At most the last reading of a pin takes its link over. -/
theorem movedPins_handovers (pin : Pin) (link : Link) (uses : List PinUse) :
    (Redirect.movedPins (handovers pin link uses)).Sublist [pin] := by
  rcases List.eq_nil_or_concat uses with rfl | ⟨before, last, rfl⟩
  · simp [handovers, Redirect.movedPins]
  · -- All readings before the last one get copies.
    have more : before.length < (before.concat last).length := by simp
    have copies := movedPins_copies pin link more
    simp only [handovers, List.concat_eq_append] at copies ⊢
    rw [List.mapIdx_append, Redirect.movedPins_append, copies]
    simp [Redirect.movedPins]

/-- The redirects of a pin move at most the link of that pin. -/
theorem movedPins_redirectsOf {node : Node} {pin : Pin} {group : List Redirect}
    (redirected : node.redirectsOf pin = .ok group) :
    (Redirect.movedPins group).Sublist [pin] := by
  rcases redirectsOf_eq_ok redirected with ⟨_, rfl⟩ | ⟨link, _, rfl⟩
  · simp [Redirect.movedPins]
  · exact movedPins_handovers pin link _

/-- The redirects of several pins move each link at most once for each time its pin is named. -/
theorem movedPins_flatten {node : Node} {pins : List Pin} {groups : List (List Redirect)}
    (matched : List.Forall₂ (fun pin group => node.redirectsOf pin = .ok group) pins groups) :
    (Redirect.movedPins groups.flatten).Sublist pins := by
  -- Each group adds at most its own pin.
  induction matched with
  | nil => simp [Redirect.movedPins]
  | @cons pin group pins groups made _ ih =>
    rw [List.flatten_cons, Redirect.movedPins_append]
    exact (movedPins_redirectsOf made).append ih

/-- The redirects of a node are those of the pins its steps read, one pin after the other. -/
theorem redirects_eq_ok {node : Node} {redirects : List Redirect}
    (redirected : node.redirects = .ok redirects) :
    ∃ groups, (node.pinUses.map PinUse.pin).eraseDups.mapM node.redirectsOf = .ok groups ∧
      redirects = groups.flatten := by
  obtain ⟨groups, mapped, joined⟩ := bind_eq_ok_iff.mp redirected
  exact ⟨groups, mapped, (pure_eq_ok_iff.mp joined).symm⟩

/-- Every redirect of a node leads a link of it to a step that reads the pin of the link. -/
theorem redirects_lead {node : Node} {redirects : List Redirect}
    (redirected : node.redirects = .ok redirects) {redirect : Redirect}
    (member : redirect ∈ redirects) :
    ∃ use ∈ node.pinUses, ∃ link, node.link? use.pin = some link ∧ redirect.Leads link use := by
  obtain ⟨groups, mapped, rfl⟩ := redirects_eq_ok redirected
  obtain ⟨group, placed, inside⟩ := List.mem_flatten.mp member
  obtain ⟨pin, _, made⟩ := exists_element_of_mem mapped placed
  rcases redirectsOf_eq_ok made with ⟨_, rfl⟩ | ⟨link, linked, rfl⟩
  · simp at inside
  · -- The redirect was made for one of the readings of its own pin.
    obtain ⟨index, bound, rfl⟩ := List.mem_mapIdx.mp inside
    have read := List.mem_filter.mp (List.getElem_mem bound)
    have own := eq_of_beq read.2
    refine ⟨_, read.1, link, ?_, ⟨own.symm, rfl, rfl, rfl⟩⟩
    rw [own]
    exact linked

/-- Every reading of a linked pin has a redirect that leads the link to it. -/
theorem exists_redirect {node : Node} {redirects : List Redirect}
    (redirected : node.redirects = .ok redirects) {use : PinUse} (read : use ∈ node.pinUses)
    {link : Link} (linked : node.link? use.pin = some link) :
    ∃ redirect ∈ redirects, redirect.Leads link use := by
  obtain ⟨groups, mapped, rfl⟩ := redirects_eq_ok redirected
  have pinned : use.pin ∈ (node.pinUses.map PinUse.pin).eraseDups := by
    rw [List.mem_eraseDups]
    exact List.mem_map_of_mem read
  obtain ⟨group, placed, made⟩ := exists_result_of_mem mapped pinned
  rcases redirectsOf_eq_ok made with ⟨unlinked, _⟩ | ⟨other, found, rfl⟩
  · simp [linked] at unlinked
  · obtain rfl : other = link := by simpa [linked] using found.symm
    -- The reading stands among those of its pin, and its redirect at the same position.
    have among : use ∈ node.pinUses.filter fun entry => entry.pin == use.pin :=
      List.mem_filter.mpr ⟨read, by simp⟩
    obtain ⟨index, bound, here⟩ := List.mem_iff_getElem.mp among
    refine ⟨_, List.mem_flatten.mpr ⟨_, placed, List.mem_mapIdx.mpr ⟨index, bound, rfl⟩⟩, ?_⟩
    rw [here]
    exact ⟨rfl, rfl, rfl, rfl⟩

/-- No link is moved twice. -/
theorem movedPins_nodup {node : Node} {redirects : List Redirect}
    (redirected : node.redirects = .ok redirects) : (Redirect.movedPins redirects).Nodup := by
  obtain ⟨groups, mapped, rfl⟩ := redirects_eq_ok redirected
  -- Every pin has one group only, for the pins are read off without repeats.
  have distinct := nodup_eraseDups (node.pinUses.map PinUse.pin)
  exact (movedPins_flatten (mapM_eq_ok_iff.mp mapped)).nodup distinct

end Node

end CallChain
