import CallChain.Proofs.Node.FreeNames
import CallChain.Proofs.Node.Preservation
import CallChain.Sheet

/-! Parameters of a sheet: what is wrong with one, and the slot that it becomes. -/

namespace CallChain

namespace SheetParam

/-- A JSON value stands for a literal of a type. Numbers without fraction stand for floats too, and
nothing stands for an object. -/
inductive StandsFor : ValueType → Json → Value → Prop where
  | boolean (b : Bool) : StandsFor .boolean (.bool b) (.bool b)
  | natural {n : UInt64} (small : n.toNat < Json.firstTooLarge) :
      StandsFor .integer (.number (.natural n)) (.integer (Int64.ofNat n.toNat))
  | negative (i : Int64) : StandsFor .integer (.number (.negative i)) (.integer i)
  | float (x : Binary64) : StandsFor .float (.number (.float x)) (.float x)
  | naturalFloat (n : UInt64) :
      StandsFor .float (.number (.natural n)) (.float (Binary64.ofNat n.toNat))
  | negativeFloat (i : Int64) :
      StandsFor .float (.number (.negative i)) (.float (Binary64.ofInt i.toInt))
  | string (s : String) : StandsFor .string (.string s) (.string s)
  | text (s : String) : StandsFor .text (.string s) (.text s)

variable {type : ValueType} {json : Json} {value : Value}

/-- The literal that is read is the one that the JSON value stands for. -/
theorem literal?_eq_some_iff : literal? type json = some value ↔ StandsFor type json value := by
  constructor
  · intro read
    -- The type decides which kind of JSON value is looked for.
    cases type with
    | boolean =>
      cases json <;> simp only [literal?, Option.some.injEq, reduceCtorEq] at read
      rw [← read]
      exact .boolean _
    | string =>
      cases json <;> simp only [literal?, Option.some.injEq, reduceCtorEq] at read
      rw [← read]
      exact .string _
    | text =>
      cases json <;> simp only [literal?, Option.some.injEq, reduceCtorEq] at read
      rw [← read]
      exact .text _
    | object => cases json <;> simp [literal?] at read
    | integer =>
      cases json with
      | number number =>
        cases number with
        | natural n =>
          by_cases small : n.toNat < Json.firstTooLarge
          · simp only [literal?, Json.int64, small, if_true] at read
            cases read
            exact .natural small
          · simp [literal?, Json.int64, small, Except.toOption] at read
        | negative i =>
          cases read
          exact .negative i
        | float x => cases read
      | _ => cases read
    | float =>
      cases json with
      | number number =>
        cases number <;> cases read
        · exact .naturalFloat _
        · exact .negativeFloat _
        · exact .float _
      | _ => cases read
  · intro stands
    cases stands with
    | natural small => simp [literal?, Json.int64, small, Except.toOption]
    | _ => rfl

/-- A literal has the type that it was read for. -/
theorem StandsFor.type_eq (stands : StandsFor type json value) : value.type = type := by
  cases stands <;> rfl

/-- What is wrong with a parameter. Its type is looked at before its default. -/
inductive Faulty (param : SheetParam) : SheetFault → Prop where
  | unknownType (unknown : ValueType.parse? param.type = none) :
      Faulty param (.unknownType param.type)
  | unfitDefault {type : ValueType} {json : Json}
      (known : ValueType.parse? param.type = some type) (given : param.default = some json)
      (unfit : ∀ value, ¬ StandsFor type json value) : Faulty param (.unfitDefault json type)

/-- The type of a parameter's slot, and its literal. -/
structure Describes (param : SheetParam) (content : ValueType × Option Value) : Prop where
  known : ValueType.parse? param.type = some content.1
  absent : param.default = none → content.2 = none
  given : ∀ json, param.default = some json →
    ∃ value, content.2 = some value ∧ StandsFor content.1 json value

/-- Reads the type and the literal of a parameter's slot. -/
def content (param : SheetParam) : Except SheetFault (ValueType × Option Value) :=
  match ValueType.parse? param.type with
  | none => .error (.unknownType param.type)
  | some type =>
    match param.default with
    | none => .ok (type, none)
    | some json =>
      match literal? type json with
      | none => .error (.unfitDefault json type)
      | some value => .ok (type, some value)

variable {param : SheetParam} {slot : ValueType × Option Value} {fault : SheetFault}

/-- What is read of a parameter is what it describes. -/
theorem content_eq_ok_iff : param.content = .ok slot ↔ param.Describes slot := by
  unfold content
  cases known : ValueType.parse? param.type with
  | none =>
    refine iff_of_false (by simp) ?_
    intro describes
    simpa [known] using describes.known
  | some type =>
    cases given : param.default with
    | none =>
      constructor
      · intro read
        cases read
        exact ⟨known, fun _ => rfl, by simp [given]⟩
      · intro describes
        -- The type is the one that was read, and there is no literal.
        have same : type = slot.1 := by simpa [known] using describes.known
        rw [same, ← describes.absent given]
    | some json =>
      dsimp only
      cases read : literal? type json with
      | none =>
        refine iff_of_false (by simp) ?_
        intro describes
        obtain ⟨value, _, stands⟩ := describes.given json given
        have same : type = slot.1 := by simpa [known] using describes.known
        rw [same, literal?_eq_some_iff.mpr stands] at read
        cases read
      | some value =>
        have stands := literal?_eq_some_iff.mp read
        constructor
        · intro read
          cases read
          refine ⟨known, by simp [given], ?_⟩
          intro other same
          rw [given, Option.some.injEq] at same
          exact ⟨value, rfl, same ▸ stands⟩
        · intro describes
          obtain ⟨other, held, alike⟩ := describes.given json given
          have same : type = slot.1 := by simpa [known] using describes.known
          -- A JSON value stands for one literal of a type only.
          rw [← same, ← literal?_eq_some_iff, read, Option.some.injEq] at alike
          rw [Except.ok.injEq, same, alike, ← held]

/-- A parameter cannot be read for the reason that something is wrong with it. -/
theorem content_eq_error_iff : param.content = .error fault ↔ param.Faulty fault := by
  unfold content
  cases known : ValueType.parse? param.type with
  | none =>
    constructor
    · intro failed
      cases failed
      exact .unknownType known
    · intro faulty
      cases faulty with
      | unknownType => rfl
      | unfitDefault other => simp [known] at other
  | some type =>
    cases given : param.default with
    | none =>
      refine iff_of_false (by simp) ?_
      intro faulty
      cases faulty with
      | unknownType unknown => simp [known] at unknown
      | unfitDefault _ other => simp [given] at other
    | some json =>
      dsimp only
      have unfit_iff : literal? type json = none ↔ ∀ value, ¬ StandsFor type json value := by
        simp only [← literal?_eq_some_iff, Option.eq_none_iff_forall_ne_some, ne_eq]
      constructor
      · intro failed
        cases read : literal? type json with
        | some value => simp [read] at failed
        | none =>
          simp only [read] at failed
          cases failed
          exact .unfitDefault known given (unfit_iff.mp read)
      · intro faulty
        cases faulty with
        | unknownType unknown => simp [known] at unknown
        | unfitDefault other same unfit =>
          rw [known, Option.some.injEq] at other
          rw [given, Option.some.injEq] at same
          subst other same
          rw [unfit_iff.mpr unfit]

/-- The literal of a parameter's slot has the slot's type. -/
theorem Describes.typed (describes : param.Describes slot) :
    ∀ value, slot.2 = some value → value.type = slot.1 := by
  intro value held
  cases given : param.default with
  | none =>
    rw [describes.absent given] at held
    cases held
  | some json =>
    obtain ⟨other, same, stands⟩ := describes.given json given
    obtain rfl : other = value := by simpa [held] using same.symm
    exact stands.type_eq

end SheetParam

namespace Node

variable {node : Node}

/-- Giving a new slot its literal afterwards is adding it with the literal. -/
theorem setDefault_add (consistent : node.Consistent)
    (room : node.slots.entries.length < 4294967295) (proposed : Option String)
    {type : ValueType} {value : Value} (typed : value.type = type) :
    (node.add proposed type none).1.setDefault (node.add proposed type none).2 (some value) =
      .ok (node.add proposed type (some value)).1 := by
  have bare : (node.add proposed type none).1.Consistent :=
    consistent.add room proposed type (by simp)
  have distinct := bare.ids
  obtain ⟨fresh, _⟩ := Slots.allocate_fresh
    (fun slot member => (consistent.slots slot member).below) room
  have last : (⟨node.slots.allocate.1, node.freeName proposed none, type, none⟩ : Slot) ∈
      (node.add proposed type none).1.slots.entries := by simp [add, Slots.push]
  have found := Slots.get?_eq_some_of_mem distinct last
  -- The literal fits, and no other slot has the id of the new one.
  have fits : (some value).filter (fun value => value.type != type) = none := by simp [typed]
  have others : node.slots.entries.map (fun slot =>
      if slot.id = node.slots.allocate.1 then { slot with default := some value } else slot) =
        node.slots.entries := by
    refine (List.map_congr_left ?_).trans (List.map_id _)
    intro slot member
    rw [if_neg (fresh slot member), id_eq]
  have changed : Slots.modifyFirst (fun slot => { slot with default := some value })
      node.slots.allocate.1 (node.add proposed type none).1.slots.entries =
        (node.add proposed type (some value)).1.slots.entries := by
    rw [Slots.modifyFirst_eq_map distinct]
    simp [add, Slots.push, others]
  have own : (node.add proposed type none).2 = node.slots.allocate.1 := rfl
  rw [setDefault, own, found]
  simp only [fits]
  rw [Slots.modify, changed]
  rfl

end Node

namespace SheetParam

variable {node : Node} {param : SheetParam}

/-- Adding the slot of a parameter to a node with room is adding a slot with what is read. -/
theorem addTo_eq (consistent : node.Consistent) (room : node.slots.entries.length < 4294967295)
    (param : SheetParam) :
    param.addTo node =
      param.content.map fun content => (node.add param.name content.1 content.2).1 := by
  unfold addTo content
  cases ValueType.parse? param.type with
  | none => rfl
  | some type =>
    cases param.default with
    | none => rfl
    | some json =>
      dsimp only
      cases read : literal? type json with
      | none => rfl
      | some value =>
        -- The literal was read for the type of the slot.
        have typed := (literal?_eq_some_iff.mp read).type_eq
        have set := Node.setDefault_add consistent room param.name typed
        dsimp only
        rw [set]
        rfl

end SheetParam

end CallChain
