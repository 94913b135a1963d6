import CallChain.Proofs.Json.Floats
import CallChain.Proofs.Json.Strings

/-! Indented texts: which tree each of them is read as. -/

namespace CallChain.Json

/-- Whether a number has a spelling. -/
def Number.isFinite : Number → Bool
  | .float value => value.isFinite
  | _ => true

mutual

/-- What is left of a tree in its text: numbers without a spelling are null. -/
def stored : Json → Json
  | .number value => if value.isFinite then .number value else .null
  | .array items => .array (storedItems items)
  | .object members => .object (storedMembers members)
  | scalar => scalar

/-- What is left of items. -/
def storedItems : List Json → List Json
  | [] => []
  | item :: rest => stored item :: storedItems rest

/-- What is left of members. -/
def storedMembers : List (String × Json) → List (String × Json)
  | [] => []
  | (name, content) :: rest => (name, stored content) :: storedMembers rest

end

mutual

/-- Whether every part of a tree has a value, and every number with a spelling is read back. -/
def Storable : Json → Prop
  | .number value => value.isFinite → value.ReadsBack
  | .array items => ItemsStorable items
  | .object members => MembersStorable members
  | .valueless => False
  | _ => True

/-- Whether all items are storable. -/
def ItemsStorable : List Json → Prop
  | [] => True
  | item :: rest => Storable item ∧ ItemsStorable rest

/-- Whether the contents of all members are storable. -/
def MembersStorable : List (String × Json) → Prop
  | [] => True
  | (_, content) :: rest => Storable content ∧ MembersStorable rest

end

/-- The number that the text of a number is read as, if it has a spelling. -/
def Number.reread (number : Number) : Number :=
  (wholeNumber? (writeNumber number)).getD number

mutual

/-- A tree with each number as it is read again. -/
def reread : Json → Json
  | .number value => .number value.reread
  | .array items => .array (rereadItems items)
  | .object members => .object (rereadMembers members)
  | scalar => scalar

/-- Items with each number as it is read again. -/
def rereadItems : List Json → List Json
  | [] => []
  | item :: rest => reread item :: rereadItems rest

/-- Members with each number as it is read again. -/
def rereadMembers : List (String × Json) → List (String × Json)
  | [] => []
  | (name, content) :: rest => (name, reread content) :: rereadMembers rest

end

mutual

/-- Whether every part of a tree has a value, and every number with a spelling is read as some
number. -/
def Readable : Json → Prop
  | .number value => value.isFinite → (wholeNumber? (writeNumber value)).isSome
  | .array items => ItemsReadable items
  | .object members => MembersReadable members
  | .valueless => False
  | _ => True

/-- Whether all items are readable. -/
def ItemsReadable : List Json → Prop
  | [] => True
  | item :: rest => Readable item ∧ ItemsReadable rest

/-- Whether the contents of all members are readable. -/
def MembersReadable : List (String × Json) → Prop
  | [] => True
  | (_, content) :: rest => Readable content ∧ MembersReadable rest

end

section Rereading

/-- A number without a spelling is written as null. -/
theorem writeNumber_of_not_isFinite {value : Number} (infinite : ¬value.isFinite) :
    writeNumber value = "null".toList := by
  cases value with
  | natural | negative => exact absurd rfl infinite
  | float value =>
    have unspelled : ¬value.isFinite = true := infinite
    rw [writeNumber, if_neg unspelled]

/-- The word for nothing is no numeral. -/
theorem Number.reread_of_not_isFinite {value : Number} (infinite : ¬value.isFinite) :
    value.reread = value := by
  have word : wholeNumber? "null".toList = none := rfl
  rw [reread, writeNumber_of_not_isFinite infinite, word, Option.getD_none]

/-- A number that is read again has a spelling just if it had one before. -/
theorem Number.isFinite_reread (value : Number) : value.reread.isFinite = value.isFinite := by
  by_cases finite : value.isFinite
  case neg => rw [reread_of_not_isFinite finite]
  unfold reread
  cases read : wholeNumber? (writeNumber value) with
  | none => rfl
  | some other =>
    obtain ⟨⟨numeral, tail⟩, found, whole⟩ := Option.bind_eq_some_iff.mp read
    rw [finite, Option.getD_some]
    cases other with
    | natural | negative => rfl
    | float x =>
      dsimp only at whole
      split at whole
      · exact isFinite_of_value? whole
      · cases whole

mutual

/-- A storable tree is readable, and read again it is itself. -/
theorem Storable.reread_eq : (json : Json) → (storable : json.Storable) →
    json.Readable ∧ json.reread = json
  | .number value, storable => by
    constructor
    · intro finite
      rw [storable finite]
      rfl
    · by_cases finite : value.isFinite
      · have back : wholeNumber? (writeNumber value) = some value := storable finite
        rw [reread, Number.reread, back, Option.getD_some]
      · rw [reread, Number.reread_of_not_isFinite finite]
  | .array items, storable => by
    obtain ⟨readable, same⟩ := ItemsStorable.reread_eq items storable
    exact ⟨readable, by rw [reread, same]⟩
  | .object members, storable => by
    obtain ⟨readable, same⟩ := MembersStorable.reread_eq members storable
    exact ⟨readable, by rw [reread, same]⟩
  | .null, _ | .bool _, _ | .string _, _ => ⟨trivial, rfl⟩

/-- So are storable items. -/
theorem ItemsStorable.reread_eq : (items : List Json) → (storable : ItemsStorable items) →
    ItemsReadable items ∧ rereadItems items = items
  | [], _ => ⟨trivial, rfl⟩
  | item :: rest, storable => by
    obtain ⟨first, own⟩ := Storable.reread_eq item storable.1
    obtain ⟨others, same⟩ := ItemsStorable.reread_eq rest storable.2
    exact ⟨⟨first, others⟩, by rw [rereadItems, own, same]⟩

/-- So are storable members. -/
theorem MembersStorable.reread_eq : (members : List (String × Json)) →
    (storable : MembersStorable members) →
    MembersReadable members ∧ rereadMembers members = members
  | [], _ => ⟨trivial, rfl⟩
  | (name, content) :: rest, storable => by
    obtain ⟨first, own⟩ := Storable.reread_eq content storable.1
    obtain ⟨others, same⟩ := MembersStorable.reread_eq rest storable.2
    exact ⟨⟨first, others⟩, by rw [rereadMembers, own, same]⟩

end

end Rereading

section Blanks

variable {blanks : List Char}

/-- Blanks in front of a token do not matter. -/
theorem skipSpace_append (blank : ∀ c ∈ blanks, isSpace c) (text : List Char) :
    skipSpace (blanks ++ text) = skipSpace text :=
  List.dropWhile_append_of_pos blank

/-- An indented line starts with blanks alone. -/
theorem isSpace_newLine (depth : Nat) : ∀ c ∈ newLine depth, isSpace c := by
  intro c member
  rcases List.mem_cons.mp member with rfl | indented
  · rfl
  · rw [List.eq_of_mem_replicate indented]
    rfl

/-- Blanks in front of a value do not matter. -/
theorem value?_append (blank : ∀ c ∈ blanks, isSpace c) (fuel : Nat) (text : List Char) :
    value? fuel (blanks ++ text) = value? fuel text := by
  cases fuel with
  | zero => rfl
  | succ fuel => rw [value?, value?, skipSpace_append blank]

/-- Blanks in front of items do not matter. -/
theorem items?_append (blank : ∀ c ∈ blanks, isSpace c) (fuel : Nat) (text : List Char) :
    items? fuel (blanks ++ text) = items? fuel text := by
  cases fuel with
  | zero => rfl
  | succ fuel => rw [items?, items?, value?_append blank]

/-- Blanks in front of members do not matter. -/
theorem members?_append (blank : ∀ c ∈ blanks, isSpace c) (fuel : Nat) (text : List Char) :
    members? fuel (blanks ++ text) = members? fuel text := by
  cases fuel with
  | zero => rfl
  | succ fuel => rw [members?, members?, skipSpace_append blank]

end Blanks

/-- A numeral is read as its number, and what follows it is left. -/
theorem value?_of_wholeNumber? {text rest : List Char} {number : Number}
    (read : wholeNumber? text = some number) (ends : EndsNumeral rest) (fuel : Nat) :
    value? (fuel + 1) (text ++ rest) = some (.number number, rest) := by
  obtain ⟨⟨numeral, tail⟩, found, whole⟩ := Option.bind_eq_some_iff.mp read
  obtain ⟨rfl, valued⟩ : tail = [] ∧ numeral.value? = some number := by
    cases tail with
    | nil => exact ⟨rfl, whole⟩
    | cons c tail => cases whole
  have continued := numeral?_append ends found
  obtain ⟨c, more, rfl, start⟩ := head_of_numeral? found
  -- No blank and no other kind of value starts with the sign or a digit.
  have other : isSpace c = false ∧ c ≠ '"' ∧ c ≠ '[' ∧ c ≠ '\x7b' ∧ c ≠ 'n' ∧ c ≠ 't' ∧
      c ≠ 'f' := by
    rcases start with rfl | digit
    · decide
    · refine ⟨Bool.not_eq_true _ ▸ fun space => ?_, ?_, ?_, ?_, ?_, ?_, ?_⟩
      · simp only [isSpace, Bool.or_eq_true, beq_iff_eq] at space
        rcases space with ((rfl | rfl) | rfl) | rfl <;> exact absurd digit (by decide)
      all_goals
        rintro rfl
        exact absurd digit (by decide)
  obtain ⟨space, quote, bracket, brace, nothing, truth, falsehood⟩ := other
  rw [List.cons_append] at continued
  simp [value?, skipSpace, space, quote, bracket, brace, nothing, truth, falsehood, continued,
    valued]

/-- A text in quotes is read as the text. -/
theorem value?_writeString (text : String) (rest : List Char) (fuel : Nat) :
    value? (fuel + 1) (writeString text ++ rest) = some (.string text, rest) := by
  have body := stringBody?_flatMap text rest
  simp [value?, skipSpace, isSpace, writeString, body]

/-- A numeral ends before any other character than those that go on with it. -/
theorem endsNumeral_cons {c : Char} (other : continuesNumeral c = false) (rest : List Char) :
    EndsNumeral (c :: rest) := by
  rintro c ⟨⟩
  exact other

/-- A numeral ends before blanks. -/
theorem endsNumeral_append {blanks rest : List Char} (blank : ∀ c ∈ blanks, isSpace c)
    (ends : EndsNumeral rest) : EndsNumeral (blanks ++ rest) := by
  cases blanks with
  | nil => exact ends
  | cons c blanks =>
    -- None of the four blanks goes on with a numeral.
    have space := blank c (by simp)
    simp only [isSpace, Bool.or_eq_true, beq_iff_eq] at space
    rcases space with ((rfl | rfl) | rfl) | rfl <;> exact endsNumeral_cons rfl _

section Parts

variable {fuel : Nat} {text rest blanks : List Char}

/-- The last item stands before the closing bracket. -/
theorem items?_last {item : Json} (blank : ∀ c ∈ blanks, isSpace c)
    (read : value? fuel text = some (item, blanks ++ ']' :: rest)) :
    items? (fuel + 1) text = some ([item], rest) := by
  have closing : skipSpace (blanks ++ ']' :: rest) = ']' :: rest := by
    rw [skipSpace_append blank]
    rfl
  simp [items?, read, closing]

/-- The other items stand before commas. -/
theorem items?_next {item : Json} {others : List Json} {more : List Char}
    (read : value? fuel text = some (item, ',' :: more))
    (readOthers : items? fuel more = some (others, rest)) :
    items? (fuel + 1) text = some (item :: others, rest) := by
  have comma : skipSpace (',' :: more) = ',' :: more := rfl
  simp [items?, read, comma, readOthers]

/-- No item starts with the closing bracket. -/
theorem items?_bracket (closed : skipSpace text = ']' :: rest) : items? fuel text = none := by
  match fuel with
  | 0 => rfl
  | 1 => rfl
  | fuel + 2 => simp [items?, value?, closed, numeral?, whole?, digits]

/-- Items in brackets are an array. -/
theorem value?_array {items : List Json} (read : items? fuel text = some (items, rest)) :
    value? (fuel + 1) ('[' :: text) = some (.array items, rest) := by
  have opening : skipSpace ('[' :: text) = '[' :: text := rfl
  -- The empty array is looked for first, but a text that holds items is not taken for it.
  have filled : ∀ more, skipSpace text ≠ ']' :: more := by
    intro more closed
    rw [items?_bracket closed] at read
    cases read
  simp [value?, opening, read]

/-- A member starts with its name. -/
theorem expect?_writeString (name : String) (text : List Char) :
    expect? ['"'] (skipSpace (writeString name ++ text)) =
      some (name.toList.flatMap escapeChar ++ '"' :: text) := by
  simp [writeString, skipSpace, isSpace, expect?]

/-- A colon and a blank stand before the content of a member. -/
theorem value?_blank (fuel : Nat) (text : List Char) :
    expect? [':'] (skipSpace (':' :: ' ' :: text)) = some (' ' :: text) ∧
      value? fuel (' ' :: text) = value? fuel text :=
  have blank : ∀ c ∈ [' '], isSpace c := by simp [isSpace]
  ⟨rfl, value?_append blank fuel text⟩

/-- The last member stands before the closing brace. -/
theorem members?_last (name : String) {content : Json} (blank : ∀ c ∈ blanks, isSpace c)
    (read : value? fuel text = some (content, blanks ++ '\x7d' :: rest)) :
    members? (fuel + 1) (writeString name ++ ':' :: ' ' :: text) =
      some ([(some name, content)], rest) := by
  have body := stringBody?_flatMap name (':' :: ' ' :: text)
  obtain ⟨colon, skipped⟩ := value?_blank fuel text
  have closing : skipSpace (blanks ++ '\x7d' :: rest) = '\x7d' :: rest := by
    rw [skipSpace_append blank]
    rfl
  rw [members?, expect?_writeString]
  simp [body, colon, skipped, read, closing]

/-- The other members stand before commas. -/
theorem members?_next (name : String) {content : Json} {others : List (Option String × Json)}
    {more : List Char} (read : value? fuel text = some (content, ',' :: more))
    (readOthers : members? fuel more = some (others, rest)) :
    members? (fuel + 1) (writeString name ++ ':' :: ' ' :: text) =
      some ((some name, content) :: others, rest) := by
  have body := stringBody?_flatMap name (':' :: ' ' :: text)
  obtain ⟨colon, skipped⟩ := value?_blank fuel text
  have comma : skipSpace (',' :: more) = ',' :: more := rfl
  rw [members?, expect?_writeString]
  simp [body, colon, skipped, read, comma, readOthers]

/-- No member starts with the closing brace. -/
theorem members?_brace (closed : skipSpace text = '\x7d' :: rest) : members? fuel text = none := by
  cases fuel with
  | zero => rfl
  | succ fuel => simp [members?, closed, expect?]

/-- Members in braces are an object. -/
theorem value?_object {members : List (Option String × Json)}
    (read : members? fuel text = some (members, rest)) :
    value? (fuel + 1) ('\x7b' :: text) = some (ofMembers members, rest) := by
  have opening : skipSpace ('\x7b' :: text) = '\x7b' :: text := rfl
  -- The same goes for the empty object.
  have filled : ∀ more, skipSpace text ≠ '\x7d' :: more := by
    intro more closed
    rw [members?_brace closed] at read
    cases read
  simp [value?, opening, read]

end Parts

/-- Every readable tree has a text. -/
theorem Readable.length_pos {json : Json} (readable : json.Readable) (depth : Nat) :
    0 < (writePretty depth json).length := by
  refine List.length_pos_iff.mpr ?_
  match json with
  | .null | .bool true | .bool false => exact List.cons_ne_nil _ _
  | .string _ => exact List.cons_ne_nil _ _
  | .array [] | .array (_ :: _) | .object [] | .object (_ :: _) => simp [writePretty]
  | .valueless => exact readable.elim
  | .number value =>
    show writeNumber value ≠ []
    -- A number is written as a numeral that can be read, or else as null.
    by_cases finite : value.isFinite
    · obtain ⟨number, read⟩ := Option.isSome_iff_exists.mp (readable finite)
      obtain ⟨⟨numeral, tail⟩, found, _⟩ := Option.bind_eq_some_iff.mp read
      obtain ⟨c, more, written, _⟩ := head_of_numeral? found
      rw [written]
      exact List.cons_ne_nil _ _
    · rw [writeNumber_of_not_isFinite finite]
      exact List.cons_ne_nil _ _

/-- Members that all have names are an object of the same members. -/
theorem ofMembers_named (members : List (String × Json)) :
    ofMembers (members.map (Prod.map some id)) = .object members := by
  unfold ofMembers
  induction members with
  | nil => rfl
  | cons member members ih =>
    -- The other members are an object only because each of them was found to have a name.
    split at ih
    next found named =>
      obtain rfl := Json.object.inj ih
      simp [List.mapM_cons, named]
    next => cases ih

mutual

/-- The indented text of a readable tree is read as what is left of the tree, each number as it is
read again. -/
theorem value?_writePretty : (json : Json) → (readable : json.Readable) → (depth : Nat) →
    (fuel : Nat) → (rest : List Char) → (ends : EndsNumeral rest) →
    (enough : 2 * (writePretty depth json).length ≤ fuel + 1) →
    value? fuel (writePretty depth json ++ rest) = some (json.reread.stored, rest)
  -- Every text has a character, so two calls for each are at least one call.
  | json, readable, depth, 0, rest, ends, enough => by
    have positive := readable.length_pos depth
    omega
  | .null, readable, depth, fuel + 1, rest, ends, enough => by
    simp [writePretty, writeScalar, value?, skipSpace, isSpace, expect?, reread, stored]
  | .bool true, readable, depth, fuel + 1, rest, ends, enough => by
    simp [writePretty, writeScalar, value?, skipSpace, isSpace, expect?, reread, stored]
  | .bool false, readable, depth, fuel + 1, rest, ends, enough => by
    simp [writePretty, writeScalar, value?, skipSpace, isSpace, expect?, reread, stored]
  | .number value, readable, depth, fuel + 1, rest, ends, enough => by
    have kept := value.isFinite_reread
    rw [reread, stored, kept]
    by_cases finite : value.isFinite
    · obtain ⟨number, read⟩ := Option.isSome_iff_exists.mp (readable finite)
      have own : value.reread = number := by rw [Number.reread, read, Option.getD_some]
      rw [if_pos finite, own]
      exact value?_of_wholeNumber? read ends fuel
    · rw [if_neg finite]
      show value? (fuel + 1) (writeNumber value ++ rest) = _
      rw [writeNumber_of_not_isFinite finite]
      simp [value?, skipSpace, isSpace, expect?]
  | .string text, readable, depth, fuel + 1, rest, ends, enough => value?_writeString text rest fuel
  | .array [], readable, depth, fuel + 1, rest, ends, enough => by
    simp [writePretty, value?, skipSpace, isSpace, reread, rereadItems, stored, storedItems]
  | .array (item :: items), readable, depth, fuel + 1, rest, ends, enough => by
    simp only [writePretty, List.length_append, List.length_cons] at enough
    -- The brackets are characters of their own, which pays for the call that enters the list.
    have read := items?_prettyItems (item :: items) (List.cons_ne_nil _ _) readable (depth + 1)
      (newLine depth) (isSpace_newLine depth) fuel rest (by omega)
    rw [← items?_append (isSpace_newLine (depth + 1))] at read
    simpa [writePretty, reread, stored] using value?_array read
  | .object [], readable, depth, fuel + 1, rest, ends, enough => by
    simp [writePretty, value?, skipSpace, isSpace, reread, rereadMembers, stored, storedMembers]
  | .object (member :: members), readable, depth, fuel + 1, rest, ends, enough => by
    simp only [writePretty, List.length_append, List.length_cons] at enough
    have read := members?_prettyMembers (member :: members) (List.cons_ne_nil _ _) readable
      (depth + 1) (newLine depth) (isSpace_newLine depth) fuel rest (by omega)
    rw [← members?_append (isSpace_newLine (depth + 1))] at read
    have object := value?_object read
    rw [ofMembers_named] at object
    simpa [writePretty, reread, stored] using object

/-- So are items up to the closing bracket. -/
theorem items?_prettyItems : (items : List Json) → (filled : items ≠ []) →
    (readable : ItemsReadable items) → (depth : Nat) →
    (blanks : List Char) → (blank : ∀ c ∈ blanks, isSpace c) → (fuel : Nat) → (rest : List Char) →
    (enough : 2 * (prettyItems depth items).length ≤ fuel) →
    items? fuel (prettyItems depth items ++ (blanks ++ ']' :: rest)) =
      some (storedItems (rereadItems items), rest)
  | [], filled, _, _, _, _, _, _, _ => absurd rfl filled
  | item :: items, _, readable, depth, _, _, 0, _, enough => by
    have positive := readable.1.length_pos depth
    cases items <;> simp only [prettyItems, List.length_append] at enough <;> omega
  | [item], _, readable, depth, blanks, blank, fuel + 1, rest, enough => by
    simp only [prettyItems] at enough ⊢
    have ends := endsNumeral_append blank (endsNumeral_cons (c := ']') rfl rest)
    exact items?_last blank (value?_writePretty item readable.1 depth fuel _ ends (by omega))
  | item :: next :: items, _, readable, depth, blanks, blank, fuel + 1, rest, enough => by
    simp only [prettyItems, List.length_append, List.length_cons] at enough
    have read := value?_writePretty item readable.1 depth fuel
      (',' :: (newLine depth ++ (prettyItems depth (next :: items) ++ (blanks ++ ']' :: rest))))
      (endsNumeral_cons rfl _) (by omega)
    have others := items?_prettyItems (next :: items) (List.cons_ne_nil _ _) readable.2 depth
      blanks blank fuel rest (by omega)
    rw [← items?_append (isSpace_newLine depth)] at others
    simpa [prettyItems, rereadItems, storedItems] using items?_next read others

/-- So are members up to the closing brace. -/
theorem members?_prettyMembers : (members : List (String × Json)) → (filled : members ≠ []) →
    (readable : MembersReadable members) → (depth : Nat) →
    (blanks : List Char) → (blank : ∀ c ∈ blanks, isSpace c) → (fuel : Nat) → (rest : List Char) →
    (enough : 2 * (prettyMembers depth members).length ≤ fuel) →
    members? fuel (prettyMembers depth members ++ (blanks ++ '\x7d' :: rest)) =
      some ((storedMembers (rereadMembers members)).map (Prod.map some id), rest)
  | [], filled, _, _, _, _, _, _, _ => absurd rfl filled
  | (name, content) :: members, _, _, _, _, _, 0, _, enough => by
    cases members <;> simp [prettyMembers] at enough
  | [(name, content)], _, readable, depth, blanks, blank, fuel + 1, rest, enough => by
    simp only [prettyMembers, List.length_append, List.length_cons] at enough
    have ends := endsNumeral_append blank (endsNumeral_cons (c := '\x7d') rfl rest)
    have read := value?_writePretty content readable.1 depth fuel _ ends (by omega)
    simpa [prettyMembers, rereadMembers, storedMembers] using members?_last name blank read
  | (name, content) :: next :: members, _, readable, depth, blanks, blank, fuel + 1, rest,
      enough => by
    simp only [prettyMembers, List.length_append, List.length_cons] at enough
    have read := value?_writePretty content readable.1 depth fuel
      (',' :: (newLine depth ++
        (prettyMembers depth (next :: members) ++ (blanks ++ '\x7d' :: rest))))
      (endsNumeral_cons rfl _) (by omega)
    have others := members?_prettyMembers (next :: members) (List.cons_ne_nil _ _) readable.2
      depth blanks blank fuel rest (by omega)
    rw [← members?_append (isSpace_newLine depth)] at others
    simpa [prettyMembers, rereadMembers, storedMembers] using members?_next name read others

end

/-- The indented text of a readable tree is that of what is left of the tree, each number as it is
read again. -/
theorem read?_pretty_of_readable {json : Json} (readable : json.Readable) :
    read? json.pretty = some json.reread.stored := by
  have chars : json.pretty.toList = writePretty 0 json := by rw [pretty, String.toList_ofList]
  have ends : EndsNumeral [] := by rintro c ⟨⟩
  have enough : 2 * (writePretty 0 json).length ≤ 2 * (writePretty 0 json).length + 2 + 1 := by
    omega
  -- Nothing follows the value, so it is the whole text.
  have read := value?_writePretty json readable 0 _ [] ends enough
  rw [List.append_nil] at read
  rw [read?, chars, read]
  rfl

/-- The indented text of a storable tree is that of what is left of the tree. -/
theorem read?_pretty {json : Json} (storable : json.Storable) :
    read? json.pretty = some json.stored := by
  obtain ⟨readable, same⟩ := Storable.reread_eq json storable
  rw [read?_pretty_of_readable readable, same]

end CallChain.Json
