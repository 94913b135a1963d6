import CallChain.Json.Numeral

/-! Reading JSON texts into syntax trees. -/

namespace CallChain.Json

/-- The blanks that may stand between tokens. -/
def isSpace (c : Char) : Bool :=
  c == ' ' || c == '\n' || c == '\t' || c == '\r'

/-- A text from its first character that is no blank. -/
def skipSpace (text : List Char) : List Char :=
  text.dropWhile isSpace

/-- What follows a word that the text has to start with. -/
def expect? : (word text : List Char) → Option (List Char)
  | [], text => some text
  | _ :: _, [] => none
  | wanted :: word, found :: text => if wanted = found then expect? word text else none

/-- The value of a hexadecimal digit. -/
def hexDigit? (c : Char) : Option Nat :=
  if '0' ≤ c && c ≤ '9' then some (c.toNat - '0'.toNat)
  else if 'a' ≤ c && c ≤ 'f' then some (c.toNat - 'a'.toNat + 10)
  else if 'A' ≤ c && c ≤ 'F' then some (c.toNat - 'A'.toNat + 10)
  else none

/-- The code unit spelled by four hexadecimal digits. -/
def hexUnit? (a b c d : Char) : Option Nat := do
  return (← hexDigit? a) * 4096 + (← hexDigit? b) * 256 + (← hexDigit? c) * 16 + (← hexDigit? d)

/-- The character that a letter stands for after a backslash. -/
def shortEscape? (c : Char) : Option Nat :=
  if c = '"' || c = '\\' || c = '/' then some c.toNat
  else if c = 'b' then some 8
  else if c = 'f' then some 12
  else if c = 'n' then some 10
  else if c = 'r' then some 13
  else if c = 't' then some 9
  else none

/-- The code units up to the closing quote, and what follows it.

Characters count as one unit each, escapes as the unit they spell, which may be a surrogate. -/
def stringUnits? : List Char → Option (List Nat × List Char)
  | [] => none
  | c :: rest =>
    if c = '"' then some ([], rest)
    else if c = '\\' then
      match rest with
      | [] => none
      | letter :: rest =>
        if letter = 'u' then
          match rest with
          | a :: b :: c :: d :: rest => do
            let unit ← hexUnit? a b c d
            let (units, rest) ← stringUnits? rest
            return (unit :: units, rest)
          | _ => none
        else do
          let unit ← shortEscape? letter
          let (units, rest) ← stringUnits? rest
          return (unit :: units, rest)
    else if c.toNat < 0x20 then none
    else do
      let (units, rest) ← stringUnits? rest
      return (c.toNat :: units, rest)

/-- Whether a unit opens a pair of surrogates. -/
def isHighSurrogate (unit : Nat) : Bool :=
  0xD800 ≤ unit && unit < 0xDC00

/-- Whether a unit closes a pair of surrogates. -/
def isLowSurrogate (unit : Nat) : Bool :=
  0xDC00 ≤ unit && unit < 0xE000

/-- The characters of code units, if every surrogate has its partner. -/
def ofUnits? : List Nat → Option (List Char)
  | [] => some []
  | unit :: rest =>
    if isHighSurrogate unit then
      match rest with
      | [] => none
      | low :: rest =>
        if isLowSurrogate low then
          (ofUnits? rest).map (Char.ofNat (0x10000 + (unit - 0xD800) * 1024 + (low - 0xDC00)) :: ·)
        else none
    else if isLowSurrogate unit then none
    else (ofUnits? rest).map (Char.ofNat unit :: ·)

/-- The text up to the closing quote, none if it has no characters, and what follows it. -/
def stringBody? (text : List Char) : Option (Option String × List Char) := do
  let (units, rest) ← stringUnits? text
  return ((ofUnits? units).map String.ofList, rest)

/-- The tree of an object, which has no value when one of its names has none. -/
def ofMembers (members : List (Option String × Json)) : Json :=
  match members.mapM fun (name, content) => name.map (·, content) with
  | some members => .object members
  | none => .valueless

mutual

/-- The value at the start of a text, and what follows it. -/
def value? : (fuel : Nat) → List Char → Option (Json × List Char)
  | 0, _ => none
  | fuel + 1, text =>
    match skipSpace text with
    | [] => none
    | c :: rest =>
      if c = '"' then do
        let (content, rest) ← stringBody? rest
        return (content.elim .valueless .string, rest)
      else if c = '[' then
        match skipSpace rest with
        | ']' :: rest => some (.array [], rest)
        | _ => do
          let (items, rest) ← items? fuel rest
          return (.array items, rest)
      else if c = '\x7b' then
        match skipSpace rest with
        | '\x7d' :: rest => some (.object [], rest)
        | _ => do
          let (members, rest) ← members? fuel rest
          return (ofMembers members, rest)
      else if c = 'n' then do return (.null, ← expect? "ull".toList rest)
      else if c = 't' then do return (.bool true, ← expect? "rue".toList rest)
      else if c = 'f' then do return (.bool false, ← expect? "alse".toList rest)
      else do
        let (numeral, rest) ← numeral? (c :: rest)
        return (numeral.value?.elim .valueless .number, rest)

/-- The items of an array from the first of them to the closing bracket. -/
def items? : (fuel : Nat) → List Char → Option (List Json × List Char)
  | 0, _ => none
  | fuel + 1, text => do
    let (item, rest) ← value? fuel text
    match skipSpace rest with
    | ',' :: rest =>
      let (others, rest) ← items? fuel rest
      return (item :: others, rest)
    | ']' :: rest => return ([item], rest)
    | _ => none

/-- The members of an object from the first of them to the closing brace. -/
def members? : (fuel : Nat) → List Char → Option (List (Option String × Json) × List Char)
  | 0, _ => none
  | fuel + 1, text => do
    let opened ← expect? ['"'] (skipSpace text)
    let (name, rest) ← stringBody? opened
    let rest ← expect? [':'] (skipSpace rest)
    let (content, rest) ← value? fuel rest
    match skipSpace rest with
    | ',' :: rest =>
      let (others, rest) ← members? fuel rest
      return ((name, content) :: others, rest)
    | '\x7d' :: rest => return ([(name, content)], rest)
    | _ => none

end

/-- The tree of a whole text, with nothing but blanks around the value. -/
def read? (text : String) : Option Json := do
  let chars := text.toList
  -- A call and the list it enters share at least one character, so two calls for each suffice.
  let (json, rest) ← value? (2 * chars.length + 2) chars
  if (skipSpace rest).isEmpty then some json else none

end CallChain.Json
