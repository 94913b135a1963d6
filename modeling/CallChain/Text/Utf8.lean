/-! Texts as bytes, read strictly or with replacement characters. -/

namespace CallChain

/-- The content of a file or a stored document. -/
abbrev Bytes := List UInt8

namespace Text

/-- The bytes of a text. -/
def toBytes (text : String) : Bytes :=
  text.toUTF8.data.toList

/-- The text whose bytes these are, if they are those of any. -/
def ofBytes? (bytes : Bytes) : Option String :=
  String.fromUTF8? ⟨bytes.toArray⟩

/-- What a first byte asks of the bytes after it. -/
structure Lead where
  /-- How many bytes have to follow. -/
  following : Nat
  /-- The high bits of the code point. -/
  high : Nat
  /-- The least second byte, which rules out overlong spellings. -/
  least : Nat
  /-- The greatest second byte, which rules out surrogates and what lies beyond Unicode. -/
  greatest : Nat

/-- What a byte beyond ASCII asks for when a character may start with it. -/
def lead? (byte : UInt8) : Option Lead :=
  let n := byte.toNat
  if n < 0xC2 then none
  else if n < 0xE0 then some ⟨1, n - 0xC0, 0x80, 0xBF⟩
  else if n = 0xE0 then some ⟨2, 0, 0xA0, 0xBF⟩
  else if n = 0xED then some ⟨2, 0xD, 0x80, 0x9F⟩
  else if n < 0xF0 then some ⟨2, n - 0xE0, 0x80, 0xBF⟩
  else if n = 0xF0 then some ⟨3, 0, 0x90, 0xBF⟩
  else if n < 0xF4 then some ⟨3, n - 0xF0, 0x80, 0xBF⟩
  else if n = 0xF4 then some ⟨3, 4, 0x80, 0x8F⟩
  else none

/-- The code point a started character ends in, if it does, and how many more bytes belong to it. -/
def continueFrom (codePoint taken : Nat) : (least greatest following : Nat) → Bytes → Option Nat × Nat
  | _, _, 0, _ => (some codePoint, taken)
  | _, _, _ + 1, [] => (none, taken)
  | least, greatest, following + 1, byte :: rest =>
    if least ≤ byte.toNat && byte.toNat ≤ greatest then
      continueFrom (codePoint * 64 + byte.toNat % 64) (taken + 1) 0x80 0xBF following rest
    else (none, taken)

/-- The replacement character. -/
def replacement : Char := '\uFFFD'

/-- Reads characters, with one replacement for each longest start of a character that breaks off. -/
def scan : Bytes → List Char
  | [] => []
  | byte :: rest =>
    if byte.toNat < 0x80 then Char.ofNat byte.toNat :: scan rest
    else
      match lead? byte with
      | none => replacement :: scan rest
      | some lead =>
        let (codePoint, taken) := continueFrom lead.high 0 lead.least lead.greatest lead.following rest
        (codePoint.map Char.ofNat).getD replacement :: scan (rest.drop taken)
termination_by bytes => bytes.length
decreasing_by all_goals simp [List.length_drop]; try omega

/-- The text of the bytes, broken characters replaced. -/
def ofBytesLossy (bytes : Bytes) : String :=
  match ofBytes? bytes with
  | some text => text
  | none => String.ofList (scan bytes)

end Text

end CallChain
