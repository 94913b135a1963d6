import CallChain.Text.Utf8

/-! Binary codecs: data as bytes that tell where they end. -/

namespace CallChain

/-- A way to write data as bytes and to read it back from the start of a longer row of bytes. -/
structure Codec (α : Type) where
  write : α → Bytes
  /-- The data at the start, and the bytes after it. -/
  read? : Bytes → Option (α × Bytes)

namespace Codec

/-- The bytes of a number, the least significant first. -/
def littleEndian : (count : Nat) → Nat → Bytes
  | 0, _ => []
  | count + 1, n => UInt8.ofNat (n % 256) :: littleEndian count (n / 256)

/-- The number spelled by so many bytes, the least significant first. -/
def ofLittleEndian? : (count : Nat) → Bytes → Option (Nat × Bytes)
  | 0, bytes => some (0, bytes)
  | _ + 1, [] => none
  | count + 1, byte :: rest =>
    (ofLittleEndian? count rest).map fun (high, rest) => (byte.toNat + 256 * high, rest)

/-- A natural number in as few bytes as its size class needs: below 251 one, otherwise a marker
and two, four or eight bytes. -/
def writeNat (n : Nat) : Bytes :=
  if n < 251 then [UInt8.ofNat n]
  else if n < UInt16.size then 251 :: littleEndian 2 n
  else if n < UInt32.size then 252 :: littleEndian 4 n
  else 253 :: littleEndian 8 n

/-- A natural number of at most `width` bytes; a marker of a wider class is refused. -/
def readNat? (width : Nat) : Bytes → Option (Nat × Bytes)
  | [] => none
  | marker :: rest =>
    if marker.toNat < 251 then some (marker.toNat, rest)
    else if marker = 251 && 2 ≤ width then ofLittleEndian? 2 rest
    else if marker = 252 && 4 ≤ width then ofLittleEndian? 4 rest
    else if marker = 253 && 8 ≤ width then ofLittleEndian? 8 rest
    else none

/-- Natural numbers of 32 bits. -/
def word32 : Codec UInt32 where
  write n := writeNat n.toNat
  read? bytes := (readNat? 4 bytes).map fun (n, rest) => (UInt32.ofNat n, rest)

/-- Natural numbers of 64 bits. -/
def word64 : Codec UInt64 where
  write n := writeNat n.toNat
  read? bytes := (readNat? 8 bytes).map fun (n, rest) => (UInt64.ofNat n, rest)

/-- Integers as natural numbers that alternate between the two signs. -/
def zigzag (i : Int) : Nat :=
  if i < 0 then 2 * (-i).toNat - 1 else 2 * i.toNat

/-- The integer at a place of the alternating order. -/
def unzigzag (n : Nat) : Int :=
  if n % 2 = 1 then -((n / 2 : Nat) : Int) - 1 else (n / 2 : Nat)

/-- Integers of 64 bits. -/
def int64 : Codec Int64 where
  write i := writeNat (zigzag i.toInt)
  read? bytes := (readNat? 8 bytes).map fun (n, rest) => (Int64.ofInt (unzigzag n), rest)

/-- Eight bytes as they are. -/
def fixed64 : Codec UInt64 where
  write n := littleEndian 8 n.toNat
  read? bytes := (ofLittleEndian? 8 bytes).map fun (n, rest) => (UInt64.ofNat n, rest)

/-- Truth values in one byte. -/
def boolean : Codec Bool where
  write b := [if b then 1 else 0]
  read?
    | [] => none
    | byte :: rest =>
      if byte = 0 then some (false, rest) else if byte = 1 then some (true, rest) else none

/-- Data that may be absent, after a byte that tells whether it is there. -/
def option {α : Type} (codec : Codec α) : Codec (Option α) where
  write
    | none => [0]
    | some a => 1 :: codec.write a
  read?
    | [] => none
    | byte :: rest =>
      if byte = 0 then some (none, rest)
      else if byte = 1 then (codec.read? rest).map fun (a, rest) => (some a, rest)
      else none

/-- So many data in a row. -/
def readMany? {α : Type} (codec : Codec α) : (count : Nat) → Bytes → Option (List α × Bytes)
  | 0, bytes => some ([], bytes)
  | count + 1, bytes => do
    let (a, rest) ← codec.read? bytes
    let (others, rest) ← readMany? codec count rest
    return (a :: others, rest)

/-- Lists, after their length. -/
def list {α : Type} (codec : Codec α) : Codec (List α) where
  write as := writeNat as.length ++ as.flatMap codec.write
  read? bytes := do
    let (count, rest) ← readNat? 8 bytes
    readMany? codec count rest

/-- Texts, after the number of their bytes. -/
def text : Codec String where
  write s := writeNat (Text.toBytes s).length ++ Text.toBytes s
  read? bytes := do
    let (count, rest) ← readNat? 8 bytes
    let content := rest.take count
    if content.length < count then none
    else (Text.ofBytes? content).map fun s => (s, rest.drop count)

/-- Two data, one after the other. -/
def pair {α β : Type} (first : Codec α) (second : Codec β) : Codec (α × β) where
  write ab := first.write ab.1 ++ second.write ab.2
  read? bytes := do
    let (a, rest) ← first.read? bytes
    let (b, rest) ← second.read? rest
    return ((a, b), rest)

/-- Data written in the form of other data. -/
def via {α β : Type} (codec : Codec α) (form : β → α) (ofForm : α → β) : Codec β where
  write b := codec.write (form b)
  read? bytes := (codec.read? bytes).map fun (a, rest) => (ofForm a, rest)

/-- Members of a list of alternatives, by their position. -/
def oneOf {α : Type} [DecidableEq α] (alternatives : List α) : Codec α where
  write a := writeNat (alternatives.idxOf a)
  read? bytes := do
    let (index, rest) ← readNat? 4 bytes
    (alternatives[index]?).map (·, rest)

end Codec

end CallChain
