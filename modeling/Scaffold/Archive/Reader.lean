import Scaffold.Archive.Bytes

/-!
Archives read from the start: entry after entry, then the directory, which lists each of them once more, and
the end record, which tells of the directory. Numbers wrap round where they do not fit.
-/
namespace Scaffold.Archive

def number? : (width : Nat) → List UInt8 → Option (Nat × List UInt8)
  | 0, bytes => some (0, bytes)
  | _ + 1, [] => none
  | width + 1, byte :: rest => do
    let (high, rest) ← number? width rest
    return (byte.toNat + 256 * high, rest)

def take? (count : Nat) (bytes : List UInt8) : Option (List UInt8 × List UInt8) :=
  if bytes.length < count then none else some (bytes.take count, bytes.drop count)

def unstored? : (fuel : Nat) → List UInt8 → Option (List UInt8)
  | 0, _ => none
  | _ + 1, [] => none
  | fuel + 1, flag :: bytes => do
    let (length, bytes) ← number? 2 bytes
    let (check, bytes) ← number? 2 bytes
    if length + check != blockSize then none
    let (content, bytes) ← take? length bytes
    if flag == 0 then
      let more ← unstored? fuel bytes
      return content ++ more
    else if flag == 1 && bytes.isEmpty then return content
    else none

structure Header where
  method : Nat
  time : Nat
  date : Nat
  crc : Nat
  packed : Nat
  size : Nat
  name : Nat
  extra : Nat
  deriving DecidableEq, Repr

def header? (bytes : List UInt8) : Option (Header × List UInt8) := do
  let (_, bytes) ← take? 4 bytes
  let (method, bytes) ← number? 2 bytes
  let (time, bytes) ← number? 2 bytes
  let (date, bytes) ← number? 2 bytes
  let (crc, bytes) ← number? 4 bytes
  let (packed, bytes) ← number? 4 bytes
  let (size, bytes) ← number? 4 bytes
  let (name, bytes) ← number? 2 bytes
  let (extra, bytes) ← number? 2 bytes
  return (⟨method, time, date, crc, packed, size, name, extra⟩, bytes)

structure Listed where
  header : Header
  name : String
  offset : Nat
  deriving DecidableEq, Repr

structure Entry where
  listed : Listed
  content : ByteArray

structure Record where
  listed : Listed
  mode : Nat
  deriving DecidableEq, Repr

def content? (header : Header) (packed : List UInt8) : Option ByteArray := do
  if header.method != 8 then none
  let content ← unstored? packed.length packed
  if content.length != header.size then none
  if (crc32 ⟨content.toArray⟩).toNat != header.crc then none
  return ⟨content.toArray⟩

def unpackOne? (offset : Nat) (bytes : List UInt8) : Option (Entry × List UInt8) := do
  let (header, bytes) ← header? bytes
  let (name, bytes) ← take? header.name bytes
  let (_, bytes) ← take? header.extra bytes
  let (packed, bytes) ← take? header.packed bytes
  let name ← String.fromUTF8? ⟨name.toArray⟩
  let content ← content? header packed
  return (⟨⟨header, name, offset % 4294967296⟩, content⟩, bytes)

def entries? : (fuel offset : Nat) → List UInt8 → Option (List Entry × List UInt8)
  | 0, _, _ => none
  | fuel + 1, offset, bytes => do
    let (signature, rest) ← number? 4 bytes
    if signature != 0x04034b50 then return ([], bytes)
    let (entry, rest) ← unpackOne? offset rest
    let (entries, rest) ← entries? fuel (offset + (bytes.length - rest.length)) rest
    return (entry :: entries, rest)

def record? (bytes : List UInt8) : Option (Record × List UInt8) := do
  let (_, bytes) ← take? 2 bytes
  let (header, bytes) ← header? bytes
  let (comment, bytes) ← number? 2 bytes
  let (_, bytes) ← take? 4 bytes
  let (attributes, bytes) ← number? 4 bytes
  let (offset, bytes) ← number? 4 bytes
  let (name, bytes) ← take? header.name bytes
  let (_, bytes) ← take? (header.extra + comment) bytes
  let name ← String.fromUTF8? ⟨name.toArray⟩
  return (⟨⟨header, name, offset⟩, attributes / 65536⟩, bytes)

structure Ending where
  count : Nat
  length : Nat
  start : Nat
  comment : Nat
  deriving DecidableEq, Repr

def ending? (bytes : List UInt8) : Option (Ending × List UInt8) := do
  let (signature, bytes) ← number? 4 bytes
  if signature != 0x06054b50 then none
  let (_, bytes) ← take? 6 bytes
  let (count, bytes) ← number? 2 bytes
  let (length, bytes) ← number? 4 bytes
  let (start, bytes) ← number? 4 bytes
  let (comment, bytes) ← number? 2 bytes
  return (⟨count, length, start, comment⟩, bytes)

end Scaffold.Archive
