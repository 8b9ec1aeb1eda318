import Scaffold.Project.File

/-!
Zip archives. Each file becomes one entry, with its content in blocks that are stored as they are, a
fixed date and fixed permissions; so the same files always give the same bytes.
-/
namespace Scaffold.Archive

def crcStep (crc : UInt32) : UInt32 :=
  if crc &&& 1 == 1 then (crc >>> 1) ^^^ 0xEDB88320 else crc >>> 1

def crcByte (crc : UInt32) (byte : UInt8) : UInt32 :=
  (List.range 8).foldl (fun crc _ => crcStep crc) (crc ^^^ byte.toUInt32)

def crc32 (bytes : ByteArray) : UInt32 :=
  (bytes.foldl crcByte 0xFFFFFFFF) ^^^ 0xFFFFFFFF

def little : (width n : Nat) → List UInt8
  | 0, _ => []
  | width + 1, n => n.toUInt8 :: little width (n / 256)

def blockSize : Nat := 65535

def block (isLast : Bool) (bytes : List UInt8) : List UInt8 :=
  (if isLast then 1 else 0) ::
    (little 2 bytes.length ++ little 2 (blockSize - bytes.length) ++ bytes)

def stored (bytes : List UInt8) : List UInt8 :=
  if _long : blockSize < bytes.length then
    block false (bytes.take blockSize) ++ stored (bytes.drop blockSize)
  else block true bytes
termination_by bytes.length
decreasing_by
  simp only [blockSize, List.length_drop] at *
  omega

structure Item where
  name : List UInt8
  size : Nat
  crc : UInt32
  packed : List UInt8
  deriving DecidableEq, Repr

def Item.ofFile (file : File) : Item :=
  let content := file.content.toUTF8
  ⟨file.path.toUTF8.toList, content.size, crc32 content, stored content.toList⟩

namespace Item

def flags (item : Item) : Nat :=
  if item.name.all (· < 128) then 0 else Nat.pow 2 11

def common (item : Item) : List UInt8 :=
  little 2 20 ++ little 2 item.flags ++ little 2 8 ++ little 2 0 ++ little 2 33 ++
    little 4 item.crc.toNat ++ little 4 item.packed.length ++ little 4 item.size ++
    little 2 item.name.length ++ little 2 0

def body (item : Item) : List UInt8 :=
  little 4 0x04034b50 ++ item.common ++ item.name ++ item.packed

def listed (item : Item) (offset : Nat) : List UInt8 :=
  little 4 0x02014b50 ++ little 2 (3 * 256 + 20) ++ item.common ++ little 2 0 ++ little 2 0 ++
    little 2 0 ++ little 4 (0o100644 * Nat.pow 2 16) ++ little 4 offset ++ item.name

end Item

def parts : (offset : Nat) → List Item → List UInt8 × List UInt8
  | _, [] => ([], [])
  | offset, item :: rest =>
    let content := item.body
    let (contents, directory) := parts (offset + content.length) rest
    (content ++ contents, item.listed offset ++ directory)

def bytes (files : List File) : List UInt8 :=
  let items := files.map Item.ofFile
  let (contents, directory) := parts 0 items
  contents ++ directory ++ little 4 0x06054b50 ++ little 2 0 ++ little 2 0 ++
    little 2 items.length ++ little 2 items.length ++ little 4 directory.length ++
    little 4 contents.length ++ little 2 0

def encode (files : List File) : ByteArray :=
  ⟨(bytes files).toArray⟩

end Scaffold.Archive
