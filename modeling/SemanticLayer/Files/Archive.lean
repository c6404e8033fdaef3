/-!
Archives in the ZIP format: a record for each file with its bytes as they are, a directory of these
records, and a closing record that says where the directory starts. Names are in UTF-8, and every
file has the earliest date that the format can express.
-/
namespace SemanticLayer.Archive

/-- A number in a count of bytes, the lowest byte first. -/
def littleEndian : Nat → Nat → List UInt8
  | 0, _ => []
  | count + 1, n => UInt8.ofNat n :: littleEndian count (n / 256)

/-- One step of the division by the reversed polynomial of the checksum. -/
def divideBit (r : UInt32) : UInt32 :=
  if r &&& 1 = 1 then (r >>> 1) ^^^ 0xEDB88320 else r >>> 1

/-- The remainder after one more byte. -/
def divideByte (r : UInt32) (b : UInt8) : UInt32 :=
  (divideBit ∘ divideBit ∘ divideBit ∘ divideBit ∘ divideBit ∘ divideBit ∘ divideBit ∘ divideBit)
    (r ^^^ b.toUInt32)

/-- The cyclic checksum of bytes. -/
def crc32 (bytes : List UInt8) : UInt32 := bytes.foldl divideByte 0xFFFFFFFF ^^^ 0xFFFFFFFF

/-- A file of an archive. -/
structure Member where
  name : List UInt8
  content : List UInt8

/-- The fields that the record of a file and its entry in the directory share: version, flag of
UTF-8 names, no compression, time, date, checksum, both sizes, length of the name, and no extra
field. -/
def sharedFields (m : Member) : List UInt8 :=
  littleEndian 2 20 ++ littleEndian 2 0x0800 ++ littleEndian 2 0 ++ littleEndian 2 0
    ++ littleEndian 2 0x0021 ++ littleEndian 4 (crc32 m.content).toNat
    ++ littleEndian 4 m.content.length ++ littleEndian 4 m.content.length
    ++ littleEndian 2 m.name.length ++ littleEndian 2 0

/-- The record of a file. -/
def record (m : Member) : List UInt8 :=
  littleEndian 4 0x04034B50 ++ sharedFields m ++ m.name ++ m.content

/-- The entry of the directory for a file whose record starts at an offset. -/
def directoryEntry (offset : Nat) (m : Member) : List UInt8 :=
  littleEndian 4 0x02014B50 ++ littleEndian 2 20 ++ sharedFields m ++ littleEndian 2 0
    ++ littleEndian 2 0 ++ littleEndian 2 0 ++ littleEndian 4 0 ++ littleEndian 4 offset ++ m.name

/-- The directory of files whose records start at an offset. -/
def directory : Nat → List Member → List UInt8
  | _, [] => []
  | offset, m :: rest => directoryEntry offset m ++ directory (offset + (record m).length) rest

/-- The closing record. -/
def closing (count offset size : Nat) : List UInt8 :=
  littleEndian 4 0x06054B50 ++ littleEndian 2 0 ++ littleEndian 2 0 ++ littleEndian 2 count
    ++ littleEndian 2 count ++ littleEndian 4 size ++ littleEndian 4 offset ++ littleEndian 2 0

/-- The bytes of the archive of some files. -/
def bytes (members : List Member) : List UInt8 :=
  let records := members.flatMap record
  let entries := directory 0 members
  records ++ entries ++ closing members.length records.length entries.length

end SemanticLayer.Archive
