/-!
# CRC-32

The CRC-32 checksum of IEEE 802.3: the remainder of the message as a polynomial over two elements,
bits in reflected order, started and finished with all ones.
-/
namespace ChatEngine.Crc32

/-- The generator polynomial in reflected order. -/
def polynomial : UInt32 := 0xedb88320

def shiftBit (r : UInt32) : UInt32 :=
  if r &&& 1 = 1 then (r >>> 1) ^^^ polynomial else r >>> 1

def addByte (r : UInt32) (byte : UInt8) : UInt32 :=
  (List.range 8).foldl (fun r _ => shiftBit r) (r ^^^ byte.toUInt32)

def ofBytes (bytes : List UInt8) : UInt32 :=
  bytes.foldl addByte 0xffffffff ^^^ 0xffffffff

def ofText (s : String) : UInt32 := ofBytes s.toUTF8.toList

end ChatEngine.Crc32
