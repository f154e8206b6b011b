namespace LockScreen.Image

def divisor : UInt32 := 0xedb88320

def divide : Nat → UInt32 → UInt32
  | 0, rest => rest
  | bits + 1, rest =>
    divide bits (if rest &&& 1 = 0 then rest >>> 1 else (rest >>> 1) ^^^ divisor)

def divideByte (rest : UInt32) (byte : UInt8) : UInt32 :=
  divide 8 (rest ^^^ byte.toUInt32)

def redundancy (bytes : ByteArray) : UInt32 :=
  bytes.foldl divideByte 0xffffffff ^^^ 0xffffffff

def modulus : UInt32 := 65521

def addByte (sums : UInt32 × UInt32) (byte : UInt8) : UInt32 × UInt32 :=
  let first := (sums.1 + byte.toUInt32) % modulus
  (first, (sums.2 + first) % modulus)

def checkSum (bytes : ByteArray) : UInt32 :=
  let sums := bytes.foldl addByte (1, 0)
  (sums.2 <<< 16) ||| sums.1

end LockScreen.Image
