import LockScreen.Image
import LockScreen.Image.Checksum

namespace LockScreen.Image

def word (value : UInt32) : ByteArray :=
  ⟨#[(value >>> 24).toUInt8, (value >>> 16).toUInt8, (value >>> 8).toUInt8, value.toUInt8]⟩

def chunk (kind : String) (content : ByteArray) : ByteArray :=
  let body := kind.toUTF8 ++ content
  word (UInt32.ofNat content.size) ++ body ++ word (redundancy body)

/-- The rows of an image, each behind a byte that says that it is not filtered. -/
def rows (image : Image) : (count row : Nat) → ByteArray → ByteArray
  | 0, _, done => done
  | count + 1, row, done =>
    let size := image.width.toNat * 4
    rows image count (row + 1)
      (done.push 0 ++ image.pixels.extract (row * size) ((row + 1) * size))

def blockLimit : Nat := 65535

/-- A block without compression; the last one is marked. -/
def block (content : ByteArray) (last : Bool) : ByteArray :=
  let size := UInt16.ofNat content.size
  let low (n : UInt16) : UInt8 := n.toUInt8
  let high (n : UInt16) : UInt8 := (n >>> 8).toUInt8
  ⟨#[if last then 1 else 0, low size, high size, low (~~~size), high (~~~size)]⟩ ++ content

def blocks (content : ByteArray) : (count position : Nat) → ByteArray → ByteArray
  | 0, _, done => done
  | count + 1, position, done =>
    let next := position + blockLimit
    blocks content count next
      (done ++ block (content.extract position next) (count = 0))

def packed (content : ByteArray) : ByteArray :=
  let count := content.size / blockLimit + 1
  blocks content count 0 ⟨#[0x78, 0x01]⟩ ++ word (checkSum content)

def signature : ByteArray :=
  ⟨#[0x89, 0x50, 0x4e, 0x47, 0x0d, 0x0a, 0x1a, 0x0a]⟩

def header (image : Image) : ByteArray :=
  word image.width ++ word image.height ++ ⟨#[8, 6, 0, 0, 0]⟩

def encode (image : Image) : ByteArray :=
  signature ++ chunk "IHDR" image.header ++
    chunk "IDAT" (packed (image.rows image.height.toNat 0 ByteArray.empty)) ++
    chunk "IEND" ByteArray.empty

end LockScreen.Image
