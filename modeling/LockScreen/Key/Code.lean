namespace LockScreen

structure Key where
  code : UInt32
deriving DecidableEq, Repr

namespace Key

def escape : Key := ⟨0x01000000⟩
def tab : Key := ⟨0x01000001⟩
def backtab : Key := ⟨0x01000002⟩
def backspace : Key := ⟨0x01000003⟩
def returnKey : Key := ⟨0x01000004⟩
def enter : Key := ⟨0x01000005⟩
def insert : Key := ⟨0x01000006⟩
def delete : Key := ⟨0x01000007⟩
def pause : Key := ⟨0x01000008⟩
def print : Key := ⟨0x01000009⟩
def sysReq : Key := ⟨0x0100000a⟩
def home : Key := ⟨0x01000010⟩
def endKey : Key := ⟨0x01000011⟩
def left : Key := ⟨0x01000012⟩
def up : Key := ⟨0x01000013⟩
def right : Key := ⟨0x01000014⟩
def down : Key := ⟨0x01000015⟩
def pageUp : Key := ⟨0x01000016⟩
def pageDown : Key := ⟨0x01000017⟩
def shift : Key := ⟨0x01000020⟩
def control : Key := ⟨0x01000021⟩
def metaKey : Key := ⟨0x01000022⟩
def alt : Key := ⟨0x01000023⟩
def capsLock : Key := ⟨0x01000024⟩
def numLock : Key := ⟨0x01000025⟩
def scrollLock : Key := ⟨0x01000026⟩
def f1 : Key := ⟨0x01000030⟩
def f35 : Key := ⟨0x01000052⟩
def superLeft : Key := ⟨0x01000053⟩
def superRight : Key := ⟨0x01000054⟩
def menu : Key := ⟨0x01000055⟩
def hyperLeft : Key := ⟨0x01000056⟩
def hyperRight : Key := ⟨0x01000057⟩
def help : Key := ⟨0x01000058⟩
def unknown : Key := ⟨0x01ffffff⟩

def function? (n : UInt32) : Option Key :=
  if 1 ≤ n ∧ n ≤ 35 then some ⟨f1.code + n - 1⟩ else none

end Key

end LockScreen
