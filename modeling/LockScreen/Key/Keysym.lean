import LockScreen.Key.Code

/-!
From the keysyms of a keymap to portable key codes. A keysym of Latin-1 is its code point, one of
the block that encodes Unicode directly is its code point plus an offset, function keys keep their
order, and the remaining named keys come from a table.
-/

namespace LockScreen.Key

/-- Keysyms of named keys and the key each stands for. The left and right variants of Shift,
Control, Meta and Alt are one key. -/
def named : List (UInt32 × Key) :=
  [(0xff1b, escape), (0xff09, tab), (0xfe20, backtab), (0xff08, backspace), (0xff0d, returnKey),
    (0xff8d, enter), (0xff63, insert), (0xffff, delete), (0xff13, pause), (0xff61, print),
    (0xff15, sysReq), (0xff50, home), (0xff57, endKey), (0xff51, left), (0xff52, up),
    (0xff53, right), (0xff54, down), (0xff55, pageUp), (0xff56, pageDown), (0xffe1, shift),
    (0xffe2, shift), (0xffe3, control), (0xffe4, control), (0xffe7, metaKey), (0xffe8, metaKey),
    (0xffe9, alt), (0xffea, alt), (0xffe5, capsLock), (0xff7f, numLock), (0xff14, scrollLock),
    (0xffeb, superLeft), (0xffec, superRight), (0xff67, menu), (0xffed, hyperLeft),
    (0xffee, hyperRight), (0xff6a, help)]

def functionOffset : UInt32 := 0x00ff0072

/-- The portable key of a keysym. A code point that is a surrogate is no character. -/
def ofKeysym (keysym : UInt32) : Key :=
  if 0x20 ≤ keysym ∧ keysym < 0x100 then
    if 0x61 ≤ keysym ∧ keysym ≤ 0x7a then ⟨keysym - 0x61 + 0x41⟩ else ⟨keysym⟩
  else if 0x01000100 ≤ keysym ∧ keysym ≤ 0x0110ffff then
    let codePoint := keysym - 0x01000000
    if 0xd800 ≤ codePoint ∧ codePoint ≤ 0xdfff then unknown else ⟨codePoint⟩
  else if 0xffbe ≤ keysym ∧ keysym ≤ 0xffe0 then ⟨keysym + functionOffset⟩
  else (named.lookup keysym).getD unknown

end LockScreen.Key
