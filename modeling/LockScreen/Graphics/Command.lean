import LockScreen.Color

namespace LockScreen.Graphics

open LockScreen.Text

inductive Storage where
  | color
  | depthStencil
deriving DecidableEq, Repr

inductive Planes where
  | all
  | color
deriving DecidableEq, Repr

/-- Commands take the integers of the library, 32 bits and a sign. A binding to `none` undoes the
one before. -/
inductive Command where
  | bindRenderbuffer (name : Option UInt32)
  | renderbufferStorage (storage : Storage) (width height : Int32)
  | bindFramebuffer (name : Option UInt32)
  | attach (storage : Storage) (name : UInt32)
  | viewport (width height : Int32)
  | packTightly
  | scissorTest (on : Bool)
  | scissor (x y width height : Int32)
  | clearColor (color : Color)
  | clear (planes : Planes)
  | finish
  | deleteFramebuffer (name : UInt32)
  | deleteRenderbuffer (name : UInt32)
deriving DecidableEq, Repr

def Storage.format : Storage → String
  | .color => "0x8058"
  | .depthStencil => "0x88f0"

def Storage.attachment : Storage → String
  | .color => "0x8ce0"
  | .depthStencil => "0x821a"

def Planes.mask : Planes → String
  | .all => "0x4500"
  | .color => "0x4000"

def nameText (name : Option UInt32) : String :=
  toString (name.getD 0).toNat

def Command.text : Command → String
  | .bindRenderbuffer name => s!"BindRenderbuffer 0x8d41 {nameText name}"
  | .renderbufferStorage storage width height =>
    s!"RenderbufferStorage 0x8d41 {storage.format} {width.toInt} {height.toInt}"
  | .bindFramebuffer name => s!"BindFramebuffer 0x8d40 {nameText name}"
  | .attach storage name =>
    s!"FramebufferRenderbuffer 0x8d40 {storage.attachment} 0x8d41 {name.toNat}"
  | .viewport width height => s!"Viewport 0 0 {width.toInt} {height.toInt}"
  | .packTightly => "PixelStorei 0xd05 1"
  | .scissorTest on => if on then "Enable 0xc11" else "Disable 0xc11"
  | .scissor x y width height =>
    s!"Scissor {x.toInt} {y.toInt} {width.toInt} {height.toInt}"
  | .clearColor color =>
    let component (bits : UInt32) : String := Numeral.hexPadded 8 bits.toNat
    s!"ClearColor {component color.red} {component color.green} {component color.blue} " ++
      component color.alpha
  | .clear planes => s!"Clear {planes.mask}"
  | .finish => "Finish"
  | .deleteFramebuffer name => s!"DeleteFramebuffers 1 {name.toNat}"
  | .deleteRenderbuffer name => s!"DeleteRenderbuffers 1 {name.toNat}"

end LockScreen.Graphics
