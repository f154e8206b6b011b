namespace LockScreen.Graphics

inductive EglFault where
  | notOpened
  | badAccess
  | badAlloc
  | badAttribute
  | badConfig
  | badContext
  | badCurrentSurface
  | badDisplay
  | badMatch
  | badNativePixmap
  | badNativeWindow
  | badParameter
  | badSurface
  | contextLost
deriving DecidableEq, Repr

namespace EglFault

def ofCode? (code : Nat) : Option EglFault :=
  match code with
  | 0x3001 => some notOpened
  | 0x3002 => some badAccess
  | 0x3003 => some badAlloc
  | 0x3004 => some badAttribute
  | 0x3005 => some badConfig
  | 0x3006 => some badContext
  | 0x3007 => some badCurrentSurface
  | 0x3008 => some badDisplay
  | 0x3009 => some badMatch
  | 0x300a => some badNativePixmap
  | 0x300b => some badNativeWindow
  | 0x300c => some badParameter
  | 0x300d => some badSurface
  | 0x300e => some contextLost
  | _ => none

def message : EglFault → String
  | notOpened =>
    "EGL is not initialized, or could not be initialized, for the specified EGL display connection."
  | badAccess =>
    "EGL cannot access a requested resource (for example a context is bound in another thread."
  | badAlloc => "EGL failed to allocate resources for the requested operation."
  | badAttribute =>
    "An unrecognized attribute or attribute value was passed in the attribute list."
  | badConfig => "An Config argument does not name a valid EGL frame buffer configuration."
  | badContext => "An Context argument does not name a valid EGL rendering context."
  | badCurrentSurface =>
    "The current surface of the calling thread is a window, pixel buffer or pixmap that is no " ++
      "longer valid."
  | badDisplay => "An Display argument does not name a valid EGL display connection."
  | badMatch =>
    "Arguments are inconsistent (for example, a valid context requires buffers not supplied by a " ++
      "valid surface."
  | badNativePixmap => "A NativePixmapType argument does not refer to a valid native pixmap."
  | badNativeWindow => "A NativeWindowType argument does not refer to a valid native window."
  | badParameter => "One or more argument values are invalid."
  | badSurface =>
    "An Surface argument does not name a valid surface (window, pixel buffer or pixmap) " ++
      "configured for GL rendering."
  | contextLost =>
    "A power management event has occurred. The application must destroy all contexts and " ++
      "reinitialise OpenGL ES state and objects to continue rendering."

end EglFault

end LockScreen.Graphics
