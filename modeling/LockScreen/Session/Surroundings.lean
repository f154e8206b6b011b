import LockScreen.Graphics.Device
import LockScreen.Graphics.Library
import LockScreen.Options
import LockScreen.Settings

namespace LockScreen.Session

open LockScreen.Graphics

structure Surroundings (σ : Type) where
  files : FileTree
  toml : Toml.Library
  configPaths : List String
  logSpecification : Option String
  graphics : Except LibraryFault (Device σ × σ)
  keymap : Option String

namespace Surroundings

variable {σ : Type}

/-- The settings: those in the file that the options name, which has to be sound, or else the first
that are found. -/
def settings (around : Surroundings σ) (options : Options) : Except Report Settings :=
  match options.config with
  | some path => Settings.ofFile around.toml path (around.files path)
  | none => .ok (Settings.search around.toml around.files around.configPaths).1

end Surroundings

end LockScreen.Session
