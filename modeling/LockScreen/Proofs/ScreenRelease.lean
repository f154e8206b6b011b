import LockScreen.Graphics.Software
import LockScreen.Proofs.GraphicsLeases
import LockScreen.Proofs.Runs
import LockScreen.Render.Screen

namespace LockScreen.Proofs.ScreenRelease

open LockScreen.Graphics
open LockScreen.Proofs.Runs LockScreen.Proofs.GraphicsLeases
open LockScreen.Render

variable {σ : Type} (device : Device σ)

section Drawing

theorem idle_perform (command : Command) :
    Makes (Rig.perform device command) fun _ new => Idle new :=
  idle_ask fun _ => rfl

theorem idle_performAll (commands : List Command) :
    Makes (Rig.performAll device commands) fun _ new => Idle new := by
  induction commands with
  | nil => exact idle_pure ()
  | cons command rest ih => exact idle_bind (idle_perform device command) fun _ => ih

theorem idle_renderbuffer (storage : Storage) (width height : UInt32) :
    Makes (Offscreen.renderbuffer device storage width height) fun _ new => Idle new := by
  refine idle_bind (idle_ask fun _ => rfl) ?_
  rintro (_ | name)
  · exact idle_pure none
  · exact idle_bind (idle_performAll device _) fun _ => idle_pure (some name)

theorem idle_assemble (framebuffer color depthStencil width height : UInt32) :
    Makes (Offscreen.assemble device framebuffer color depthStencil width height) fun _ new =>
      Idle new := by
  refine idle_bind (idle_performAll device _) fun _ => ?_
  refine idle_bind (idle_ask fun _ => rfl) fun status => ?_
  refine idle_bind (idle_perform device _) fun _ => ?_
  split
  · exact idle_bind (idle_logLine _ _ _) fun _ => idle_pure _
  · exact idle_bind (idle_performAll device _) fun _ => idle_pure _

theorem idle_create (width height : UInt32) :
    Makes (Offscreen.create device width height) fun _ new => Idle new := by
  refine idle_bind (idle_renderbuffer device _ _ _) ?_
  rintro (_ | color)
  · exact idle_pure _
  refine idle_bind (idle_renderbuffer device _ _ _) ?_
  rintro (_ | depthStencil)
  · exact idle_pure _
  refine idle_bind (idle_perform device _) fun _ => ?_
  refine idle_bind (idle_ask fun _ => rfl) ?_
  rintro (_ | framebuffer)
  · exact idle_pure _
  · exact idle_assemble device _ _ _ _ _

theorem idle_bindForRead (offscreen : Offscreen) :
    Makes (offscreen.bindForRead device) fun _ new => Idle new := by
  refine idle_bind (idle_perform device _) fun _ => ?_
  refine idle_bind (idle_ask fun _ => rfl) fun status => ?_
  split
  · exact idle_bind (idle_perform device _) fun _ => idle_pure _
  · exact idle_bind (idle_perform device _) fun _ => idle_pure _

theorem idle_paint (screen : Screen σ) : Makes (screen.paint device) fun _ new => Idle new := by
  refine idle_bind (idle_performAll device _) fun _ => ?_
  refine idle_bind (idle_performAll device _) fun _ => ?_
  split
  · refine idle_bind (idle_perform device _) fun _ => ?_
    exact idle_bind (idle_perform device _) fun _ => idle_pure _
  · exact idle_pure _

end Drawing

def Steady (before after : Rig σ) : Prop :=
  ∃ new, calls after = calls before ++ new ∧ Idle new

theorem Steady.refl (rig : Rig σ) : Steady rig rig :=
  ⟨[], (List.append_nil _).symm, rfl, rfl⟩

theorem Steady.trans {first second third : Rig σ} (h : Steady first second)
    (h' : Steady second third) : Steady first third := by
  obtain ⟨early, hearly, hidle⟩ := h
  obtain ⟨late, hlate, hidle'⟩ := h'
  exact ⟨early ++ late, by rw [hlate, hearly, List.append_assoc], hidle.append hidle'⟩

section Sources

variable {source : Frame.PixelSource (Rig σ)}

theorem steady_readRows (hrow : ∀ rig row size, Steady rig (source.readRow rig row size).2)
    (rowLength : Nat) (target : ByteArray) (rows y : Nat) (done : ByteArray) (rig : Rig σ) :
    Steady rig (Frame.readRows source rowLength target rows y done rig).2 := by
  induction rows generalizing y done rig with
  | zero => exact Steady.refl rig
  | succ rows ih => exact (hrow rig _ _).trans (ih _ _ _)

theorem steady_readBytes (hbind : ∀ rig, Steady rig (source.bind rig).2)
    (hrow : ∀ rig row size, Steady rig (source.readRow rig row size).2)
    (herror : ∀ rig, Steady rig (source.takeError rig).2)
    (hunbind : ∀ rig, Steady rig (source.unbind rig)) (need : Nat) (pixels : ByteArray)
    (rig : Rig σ) : Steady rig (Frame.readBytes source need pixels rig).2.2 := by
  have hbound := hbind rig
  unfold Frame.readBytes
  split
  · exact Steady.refl rig
  split
  · exact Steady.refl rig
  split
  · next hstep =>
      rw [hstep] at hbound
      exact hbound
  · next hstep =>
      rw [hstep] at hbound
      have hrows := hbound.trans (steady_readRows hrow (source.width.toNat * Frame.bytesPerPixel) pixels
        (need / (source.width.toNat * Frame.bytesPerPixel)) 0 ByteArray.empty _)
      exact hrows.trans ((herror _).trans (hunbind _))

end Sources

theorem steady_readOffscreen (offscreen : Offscreen) (pixels : ByteArray) (rig : Rig σ) :
    Steady rig (Frame.read (offscreen.source device) pixels rig).2.2 := by
  unfold Frame.read
  split
  · exact Steady.refl rig
  · apply steady_readBytes
    · exact idle_bindForRead device offscreen
    · exact fun rig _ _ => idle_ask (fun _ => rfl) rig
    · exact fun rig => idle_ask (fun _ => rfl) rig
    · exact fun rig => idle_perform device _ rig

inductive Use where
  | load
  | handle (outlet : Outlet) (event : SceneEvent)
  | draw
  | read (pixels : ByteArray)

def apply (target : Target (Screen σ)) (screen : Screen σ) : Use → Screen σ
  | .load => (target.load screen).2.1
  | .handle outlet event => (target.handle screen outlet event).2.1
  | .draw => (target.draw screen).2.1
  | .read pixels => (target.read screen pixels).2.2.1

def step (toml : Toml.Library) (path : String) (screen : Screen σ) (moment : FileTree × Use) :
    Screen σ :=
  apply (Screen.target device toml moment.1 path) screen moment.2

theorem steady_makeCurrent (current : Context) (rig : Rig σ) :
    Steady rig (current.makeCurrent device rig).2 :=
  makes_makeCurrent device current rig

theorem steady_apply (toml : Toml.Library) (files : FileTree) (path : String) (screen : Screen σ)
    (use : Use) :
    (apply (Screen.target device toml files path) screen use).context = screen.context ∧
      Steady screen.rig (apply (Screen.target device toml files path) screen use).rig := by
  have hcurrent := steady_makeCurrent device screen.context screen.rig
  cases use with
  | load =>
      simp only [apply, Screen.target, Screen.load, Screen.takeLines]
      rcases hstep : screen.context.makeCurrent device screen.rig with ⟨fault | ⟨⟩, rig⟩
      · rw [hstep] at hcurrent
        exact ⟨rfl, hcurrent⟩
      · rw [hstep] at hcurrent
        exact ⟨rfl, hcurrent⟩
  | handle outlet event => exact ⟨rfl, Steady.refl screen.rig⟩
  | draw =>
      simp only [apply, Screen.target, Screen.draw, Screen.takeLines]
      rcases hstep : screen.context.makeCurrent device screen.rig with ⟨fault | ⟨⟩, rig⟩
      · rw [hstep] at hcurrent
        exact ⟨rfl, hcurrent⟩
      · rw [hstep] at hcurrent
        exact ⟨rfl, hcurrent.trans (idle_paint device screen rig)⟩
  | read pixels => exact ⟨rfl, steady_readOffscreen device screen.offscreen pixels screen.rig⟩

theorem steady_run (toml : Toml.Library) (path : String) (screen : Screen σ)
    (uses : List (FileTree × Use)) :
    (run (step device toml path) screen uses).context = screen.context ∧
      Steady screen.rig (run (step device toml path) screen uses).rig := by
  refine invariant_run
    (I := fun later : Screen σ => later.context = screen.context ∧ Steady screen.rig later.rig)
    (fun later moment h => ?_) ⟨rfl, Steady.refl screen.rig⟩ uses
  obtain ⟨hcontext, hsteady⟩ := steady_apply device toml moment.1 path later moment.2
  exact ⟨hcontext.trans h.1, h.2.trans hsteady⟩

/-- Later on, just what a context holds was given back. -/
def GivesBack (current : Context) (before after : Rig σ) : Prop :=
  ∃ new, calls after = calls before ++ new ∧
    acquired new = [] ∧ returned new = (holdings current).reverse

theorem Steady.givesBack {current : Context} {first second third : Rig σ} (h : Steady first second)
    (h' : GivesBack current second third) : GivesBack current first third := by
  obtain ⟨early, hearly, hmade, hgone⟩ := h
  obtain ⟨late, hlate, hmade', hgone'⟩ := h'
  refine ⟨early ++ late, by rw [hlate, hearly, List.append_assoc], ?_, ?_⟩
  · rw [acquired_append, hmade, hmade']
    rfl
  · rw [returned_append, hgone, hgone']
    rfl

theorem release_givesBack (current : Context) (rig : Rig σ) :
    GivesBack current rig (current.release device rig).2 :=
  makes_release device current rig

theorem close_givesBack (screen : Screen σ) :
    GivesBack screen.context screen.rig (screen.close device) := by
  have hcurrent := steady_makeCurrent device screen.context screen.rig
  unfold Screen.close
  rcases hstep : screen.context.makeCurrent device screen.rig with ⟨fault | ⟨⟩, rig⟩
  · rw [hstep] at hcurrent
    have hwarned : Steady rig (Rig.logLine .warn Screen.logTarget
        s!"Leaking FBO, context lost: {fault.chain}" rig).2 :=
      Steady.refl rig
    exact (hcurrent.trans hwarned).givesBack (release_givesBack device _ _)
  · rw [hstep] at hcurrent
    exact (hcurrent.trans (idle_performAll device _ rig)).givesBack (release_givesBack device _ _)

/-- A screen starts out with what its context holds; one that is not to be leaves what an opening
may leave. -/
theorem build_acquires (prompt : Prompt) (width height : UInt32) (rig : Rig σ) :
    ∃ new, calls (Screen.build device prompt width height rig).2 = calls rig ++ new ∧
      match (Screen.build device prompt width height rig).1 with
      | .ok screen =>
          screen.rig = (Screen.build device prompt width height rig).2 ∧
            acquired new = holdings screen.context ∧ returned new = []
      | .error _ => Leaves new := by
  obtain ⟨opened, hopened, hresult⟩ := makes_openHeadless device rig
  rcases hopen : Context.openHeadless device rig with ⟨fault | current, ready⟩
  · have hbuild : Screen.build device prompt width height rig = (.error fault, ready) := by
      unfold Screen.build
      rw [hopen]
    rw [hopen] at hopened hresult
    rw [hbuild]
    exact ⟨opened, hopened, hresult⟩
  rw [hopen] at hopened hresult
  obtain ⟨hmade, hgone⟩ := hresult
  have htold : Steady ready (Context.introduce device ready).2 := makes_introduce device ready
  rcases hintroduce : Context.introduce device ready with ⟨⟨⟩, told⟩
  rw [hintroduce] at htold
  have hcreate := htold.trans (idle_create device width height told)
  rcases hoffscreen : Offscreen.create device width height told with ⟨fault | offscreen, final⟩
  · have hbuild : Screen.build device prompt width height rig =
        (.error fault, (current.release device final).2) := by
      unfold Screen.build
      rw [hopen]
      simp only [hintroduce, hoffscreen]
    rw [hoffscreen] at hcreate
    rw [hbuild]
    obtain ⟨back, hback, hmade', hgone'⟩ := hcreate.givesBack (release_givesBack device current final)
    refine ⟨opened ++ back, by rw [hback, hopened, List.append_assoc], Or.inr ⟨?_, ?_⟩⟩
    · intro display hlone
      rw [acquired_append, hmade, hmade'] at hlone
      exact absurd (congrArg List.length hlone) (by simp [holdings])
    · rw [returned_append, acquired_append, hmade, hmade', hgone, hgone', List.append_nil]
      rfl
  · have hbuild : Screen.build device prompt width height rig =
        (.ok ⟨prompt, offscreen, current, final⟩, final) := by
      unfold Screen.build
      rw [hopen]
      simp only [hintroduce, hoffscreen]
    rw [hoffscreen] at hcreate
    rw [hbuild]
    obtain ⟨idle, hidle, hmade', hgone'⟩ := hcreate
    refine ⟨opened ++ idle, by rw [hidle, hopened, List.append_assoc], rfl, ?_, ?_⟩
    · rw [acquired_append, hmade, hmade', List.append_nil]
    · rw [returned_append, hgone, hgone']
      rfl

/-- On any device, whatever its calls answer: an opened context holds a display, a context and
perhaps a surface, and letting go of it at any later time gives back each of them once, the display
last. The same holds of a screen that is built, used in any way and closed. An opening that fails
gives all back, except that a display stays open if nothing was created on it. -/
theorem screen_given_back (prompt : Prompt) (width height : UInt32) (toml : Toml.Library)
    (path : String) (uses : List (FileTree × Use)) (rig : Rig σ) :
    (∃ new, calls (Context.openHeadless device rig).2 = calls rig ++ new ∧
      match (Context.openHeadless device rig).1 with
      | .ok current =>
          acquired new = holdings current ∧ returned new = [] ∧
            ∀ later : Rig σ, GivesBack current later (current.release device later).2
      | .error _ => Leaves new) ∧
    match Screen.build device prompt width height rig with
    | (.ok screen, _) =>
        ∃ new, calls ((run (step device toml path) screen uses).close device) = calls rig ++ new ∧
          acquired new = holdings screen.context ∧
          returned new = (holdings screen.context).reverse
    | (.error _, after) => ∃ new, calls after = calls rig ++ new ∧ Leaves new := by
  constructor
  · obtain ⟨new, hnew, hresult⟩ := makes_openHeadless device rig
    refine ⟨new, hnew, ?_⟩
    revert hresult
    cases (Context.openHeadless device rig).1 with
    | error fault => exact id
    | ok current => exact fun ⟨hmade, hgone⟩ => ⟨hmade, hgone, release_givesBack device current⟩
  · obtain ⟨new, hnew, hresult⟩ := build_acquires device prompt width height rig
    rcases hbuild : Screen.build device prompt width height rig with ⟨fault | screen, after⟩
    · rw [hbuild] at hnew hresult
      exact ⟨new, hnew, hresult⟩
    rw [hbuild] at hnew hresult
    obtain ⟨hrig, hmade, hgone⟩ := hresult
    obtain ⟨hcontext, hsteady⟩ := steady_run device toml path screen uses
    have hclose := close_givesBack device (run (step device toml path) screen uses)
    rw [hcontext] at hclose
    obtain ⟨back, hback, hmade', hgone'⟩ := hsteady.givesBack hclose
    refine ⟨new ++ back, ?_, ?_, ?_⟩
    · rw [hback, hrig, ← List.append_assoc, ← hnew]
    · rw [acquired_append, hmade, hmade', List.append_nil]
    · rw [returned_append, hgone, hgone', List.nil_append]

def unbindable : Rig Software :=
  .new (.new [⟨"eglBindAPI", some 1, 0x3001⟩])

/-- An opening may fail with the display open and nobody left to close it. -/
theorem display_left_open :
    granted (Context.openHeadless Software.device unbindable).1 = false ∧
      acquired (calls (Context.openHeadless Software.device unbindable).2) = [.display 1] ∧
      returned (calls (Context.openHeadless Software.device unbindable).2) = [] := by
  decide +kernel

end LockScreen.Proofs.ScreenRelease
