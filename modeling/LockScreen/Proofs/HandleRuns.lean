import LockScreen.Render.Life

namespace LockScreen.Proofs.HandleRuns

open LockScreen.Render

inductive Deed where
  | check
  | takeLoad
  | takeRender
  | crash

def Deed.act (life : Life) : Deed → Life
  | check => if life.stopRequested then { life with thread := .leaving false } else life
  | takeLoad => { life with loadRequested := false }
  | takeRender => { life with renderRequested := false }
  | crash => { life with thread := .leaving true }

def turn (setup : Setup) (life : Life) (deed : Deed) : Life :=
  match life.thread with
  | .serving => deed.act life
  | _ => (life.work setup).1

inductive Call where
  | start (setup : Setup)
  | provide (provider : Frame.Provider)
  | ask
  /-- The end of the handle. A cleanup is followed by a drop, which does the same again. -/
  | close (again : Bool)

inductive Errand where
  | free
  | starting
  | closing (again : Bool)
  | gone

structure Handle where
  life : Life
  errand : Errand
  setups : List Setup
  results : List (Except Report Unit)

namespace Handle

def new : Handle := ⟨.new, .free, [], []⟩

def setup (handle : Handle) : Setup :=
  handle.setups.headD .built

def call (handle : Handle) : Call → Handle
  | .start setup =>
      match handle.life.spawn with
      | (.ok (), life) =>
          { handle with life, errand := .starting, setups := handle.setups ++ [setup] }
      | (.error fault, life) =>
          { handle with
            life, setups := handle.setups ++ [setup], results := handle.results ++ [.error fault] }
  | .provide provider => { handle with life := (handle.life.setProvider provider).1 }
  | .ask => { handle with life := handle.life.requestRender }
  | .close again => { handle with life := handle.life.halt, errand := .closing again }

def proceed (handle : Handle) : Handle :=
  match handle.errand with
  | .free | .gone => handle
  | .starting =>
      match handle.life.proceed with
      | (some result, life, _) =>
          { handle with life, errand := .free, results := handle.results ++ [result] }
      | (none, life, _) => { handle with life }
  | .closing again =>
      match handle.life.control, again with
      | .idle, true => { handle with life := handle.life.halt, errand := .closing false }
      | .idle, false => { handle with errand := .gone }
      | _, _ => { handle with life := handle.life.proceed.2.1 }

end Handle

def roused (life : Life) : Life :=
  { life with outcome := life.outcome.rouse Life.controlWaiter }

inductive Move where
  /-- Is not made while another call is carried out, or when the handle is gone. -/
  | call (call : Call)
  | control
  | rouse
  | thread (deed : Deed)

def step (handle : Handle) : Move → Handle
  | .call call =>
      match handle.errand with
      | .free => handle.call call
      | _ => handle
  | .control => handle.proceed
  | .rouse => { handle with life := roused handle.life }
  | .thread deed => { handle with life := turn handle.setup handle.life deed }

def word : Setup → Except String Unit
  | .built => .ok ()
  | .failed fault => .error fault.chain
  | .crashed => .error Life.silentEnd

def said (setup : Setup) : Thread → Option (Except String Unit)
  | .unborn | .building | .settling _ | .announcing _ => none
  | .serving => some (.ok ())
  | .leaving _ => if setup = .crashed then none else some (word setup)
  | .ended _ => some (word setup)

def shown (setup : Setup) : Thread → Phase
  | .unborn | .building | .settling _ => .initializing
  | .announcing none | .serving => .ready
  | .announcing (some _) => .stopped
  | .leaving _ | .ended _ =>
      match setup with
      | .built => .ready
      | .failed _ => .stopped
      | .crashed => .initializing

def Reaches (setup : Setup) : Thread → Prop
  | .settling fault | .announcing fault => setup = fault.elim .built .failed
  | .serving => setup = .built
  | .unborn | .building | .leaving _ | .ended _ => True

def Past : Thread → Prop
  | .serving | .leaving _ | .ended _ => True
  | .unborn | .building | .settling _ | .announcing _ => False

def Over (thread : Thread) : Prop :=
  ∃ crashed, thread = .ended crashed

theorem Over.past {thread : Thread} (h : Over thread) : Past thread := by
  obtain ⟨crashed, rfl⟩ := h
  exact trivial

/-- A thread that was started has gone where its setup brings it and has said its word, if it has
said anything. Nobody sleeps once there is an outcome. -/
structure Raised (setup : Setup) (life : Life) : Prop where
  born : life.thread ≠ .unborn
  reaches : Reaches setup life.thread
  outcome : life.outcome.outcome = said setup life.thread
  awake : life.outcome.outcome ≠ none → life.outcome.parked = []

section Turns

variable {setup : Setup} {life : Life} {deed : Deed}

theorem Raised.congr (h : Raised setup life) {after : Life} (hthread : after.thread = life.thread)
    (houtcome : after.outcome = life.outcome) : Raised setup after := by
  obtain ⟨hborn, hreaches, hsaid, hawake⟩ := h
  rw [← hthread] at hborn hreaches hsaid
  rw [← houtcome] at hsaid hawake
  exact ⟨hborn, hreaches, hsaid, hawake⟩

theorem publish_spec {ρ : Type} {signal : Signal ρ} (outcome : ρ)
    (hawake : signal.outcome ≠ none → signal.parked = []) :
    (signal.publish outcome).outcome = some (signal.outcome.getD outcome) ∧
      (signal.publish outcome).parked = [] := by
  unfold Signal.publish
  cases hsaid : signal.outcome with
  | none => exact ⟨rfl, rfl⟩
  | some said =>
      refine ⟨hsaid, hawake ?_⟩
      rw [hsaid]
      exact Option.some_ne_none said

theorem said_leaving (setup : Setup) (crashed : Bool) :
    some ((said setup (.leaving crashed)).getD (.error Life.silentEnd)) =
      said setup (.ended crashed) := by
  cases setup with
  | built | failed | crashed => rfl

theorem Raised.turn (h : Raised setup life) : Raised setup (turn setup life deed) := by
  obtain ⟨startable, phase, stopRequested, load, render, provider, signal, thread, control, owned⟩ := life
  obtain ⟨hborn, hreaches, houtcome, hawake⟩ := h
  cases thread with
  | unborn => exact absurd rfl hborn
  | building =>
      cases setup with
      | built | failed | crashed => exact ⟨Thread.noConfusion, by trivial, houtcome, hawake⟩
  | settling fault =>
      cases fault with
      | none | some => exact ⟨Thread.noConfusion, hreaches, houtcome, hawake⟩
  | announcing fault =>
      change signal.outcome = none at houtcome
      cases fault with
      | none =>
          obtain ⟨hsaid, hparked⟩ := publish_spec (.ok ()) hawake
          rw [houtcome] at hsaid
          exact ⟨Thread.noConfusion, hreaches, hsaid, fun _ => hparked⟩
      | some fault =>
          obtain rfl : setup = .failed fault := hreaches
          obtain ⟨hsaid, hparked⟩ := publish_spec (.error fault.chain) hawake
          rw [houtcome] at hsaid
          exact ⟨Thread.noConfusion, trivial, hsaid, fun _ => hparked⟩
  | serving =>
      obtain rfl : setup = .built := hreaches
      cases deed with
      | check =>
          cases stopRequested with
          | false => exact ⟨hborn, rfl, houtcome, hawake⟩
          | true => exact ⟨Thread.noConfusion, trivial, houtcome, hawake⟩
      | takeLoad | takeRender => exact ⟨hborn, rfl, houtcome, hawake⟩
      | crash => exact ⟨Thread.noConfusion, trivial, houtcome, hawake⟩
  | leaving crashed =>
      obtain ⟨hsaid, hparked⟩ := publish_spec (.error Life.silentEnd) hawake
      change signal.outcome = said setup (.leaving crashed) at houtcome
      rw [houtcome, said_leaving] at hsaid
      exact ⟨Thread.noConfusion, trivial, hsaid, fun _ => hparked⟩
  | ended crashed => exact ⟨hborn, trivial, houtcome, hawake⟩

theorem turn_frame (setup : Setup) (life : Life) (deed : Deed) :
    (turn setup life deed).startable = life.startable ∧
      (turn setup life deed).control = life.control ∧
      (turn setup life deed).owned = life.owned ∧
      (turn setup life deed).stopRequested = life.stopRequested ∧
      (turn setup life deed).provider = life.provider := by
  obtain ⟨startable, phase, stopRequested, load, render, provider, signal, thread, control, owned⟩ := life
  cases thread with
  | unborn | leaving | ended => exact ⟨rfl, rfl, rfl, rfl, rfl⟩
  | building =>
      cases setup with
      | built | failed | crashed => exact ⟨rfl, rfl, rfl, rfl, rfl⟩
  | settling fault | announcing fault =>
      cases fault with
      | none | some => exact ⟨rfl, rfl, rfl, rfl, rfl⟩
  | serving =>
      cases deed with
      | check =>
          cases stopRequested with
          | false | true => exact ⟨rfl, rfl, rfl, rfl, rfl⟩
      | takeLoad | takeRender | crash => exact ⟨rfl, rfl, rfl, rfl, rfl⟩

theorem turn_past (setup : Setup) (deed : Deed) (hpast : Past life.thread) :
    Past (turn setup life deed).thread ∧ (turn setup life deed).phase = life.phase := by
  obtain ⟨startable, phase, stopRequested, load, render, provider, signal, thread, control, owned⟩ := life
  cases thread with
  | unborn | building | settling | announcing => exact absurd hpast id
  | leaving | ended => exact ⟨trivial, rfl⟩
  | serving =>
      cases deed with
      | check =>
          cases stopRequested with
          | false | true => exact ⟨trivial, rfl⟩
      | takeLoad | takeRender | crash => exact ⟨trivial, rfl⟩

theorem turn_over (setup : Setup) (deed : Deed) (hover : Over life.thread) :
    turn setup life deed = life := by
  obtain ⟨crashed, hthread⟩ := hover
  simp only [turn, Life.work, hthread]

theorem turn_unborn (setup : Setup) (deed : Deed) (hunborn : life.thread = .unborn) :
    turn setup life deed = life := by
  simp only [turn, Life.work, hunborn]

theorem Raised.turn_shown (h : Raised setup life) (deed : Deed)
    (hphase : life.phase = shown setup life.thread) :
    (HandleRuns.turn setup life deed).phase = shown setup (HandleRuns.turn setup life deed).thread ∧
      life.phase.rank ≤ (HandleRuns.turn setup life deed).phase.rank := by
  obtain ⟨startable, phase, stopRequested, load, render, provider, signal, thread, control, owned⟩ := life
  obtain rfl : phase = shown setup thread := hphase
  have hreaches : Reaches setup thread := h.reaches
  cases thread with
  | unborn => exact absurd rfl h.born
  | building =>
      cases setup with
      | built | failed | crashed => exact ⟨rfl, Nat.le_refl _⟩
  | settling fault =>
      cases fault with
      | none => exact ⟨rfl, show 1 ≤ 2 by decide⟩
      | some => exact ⟨rfl, show 1 ≤ 5 by decide⟩
  | announcing fault =>
      cases fault with
      | none => exact ⟨rfl, Nat.le_refl _⟩
      | some fault =>
          obtain rfl : setup = .failed fault := hreaches
          exact ⟨rfl, Nat.le_refl _⟩
  | serving =>
      obtain rfl : setup = .built := hreaches
      cases deed with
      | check =>
          cases stopRequested with
          | false | true => exact ⟨rfl, Nat.le_refl _⟩
      | takeLoad | takeRender | crash => exact ⟨rfl, Nat.le_refl _⟩
  | leaving crashed | ended crashed => exact ⟨rfl, Nat.le_refl _⟩

end Turns

section Looks

variable {setup : Setup} {life : Life}

theorem look_spec {ρ : Type} (signal : Signal ρ) (waiter : Nat) :
    (signal.look waiter).1 = signal.outcome ∧
      (signal.look waiter).2.outcome = signal.outcome ∧
      (signal.outcome ≠ none → signal.parked = [] → (signal.look waiter).2.parked = []) := by
  unfold Signal.look
  cases hsaid : signal.outcome with
  | none => exact ⟨rfl, rfl, fun hnone => absurd rfl hnone⟩
  | some outcome =>
      refine ⟨rfl, rfl, fun _ hparked => ?_⟩
      rw [hparked]
      rfl

theorem Raised.look (h : Raised setup life) (control : Control) (owned : Bool) :
    Raised setup
      { life with outcome := (life.outcome.look Life.controlWaiter).2, control, owned } := by
  obtain ⟨hborn, hreaches, houtcome, hawake⟩ := h
  obtain ⟨-, hsame, hparked⟩ := look_spec life.outcome Life.controlWaiter
  refine ⟨hborn, hreaches, hsame.trans houtcome, fun hsaid => ?_⟩
  rw [hsame] at hsaid
  exact hparked hsaid (hawake hsaid)

theorem past_of_said {thread : Thread} {told : Except String Unit}
    (h : said setup thread = some told) : Past thread := by
  cases thread with
  | unborn | building | settling | announcing => cases h
  | serving | leaving | ended => trivial

theorem said_eq_word {thread : Thread} {told : Except String Unit} (hreaches : Reaches setup thread)
    (h : said setup thread = some told) : word setup = told := by
  cases thread with
  | unborn | building | settling | announcing => cases h
  | serving =>
      obtain rfl : setup = .built := hreaches
      exact Option.some.inj h
  | leaving crashed =>
      cases setup with
      | built | failed => exact Option.some.inj h
      | crashed => cases h
  | ended => exact Option.some.inj h

theorem word_eq_ok_iff : word setup = .ok () ↔ setup = .built := by
  cases setup with
  | built => exact ⟨fun _ => rfl, fun _ => rfl⟩
  | failed | crashed => exact ⟨nofun, nofun⟩

theorem shown_built {thread : Thread} (h : Past thread) : shown .built thread = .ready := by
  cases thread with
  | unborn | building | settling | announcing => exact absurd h id
  | serving | leaving | ended => rfl

theorem Raised.rouse (h : Raised setup life) : Raised setup (roused life) := by
  obtain ⟨hborn, hreaches, houtcome, hawake⟩ := h
  refine ⟨hborn, hreaches, houtcome, fun hsaid => ?_⟩
  show life.outcome.parked.filter _ = []
  rw [hawake hsaid]
  rfl

end Looks

end LockScreen.Proofs.HandleRuns
