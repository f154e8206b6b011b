import LockScreen.Proofs.LoopChronicle
import LockScreen.Proofs.LoopSteps
import LockScreen.Proofs.TargetRefinement

namespace LockScreen.Proofs.FrameTriggers

open LockScreen.Render LockScreen.Repeat LockScreen.Wire
open LockScreen.Proofs.Runs LockScreen.Proofs.LoopRuns LockScreen.Proofs.LoopSteps
open LockScreen.Proofs.LoopChronicle LockScreen.Proofs.TargetRefinement

variable {x : Xkb} {τ : Type}

def isCall : Moment → Bool
  | .loaded | .handled _ | .drew => true
  | .began | .took _ | .ended | .asked => false

/-- A target that does what another does, and writes down what it is told. -/
def watch (api : Target τ) : Target (τ × List Moment) where
  load state :=
    let (result, target, lines) := api.load state.1
    (result, (target, state.2 ++ [.loaded]), lines)
  handle state outlet event :=
    let (changed, target, outlet, lines) := api.handle state.1 outlet event
    (changed, (target, state.2 ++ [.handled (changed.getD false)]), outlet, lines)
  draw state :=
    let (ending, target, lines) := api.draw state.1
    (ending, (target, state.2 ++ [.drew]), lines)
  read state pixels :=
    let (ending, pixels, target, lines) := api.read state.1 pixels
    (ending, pixels, (target, state.2), lines)

theorem watch_refines (api : Target τ) : Refines (watch api) api Prod.fst where
  load _ := rfl
  handle _ _ _ := rfl
  draw _ := rfl
  read _ _ := rfl

theorem ofEntry?_of_tells {entry : Entry} (h : tells entry = false) :
    Moment.ofEntry? entry = none := by
  cases entry with
  | happened happening =>
      cases happening with
      | loaded | dispatched | delivered => cases h
      | effect | drawn | readBack | acquired | published | returned => rfl
  | began | ended | took | drawing | did => cases h

theorem history_of_essence {entries core : List Entry} (h : essence entries = core) :
    history entries = history core :=
  h ▸ (filterMap_essence (fun _ => ofEntry?_of_tells) entries).symm

theorem history_dispatched (records : List Record) :
    history (records.map fun record => .happened (.dispatched record)) = [] := by
  rw [history, List.filterMap_map]
  exact List.filterMap_eq_nil_iff.mpr fun _ _ => rfl

/-- What a machine knows of its history. -/
structure Knows (machine : Machine x (τ × List Moment)) (history : List Moment) : Prop where
  loaded : machine.loaded = true ↔ .loaded ∈ history
  dirty : machine.dirty = pending history
  raised : machine.life.renderRequested = waiting history
  calls : machine.target.2 = history.filter isCall

structure Keeps (before after : Machine x (τ × List Moment)) : Prop where
  loaded : after.loaded = before.loaded
  dirty : after.dirty = before.dirty
  raised : after.life.renderRequested = before.life.renderRequested
  calls : after.target.2 = before.target.2

section Knowledge

variable {before after : Machine x (τ × List Moment)} {history : List Moment}

theorem Keeps.refl (machine : Machine x (τ × List Moment)) : Keeps machine machine :=
  ⟨rfl, rfl, rfl, rfl⟩

theorem Keeps.trans {later : Machine x (τ × List Moment)} (h : Keeps before after)
    (h' : Keeps after later) : Keeps before later where
  loaded := h'.loaded.trans h.loaded
  dirty := h'.dirty.trans h.dirty
  raised := h'.raised.trans h.raised
  calls := h'.calls.trans h.calls

theorem Knows.keep (h : Knows before history) (hkeeps : Keeps before after) :
    Knows after history where
  loaded := hkeeps.loaded ▸ h.loaded
  dirty := hkeeps.dirty.trans h.dirty
  raised := hkeeps.raised.trans h.raised
  calls := hkeeps.calls.trans h.calls

theorem Knows.learn {moment : Moment} (h : Knows before history)
    (hloaded : after.loaded = (before.loaded || decide (moment = .loaded)))
    (hdirty : after.dirty = if moment = .drew then false else moment.isTrigger || before.dirty)
    (hraised : after.life.renderRequested =
      if moment.isTook then false else decide (moment = .asked) || before.life.renderRequested)
    (hcalls : after.target.2 = before.target.2 ++ [moment].filter isCall) :
    Knows after (history ++ [moment]) where
  loaded := by
    rw [hloaded, Bool.or_eq_true, h.loaded, decide_eq_true_iff, List.mem_append,
      List.mem_singleton, eq_comm]
  dirty := by rw [hdirty, h.dirty, pending_append_singleton]
  raised := by rw [hraised, h.raised, waiting_append_singleton]
  calls := by rw [hcalls, h.calls, List.filter_append]

theorem Knows.mark {moment : Moment} (h : Knows before history)
    (hmoment : moment = .began ∨ moment = .ended) : Knows before (history ++ [moment]) := by
  rcases hmoment with rfl | rfl
  · exact h.learn (by simp) (by simp [Moment.isTrigger]) (by simp [Moment.isTook])
      (by simp [isCall])
  · exact h.learn (by simp) (by simp [Moment.isTrigger]) (by simp [Moment.isTook])
      (by simp [isCall])

end Knowledge

section Steps

variable {api : Target τ} {machine : Machine x (τ × List Moment)} {history : List Moment}

theorem keeps_die (machine : Machine x (τ × List Moment)) (crashed : Bool) :
    Keeps machine (machine.die crashed).1 :=
  ⟨rfl, rfl, (finish_keeps machine.life crashed).1, rfl⟩

theorem knows_attempted (h : Knows machine history) :
    Knows (attempted (watch api) machine) (history ++ [.loaded]) :=
  h.learn (by simp [attempted]) (by simp [attempted, Moment.isTrigger])
    (by simp [attempted, Moment.isTook]) rfl

theorem knows_handed (api : Target τ) (h : Knows machine history) (event : SceneEvent) :
    Knows (handed (watch api) machine event) (history ++
      [.handled (((watch api).handle machine.target machine.outlet event).1.getD false)]) :=
  h.learn (by simp [handed]) (by simp [handed, Moment.isTrigger, Bool.or_comm])
    (by simp [handed, Moment.isTook]) rfl

theorem knows_takeRequest (h : Knows machine history) :
    Knows machine.takeRequest (history ++ [.took machine.life.renderRequested]) :=
  h.learn (by simp [Machine.takeRequest])
    (by simp [Machine.takeRequest, Moment.isTrigger, Bool.or_comm])
    (by simp [Machine.takeRequest, Moment.isTook]) (by simp [Machine.takeRequest, isCall])

theorem knows_painted (h : Knows machine history) :
    Knows (painted (watch api) machine) (history ++ [.drew]) :=
  h.learn (by simp [painted]) (by simp [painted]) (by simp [painted, Moment.isTook]) rfl

theorem calls_of_readsBack {before after : τ × List Moment}
    (h : ReadsBack (watch api) before after) : after.2 = before.2 := by
  rcases h with rfl | ⟨pixels, rfl⟩
  · rfl
  · rfl

theorem keeps_asked {provider : Frame.Provider} {acquired : Frame.Acquisition}
    {memory : Frame.Memory} {target : τ × List Moment} {happenings : List Happening}
    {lines : List Log.Line}
    (h : provider.fillNext machine.memory (Machine.fill (watch api)) (machine.target, []) =
      (acquired, memory, (target, happenings), lines)) :
    Keeps machine { machine with memory, target } :=
  ⟨rfl, rfl, rfl, calls_of_readsBack (fillNext_target h).1⟩

end Steps

def Fits (history : List Moment) : Place → Prop
  | .checking => phase history = .outside
  | .loading | .listening | .ticking | .delivering _ | .taking => phase history = .opened
  | .deciding => phase history = .taken
  | .acquiring | .publishing _ | .returning _ => phase history = .drawn
  | .ending =>
      phase history = .drawn ∨
        phase history = .taken ∧ (.loaded ∈ history → pending history = false)
  | .gone => True

structure Faithful (course : Course x (τ × List Moment)) : Prop where
  legal : Legal (history course.log)
  knows : Knows course.machine (history course.log)
  fits : Fits (history course.log) course.place

section Preservation

variable {course : Course x (τ × List Moment)} {machine : Machine x (τ × List Moment)}
  {place : Place} {entries : List Entry}

theorem Faithful.silent (h : Faithful course) (hentries : history entries = [])
    (hkeeps : Keeps course.machine machine) (hfits : Fits (history course.log) place) :
    Faithful ⟨machine, place, course.log ++ entries⟩ := by
  have hlog : history (course.log ++ entries) = history course.log := by
    rw [history, List.filterMap_append, ← history, ← history, hentries, List.append_nil]
  constructor
  · simpa only [hlog] using h.legal
  · simpa only [hlog] using h.knows.keep hkeeps
  · simpa only [hlog] using hfits

theorem Faithful.noted {moment : Moment} (h : Faithful course)
    (hentries : history entries = [moment]) (hallowed : Allowed (history course.log) moment)
    (hknows : Knows machine (history course.log ++ [moment]))
    (hfits : Fits (history course.log ++ [moment]) place) :
    Faithful ⟨machine, place, course.log ++ entries⟩ := by
  have hlog : history (course.log ++ entries) = history course.log ++ [moment] := by
    rw [history, List.filterMap_append, ← history, ← history, hentries]
  constructor
  · simpa only [hlog] using h.legal.snoc hallowed
  · simpa only [hlog] using hknows
  · simpa only [hlog] using hfits

end Preservation

theorem fits_asked {history : List Moment} {place : Place} (h : Fits history place) :
    Fits (history ++ [.asked]) place := by
  have hphase : phase (history ++ [.asked]) = phase history := phase_append_singleton _ _
  have hpending : pending (history ++ [.asked]) = pending history := by
    rw [pending_append_singleton]
    rfl
  cases place with
  | gone => exact True.intro
  | ending => simpa only [Fits, hphase, hpending, List.mem_append, List.mem_singleton,
      reduceCtorEq, or_false] using h
  | checking | loading | listening | ticking | delivering | taking | deciding | acquiring
  | publishing | returning => exact hphase.trans h

theorem faithful_others (api : Target τ) {course : Course x (τ × List Moment)}
    (h : Faithful course) (deed : Deed) :
    Faithful (step (watch api) course (.others deed)) := by
  cases deed with
  | ask =>
      exact h.noted rfl True.intro (h.knows.learn (by simp [Deed.act])
        (by simp [Deed.act, Moment.isTrigger]) (by simp [Deed.act, Life.requestRender, Moment.isTook])
        (by simp [Deed.act, isCall])) (fits_asked h.fits)
  | look => exact h.silent rfl ⟨rfl, rfl, (look_keeps _).2.1, rfl⟩ h.fits
  | stop => exact h.silent rfl ⟨rfl, rfl, (requestStop_keeps _).2.1, rfl⟩ h.fits
  | join => exact h.silent rfl ⟨rfl, rfl, (join_keeps _).2, rfl⟩ h.fits
  | provide | input | outlet | memory => exact h.silent rfl ⟨rfl, rfl, rfl, rfl⟩ h.fits

theorem faithful_thread (api : Target τ) {course : Course x (τ × List Moment)}
    (h : Faithful course) (world : World) :
    Faithful (step (watch api) course (.thread world)) := by
  obtain ⟨machine, place, log⟩ := course
  obtain ⟨after, place', entries, core, hstep, hcore, hadvances⟩ :=
    step_cases (watch api) world machine log place
  have hentries : history entries = history core := history_of_essence hcore
  have hfits := h.fits
  have hknows := h.knows
  rw [hstep]
  -- Where the thread is tells the phase, and its flags tell whether a load or a frame may come.
  have hfresh (hunloaded : machine.loaded = false) : .loaded ∉ history log := by
    rw [← hknows.loaded, hunloaded]
    exact Bool.false_ne_true
  have hdue (hdue : (machine.dirty && machine.loaded) = true) :
      .loaded ∈ history log ∧ pending (history log) = true := by
    obtain ⟨hdirty, hloaded⟩ := Bool.and_eq_true_iff.mp hdue
    exact ⟨hknows.loaded.mp hloaded, hknows.dirty.symm.trans hdirty⟩
  cases hadvances with
  | leaves => exact h.silent hentries (keeps_die machine false) True.intro
  | begins => exact h.noted hentries hfits (hknows.mark (Or.inl rfl)) (phase_append_singleton _ _)
  | loads ending hunloaded =>
      exact h.noted hentries ⟨hfits, hfresh hunloaded⟩ (knows_attempted hknows)
        ((phase_append_singleton _ _).trans hfits)
  | loadCrashes hunloaded =>
      exact h.noted hentries ⟨hfits, hfresh hunloaded⟩
        ((knows_attempted hknows).keep (keeps_die _ true)) True.intro
  | listens dispatcher listening input records =>
      exact h.silent (hentries.trans (history_dispatched records)) ⟨rfl, rfl, rfl, rfl⟩ hfits
  | loadsNot | delivered => exact h.silent hentries (Keeps.refl machine) hfits
  | ticks => exact h.silent hentries ⟨rfl, rfl, rfl, rfl⟩ hfits
  | delivers event rest changed hchanged =>
      have hhanded := knows_handed api hknows event
      rw [hchanged] at hhanded
      exact h.noted hentries hfits hhanded ((phase_append_singleton _ _).trans hfits)
  | deliveryCrashes event rest hcrashed =>
      have hhanded := (knows_handed api hknows event).keep (keeps_die _ true)
      rw [hcrashed] at hhanded
      exact h.noted hentries hfits hhanded True.intro
  | takes =>
      exact h.noted hentries ⟨hfits, hknows.raised⟩ (knows_takeRequest hknows)
        (phase_append_singleton _ _)
  | drawsNot hidle =>
      refine h.silent hentries (Keeps.refl machine) (Or.inr ⟨hfits, fun hmem => ?_⟩)
      rw [hknows.loaded.mpr hmem, Bool.and_true] at hidle
      exact hknows.dirty.symm.trans hidle
  | draws hready =>
      exact h.noted hentries ⟨hfits, hdue hready⟩ (knows_painted hknows)
        (phase_append_singleton _ _)
  | drawsInVain fault hready =>
      exact h.noted hentries ⟨hfits, hdue hready⟩ (knows_painted hknows)
        (Or.inl (phase_append_singleton _ _))
  | drawingCrashes hready =>
      exact h.noted hentries ⟨hfits, hdue hready⟩ ((knows_painted hknows).keep (keeps_die _ true))
        (Or.inl (phase_append_singleton _ _))
  | asksNobody => exact h.silent hentries (Keeps.refl machine) (Or.inl hfits)
  | asks provider acquired memory target happenings lines hprovider hfill =>
      refine h.silent hentries (keeps_asked hfill) ?_
      cases acquired.handle? with
      | none => exact Or.inl hfits
      | some handle => exact hfits
  | askingCrashes provider memory target happenings lines hprovider hfill =>
      exact h.silent hentries ((keeps_asked hfill).trans (keeps_die _ true)) (Or.inl hfits)
  | publishes => exact h.silent hentries ⟨rfl, rfl, rfl, rfl⟩ (Or.inl hfits)
  | publishesNot => exact h.silent hentries ⟨rfl, rfl, rfl, rfl⟩ hfits
  | keeps => exact h.silent hentries (Keeps.refl machine) (Or.inl hfits)
  | givesBack => exact h.silent hentries ⟨rfl, rfl, rfl, rfl⟩ (Or.inl hfits)
  | ends => exact h.noted hentries hfits (hknows.mark (Or.inr rfl)) (phase_append_singleton _ _)
  | died | gone => exact h.silent hentries (Keeps.refl machine) True.intro

theorem faithful_start (life : Life) (timing : Option Timing) (target : τ) (input : Pipe)
    (outlet : Outlet) (memory : Frame.Memory) :
    Faithful (start life timing (target, []) input outlet memory :
      Course x (τ × List Moment)) := by
  cases hraised : life.renderRequested with
  | false =>
      have hknows : Knows (.new life timing (target, []) input outlet memory :
          Machine x (τ × List Moment)) [] := ⟨by simp [Machine.new], rfl, hraised, rfl⟩
      simp only [start, hraised, Bool.false_eq_true, if_false]
      exact ⟨legal_nil, hknows, rfl⟩
  | true =>
      have hknows : Knows (.new life timing (target, []) input outlet memory :
          Machine x (τ × List Moment)) [.asked] := ⟨by simp [Machine.new], rfl, hraised, rfl⟩
      simp only [start, hraised, if_true]
      exact ⟨legal_nil.snoc True.intro, hknows, rfl⟩

/-- In every run of a render loop, with any target, input and memory, begun in any life and among
any deeds of others, frames follow their triggers. What the history says of the target is all that
the target is told: one that writes it down gets the same log, and has the same written down. A
thread that is left alone before an iteration, and was not told to stop, completes the iteration. -/
theorem frames_follow_triggers (api : Target τ) (life : Life) (timing : Option Timing)
    (target : τ) (input : Pipe) (outlet : Outlet) (memory : Frame.Memory) (moves : List Move) :
    let course : Course x τ := run (step api) (start life timing target input outlet memory) moves
    let watched : Course x (τ × List Moment) :=
      run (step (watch api)) (start life timing (target, []) input outlet memory) moves
    FollowsTriggers (history course.log) ∧ watched.log = course.log ∧
      watched.machine.target.2 = (history course.log).filter isCall ∧
      (course.place = .checking → course.machine.life.stopRequested = false →
        ∀ files now poll later, ∃ worlds : List World,
          Completes course (course.machine.iterate api files now poll later)
            (run (step api) course (worlds.map .thread))) := by
  intro course watched
  have hlog : watched.log = course.log := by
    have himage := run_image (watch_refines api)
      (start life timing (target, []) input outlet memory : Course x (τ × List Moment)) moves
    exact (congrArg Course.log himage).symm
  have hfaithful : Faithful watched := by
    refine invariant_run (fun course move h => ?_)
      (faithful_start life timing target input outlet memory) moves
    cases move with
    | thread world => exact faithful_thread api h world
    | others deed => exact faithful_others api h deed
  refine ⟨?_, hlog, ?_, fun hplace hunstopped files now poll later =>
    iteration_alone api files now poll later hplace hunstopped⟩
  · rw [← hlog]
    exact followsTriggers_of_legal hfaithful.legal
  · rw [← hlog]
    exact hfaithful.knows.calls

def still : Target Unit where
  load _ := (.done, (), [])
  handle _ outlet _ := (some false, (), outlet, [])
  draw _ := (.done, (), [])
  read _ pixels := (.done, pixels, (), [])

example (x : Xkb) :
    let life : Life := { Life.new with thread := .serving, loadRequested := true }
    let turn : Move := .thread ⟨fun _ => .memory [], fun _ => 0, .answered⟩
    let moves := List.replicate 8 turn ++ .others .ask :: List.replicate 10 turn
    let course : Course x Unit := start life none () .new .new ⟨[], []⟩
    history (run (step still) course moves).log =
      [.began, .loaded, .took false, .drew, .asked, .ended, .began, .took true, .drew, .ended] := by
  intro life turn moves course
  cbv

end LockScreen.Proofs.FrameTriggers
