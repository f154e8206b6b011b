import LockScreen.Keyboard.Table
import LockScreen.Proofs.LoopSteps
import LockScreen.Proofs.TargetRefinement
import LockScreen.Render.Screen
import LockScreen.Render.Stage

namespace LockScreen.Proofs.PromptShown

open LockScreen.Render LockScreen.Repeat LockScreen.Wire
open LockScreen.Proofs.Runs LockScreen.Proofs.LoopRuns LockScreen.Proofs.LoopSteps
open LockScreen.Proofs.TargetRefinement

variable {x : Xkb} {σ τ : Type}

theorem press_of_not_changed (prompt : Prompt) (event : KeyEvent) :
    (prompt.press event).changed = false → (prompt.press event).prompt = prompt := by
  have hcleared : (!prompt.typed.isEmpty) = false →
      ({ prompt with typed := [] } : Prompt) = prompt := by
    intro hempty
    rw [show ([] : List Char) = prompt.typed by simpa using hempty]
  unfold Prompt.press
  split
  · split
    · exact fun _ => rfl
    · intro hchanged
      exact absurd hchanged (by simp)
  · split
    · intro hempty
      have htyped : prompt.typed = [] := by simpa using hempty
      rw [show prompt.typed.dropLast = prompt.typed by rw [htyped]; rfl]
    · split
      · exact hcleared
      · dsimp only
        split
        · exact fun _ => rfl
        · intro hchanged
          exact absurd hchanged (by simp)

theorem react_of_not_changed (prompt : Prompt) (event : SceneEvent) :
    (prompt.react event).changed = false → (prompt.react event).prompt = prompt := by
  cases event with
  | key event =>
      cases haction : event.action with
      | press =>
          simp only [Prompt.react, haction]
          exact press_of_not_changed prompt event
      | release => simp [Prompt.react, haction]
  | pointer => exact fun _ => rfl
  | auth => exact fun hchanged => absurd hchanged (by simp [Prompt.react])

theorem handle_eq_react (prompt : Prompt) (outlet : Outlet) (event : SceneEvent) :
    (prompt.handle outlet event).1 = (prompt.react event).changed ∧
      (prompt.handle outlet event).2.1 = (prompt.react event).prompt := by
  unfold Prompt.handle
  dsimp only
  split
  · exact ⟨rfl, rfl⟩
  · split <;> exact ⟨rfl, rfl⟩

/-- Whether or not something was to be submitted, and whether or not that went out: where no change
is reported there is none. -/
theorem handle_of_not_changed (prompt : Prompt) (outlet : Outlet) (event : SceneEvent)
    (h : (prompt.handle outlet event).1 = false) : (prompt.handle outlet event).2.1 = prompt := by
  obtain ⟨hchanged, hprompt⟩ := handle_eq_react prompt outlet event
  rw [hprompt]
  exact react_of_not_changed prompt event (hchanged.symm.trans h)

/-- A target whose scene is a prompt, however it is loaded. -/
structure ShowsPrompt (api : Target τ) (prompt : τ → Prompt) : Prop where
  changed : ∀ state outlet event,
    (api.handle state outlet event).1 = some ((prompt state).handle outlet event).1
  handle : ∀ state outlet event,
    prompt (api.handle state outlet event).2.1 = ((prompt state).handle outlet event).2.1
  draw : ∀ state, prompt (api.draw state).2.1 = prompt state
  read : ∀ state pixels, prompt (api.read state pixels).2.2.1 = prompt state

theorem showsPrompt_stage (toml : Toml.Library) (files : FileTree) (path : String) :
    ShowsPrompt (Stage.target toml files path : Target (Stage σ)) Stage.prompt where
  changed _ _ _ := rfl
  handle _ _ _ := rfl
  draw _ := rfl
  read stage pixels := by
    simp only [Stage.target, Stage.read]
    split <;> rfl

theorem showsPrompt_screen (device : Graphics.Device σ) (toml : Toml.Library) (files : FileTree)
    (path : String) : ShowsPrompt (Screen.target device toml files path) Screen.prompt where
  changed _ _ _ := rfl
  handle _ _ _ := rfl
  draw screen := by
    simp only [Screen.target, Screen.draw]
    split <;> rfl
  read _ _ := rfl

structure Notes where
  loading : Bool
  drawn : Option Prompt

def scribe (prompt : τ → Prompt) : Scribe τ Notes where
  load _ notes := { notes with loading := true }
  draw state notes := { notes with drawn := some (prompt state) }
  read _ notes := notes

def isBehindFrame : Place → Bool
  | .acquiring | .publishing _ | .returning _ | .ending | .checking => true
  | .loading | .listening | .ticking | .delivering _ | .taking | .deciding | .gone => false

section Steps

variable {api : Target τ} {prompt : τ → Prompt} {machine : Machine x (τ × Notes)}

structure Current (prompt : τ → Prompt) (machine : Machine x (τ × Notes)) : Prop where
  loading : machine.target.2.loading = machine.loaded
  drawn : machine.loaded = true → machine.dirty = false →
    machine.target.2.drawn = some (prompt machine.target.1)

structure Keeps (prompt : τ → Prompt) (before after : Machine x (τ × Notes)) : Prop where
  loaded : after.loaded = before.loaded
  dirty : after.dirty = before.dirty
  notes : after.target.2 = before.target.2
  prompt : prompt after.target.1 = prompt before.target.1

theorem Current.keep {after : Machine x (τ × Notes)} (h : Current prompt machine)
    (hkeeps : Keeps prompt machine after) : Current prompt after where
  loading := by rw [hkeeps.notes, hkeeps.loaded, h.loading]
  drawn hloaded hclean := by
    rw [hkeeps.notes, hkeeps.prompt]
    exact h.drawn (hkeeps.loaded.symm.trans hloaded) (hkeeps.dirty.symm.trans hclean)

theorem current_attempted : Current prompt (attempted ((scribe prompt).attend api) machine) :=
  ⟨rfl, fun _ hclean => absurd hclean (by simp [attempted])⟩

theorem current_handed (hprompt : ShowsPrompt api prompt) (h : Current prompt machine)
    (event : SceneEvent) : Current prompt (handed ((scribe prompt).attend api) machine event) := by
  refine ⟨h.loading, fun hloaded hclean => ?_⟩
  obtain ⟨hbefore, hsame⟩ : machine.dirty = false ∧
      (api.handle machine.target.1 machine.outlet event).1.getD false = false :=
    Bool.or_eq_false_iff.mp hclean
  have hdrawn := h.drawn hloaded hbefore
  have hunchanged : prompt (api.handle machine.target.1 machine.outlet event).2.1 =
      prompt machine.target.1 := by
    rw [hprompt.handle]
    rw [hprompt.changed] at hsame
    exact handle_of_not_changed _ _ _ hsame
  exact hdrawn.trans (congrArg some hunchanged.symm)

theorem current_takeRequest (h : Current prompt machine) : Current prompt machine.takeRequest :=
  ⟨h.loading, fun hloaded hclean => h.drawn hloaded (Bool.or_eq_false_iff.mp hclean).1⟩

theorem current_painted (hprompt : ShowsPrompt api prompt) (h : Current prompt machine) :
    Current prompt (painted ((scribe prompt).attend api) machine) :=
  ⟨h.loading, fun _ _ => congrArg some (hprompt.draw _).symm⟩

theorem keeps_asked (hprompt : ShowsPrompt api prompt) {memory : Frame.Memory} {target : τ × Notes}
    (h : ReadsBack ((scribe prompt).attend api) machine.target target) :
    Keeps prompt machine { machine with memory, target } := by
  rcases h with rfl | ⟨pixels, rfl⟩
  · exact ⟨rfl, rfl, rfl, rfl⟩
  · exact ⟨rfl, rfl, rfl, hprompt.read _ _⟩

end Steps

structure UpToDate (prompt : τ → Prompt) (course : Course x (τ × Notes)) : Prop where
  current : Current prompt course.machine
  drawn : isBehindFrame course.place = true → course.machine.loaded = true →
    course.machine.dirty = false

section Preservation

variable {api : Target τ} {prompt : τ → Prompt} {course : Course x (τ × Notes)}
  {machine : Machine x (τ × Notes)} {place : Place} {log : List Entry}

theorem UpToDate.ahead (hcurrent : Current prompt machine) (hplace : isBehindFrame place = false) :
    UpToDate prompt ⟨machine, place, log⟩ :=
  ⟨hcurrent, fun hbehind => absurd (hplace.symm.trans hbehind) Bool.false_ne_true⟩

theorem UpToDate.behind (h : UpToDate prompt course) (hplace : isBehindFrame course.place = true)
    (hkeeps : Keeps prompt course.machine machine) : UpToDate prompt ⟨machine, place, log⟩ :=
  ⟨h.current.keep hkeeps, fun _ hloaded =>
    hkeeps.dirty.trans (h.drawn hplace (hkeeps.loaded.symm.trans hloaded))⟩

theorem upToDate_thread (hprompt : ShowsPrompt api prompt) (h : UpToDate prompt course)
    (world : World) :
    UpToDate prompt (step ((scribe prompt).attend api) course (.thread world)) := by
  obtain ⟨machine, place, log⟩ := course
  obtain ⟨after, place', entries, core, hstep, -, hadvances⟩ :=
    step_cases ((scribe prompt).attend api) world machine log place
  have hcurrent : Current prompt machine := h.current
  rw [hstep]
  cases hadvances with
  | leaves | listens | ticks => exact .ahead (hcurrent.keep ⟨rfl, rfl, rfl, rfl⟩) rfl
  | begins | loadsNot | delivered | died | gone => exact .ahead hcurrent rfl
  | loads => exact .ahead current_attempted rfl
  | loadCrashes => exact .ahead (current_attempted.keep ⟨rfl, rfl, rfl, rfl⟩) rfl
  | delivers event => exact .ahead (current_handed hprompt hcurrent event) rfl
  | deliveryCrashes event =>
      exact .ahead ((current_handed hprompt hcurrent event).keep ⟨rfl, rfl, rfl, rfl⟩) rfl
  | takes => exact .ahead (current_takeRequest hcurrent) rfl
  | drawsNot hidle =>
      refine ⟨hcurrent, fun _ hloaded => ?_⟩
      rwa [show machine.loaded = true from hloaded, Bool.and_true] at hidle
  | draws | drawsInVain => exact ⟨current_painted hprompt hcurrent, fun _ _ => rfl⟩
  | drawingCrashes =>
      exact ⟨(current_painted hprompt hcurrent).keep ⟨rfl, rfl, rfl, rfl⟩, fun _ _ => rfl⟩
  | asks provider acquired memory target happenings lines hprovider hfill =>
      exact h.behind rfl (keeps_asked hprompt (fillNext_target hfill).1)
  | askingCrashes provider memory target happenings lines hprovider hfill =>
      have hasked : UpToDate prompt ⟨{ machine with memory, target }, .ending, log⟩ :=
        h.behind rfl (keeps_asked hprompt (fillNext_target hfill).1)
      exact hasked.behind rfl ⟨rfl, rfl, rfl, rfl⟩
  | asksNobody | publishes | publishesNot | keeps | givesBack | ends =>
      exact h.behind rfl ⟨rfl, rfl, rfl, rfl⟩

theorem upToDate_others (h : UpToDate prompt course) (deed : Deed) :
    UpToDate prompt (step ((scribe prompt).attend api) course (.others deed)) := by
  have huntouched := untouched_act course.machine deed
  have hkeeps : Keeps prompt course.machine (deed.act course.machine) :=
    ⟨huntouched.loaded, huntouched.dirty, by rw [huntouched.target], by rw [huntouched.target]⟩
  exact ⟨h.current.keep hkeeps, fun hplace hloaded =>
    hkeeps.dirty.trans (h.drawn hplace (hkeeps.loaded.symm.trans hloaded))⟩

end Preservation

/-- In every run of a render loop over a prompt, among any deeds of others, the prompt is between
two iterations the one that was to be drawn last, once its load was attempted. For a prompt reports
every event that changes it. -/
theorem prompt_drawn_as_it_is (api : Target τ) (prompt : τ → Prompt)
    (hprompt : ShowsPrompt api prompt) (life : Life) (timing : Option Timing) (target : τ)
    (input : Pipe) (outlet : Outlet) (memory : Frame.Memory) (moves : List Move) :
    let course : Course x τ := run (step api) (start life timing target input outlet memory) moves
    let noted : Course x (τ × Notes) := run (step ((scribe prompt).attend api))
      (start life timing (target, ⟨false, none⟩) input outlet memory) moves
    course = courseImage Prod.fst noted ∧
      (course.place = .checking → noted.machine.target.2.loading = true →
        noted.machine.target.2.drawn = some (prompt course.machine.target)) ∧
      ∀ (before : Prompt) (outlet : Outlet) (event : SceneEvent),
        (before.handle outlet event).2.1 ≠ before → (before.handle outlet event).1 = true := by
  intro course noted
  have himage : course = courseImage Prod.fst noted :=
    run_image (attend_refines (scribe prompt) api)
      (start life timing (target, ⟨false, none⟩) input outlet memory) moves
  have hnoted : UpToDate prompt noted := by
    refine invariant_run (I := UpToDate prompt) (fun course move h => ?_) ?_ moves
    · cases move with
      | thread world => exact upToDate_thread hprompt h world
      | others deed => exact upToDate_others h deed
    · exact ⟨⟨rfl, fun hloaded => absurd hloaded Bool.false_ne_true⟩,
        fun _ hloaded => absurd hloaded Bool.false_ne_true⟩
  refine ⟨himage, fun hplace hloading => ?_, fun before outlet event hchanged => ?_⟩
  · have hplace' : noted.place = .checking := (congrArg Course.place himage).symm.trans hplace
    have hloaded := hnoted.current.loading.symm.trans hloading
    rw [himage]
    exact hnoted.current.drawn hloaded (hnoted.drawn (by rw [hplace']; rfl) hloaded)
  · cases hreported : (before.handle outlet event).1 with
    | true => rfl
    | false => exact absurd (handle_of_not_changed before outlet event hreported) hchanged

def pixelStage : Stage Unit :=
  .new (.new .white)
    ⟨1, 1, fun _ => (.ok (), ()), fun _ _ _ => (⟨#[0, 0, 0, 255]⟩, ()), fun _ => (0, ()), id⟩ ()

def pixelTarget : Target (Stage Unit) :=
  Stage.target (fun _ => none) (fun _ => .missing) ""

def pixelLife : Life :=
  { Life.new with thread := .serving, loadRequested := true }

/-- The first frame is drawn, then word comes that a secret was wrong, and the second frame is
drawn. -/
def refusal : List Move :=
  let turn : Move := .thread ⟨fun _ => .memory [], fun _ => 0, .answered⟩
  let told : Pipe := { Pipe.new with
    queue := Record.encode ⟨.authFail, 0, 0⟩
    pages := [⟨recordLength, recordLength⟩] }
  List.replicate 9 turn ++ .others (.input told) :: List.replicate 10 turn

def refusedCourse : Course (.ofTables []) (Stage Unit) :=
  run (step pixelTarget) (start pixelLife none pixelStage .new .new ⟨[], []⟩) refusal

def notedRefusal : Course (.ofTables []) (Stage Unit × Notes) :=
  run (step ((scribe Stage.prompt).attend pixelTarget))
    (start pixelLife none (pixelStage, ⟨false, none⟩) .new .new ⟨[], []⟩) refusal

theorem refusal_drawn :
    refusedCourse.place = .checking ∧ notedRefusal.machine.target.2.loading = true ∧
      refusedCourse.machine.target.prompt.auth = some .failed ∧
      notedRefusal.machine.target.2.drawn = some refusedCourse.machine.target.prompt := by
  have hplace : refusedCourse.place = .checking := by rfl
  have hloading : notedRefusal.machine.target.2.loading = true := by rfl
  have hauth : refusedCourse.machine.target.prompt.auth = some .failed := by rfl
  obtain ⟨-, hdrawn, -⟩ := @prompt_drawn_as_it_is (.ofTables []) _ pixelTarget Stage.prompt
    (showsPrompt_stage _ _ _) pixelLife none pixelStage .new .new ⟨[], []⟩ refusal
  exact ⟨hplace, hloading, hauth, hdrawn hplace hloading⟩

end LockScreen.Proofs.PromptShown
