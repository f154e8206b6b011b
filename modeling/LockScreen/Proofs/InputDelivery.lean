import LockScreen.Proofs.HandedEvents
import LockScreen.Proofs.InputLoss

namespace LockScreen.Proofs.InputDelivery

open LockScreen.Render LockScreen.Repeat LockScreen.Wire
open LockScreen.Proofs.Runs LockScreen.Proofs.LoopSteps
open LockScreen.Proofs.LoopRuns (World Deed Place Entry Course Completes advance)
open LockScreen.Proofs.DispatcherRuns (Step)
open LockScreen.Proofs.ScheduleIndependence (records arrivals batches Arrival batches_append_queue
  queue_start)
open LockScreen.Proofs.PipeRecords (Words)
open LockScreen.Proofs.PipeTraffic (Holds Passes holds_write tells_answer)
open LockScreen.Proofs.InputDraining LockScreen.Proofs.InputRuns LockScreen.Proofs.QuietSteps
open LockScreen.Proofs.HandedEvents LockScreen.Proofs.InputLoss

variable {x : Xkb} {τ : Type}

section Steps

theorem records_append (first second : List Step) :
    records (first ++ second) = records first ++ records second := by
  induction first with
  | nil => rfl
  | cons head rest ih =>
      cases head with
      | dispatch files record now => exact congrArg ((files, record) :: ·) ih
      | tick | drain => exact ih

theorem batches_append (dispatcher : Dispatcher x) (first second : List Step) :
    batches dispatcher (first ++ second) =
      batches dispatcher first ++ batches (run DispatcherRuns.step dispatcher first) second := by
  induction first generalizing dispatcher with
  | nil => rfl
  | cons head rest ih =>
      cases head with
      | dispatch | tick => exact ih _
      | drain => exact congrArg (dispatcher.drain.1 :: ·) (ih _)

theorem records_dispatches (files : Nat → SharedFile) (now : Instant) (heard : List Record) :
    (records (heard.map (.dispatch files · now))).map Prod.snd = heard := by
  induction heard with
  | nil => rfl
  | cons record rest ih => exact congrArg (record :: ·) ih

theorem batches_dispatches (dispatcher : Dispatcher x) (files : Nat → SharedFile) (now : Instant)
    (heard : List Record) : batches dispatcher (heard.map (.dispatch files · now)) = [] := by
  induction heard generalizing dispatcher with
  | nil => rfl
  | cons record rest ih => exact ih _

end Steps

/-- What was done with the dispatcher is told by the log, and what came of it was handed over or is
still to be, unless the thread died of it. -/
structure Faithful (timing : Option Timing) (intake : Intake x τ) : Prop where
  reading : intake.reading = true →
    intake.course.place = .listening ∧ intake.course.machine.listening = true
  told : (records intake.steps).map Prod.snd = dispatched (happenings intake.course.log)
  handed : ∃ lost, delivered (happenings intake.course.log) ++
      (pending intake.course.place ++ lost) =
        (batches (DispatcherRuns.start timing : Dispatcher x) intake.steps).flatten ∧
    Loses intake.course.place (happenings intake.course.log) lost
  emptied : intake.course.place ≠ .listening → intake.course.place ≠ .ticking →
    (run DispatcherRuns.step (DispatcherRuns.start timing : Dispatcher x) intake.steps).queue = []
  dispatcher : Lives intake.course.machine intake.course.place →
    intake.course.machine.dispatcher =
      run DispatcherRuns.step (DispatcherRuns.start timing) intake.steps

section Preservation

variable {api : Target τ} {timing : Option Timing} {intake : Intake x τ}

theorem Faithful.handed_of_ne (h : Faithful timing intake) (hplace : intake.course.place ≠ .gone) :
    delivered (happenings intake.course.log) ++ pending intake.course.place =
      (batches (DispatcherRuns.start timing : Dispatcher x) intake.steps).flatten := by
  obtain ⟨lost, hhanded, hloses⟩ := h.handed
  rwa [hloses.nothing hplace, List.append_nil] at hhanded

theorem Faithful.hear (h : Faithful timing intake) (hplace : intake.course.place = .listening)
    (world : World) : Faithful timing (intake.hear world) := by
  obtain ⟨⟨machine, place, log⟩, reading, written, steps⟩ := intake
  dsimp only at hplace
  subst hplace
  have hspec := hear_spec world.files (world.now 0) machine.input machine.dispatcher
  rcases hhear : Machine.hear world.files (world.now 0) machine.input machine.dispatcher with
    ⟨ending, after, dispatcher, heard⟩
  rw [hhear] at hspec
  obtain ⟨hdispatcher, hdelivered⟩ := hspec
  have hrecords : (records (steps ++
      (dispatched heard).map (.dispatch world.files · (world.now 0)))).map Prod.snd =
        dispatched (happenings (log ++ heard.map .happened)) := by
    rw [records_append, List.map_append, records_dispatches, happenings_append, happenings_map,
      dispatched_append]
    exact congrArg (· ++ _) h.told
  have hevents : delivered (happenings (log ++ heard.map .happened)) ++ ([] ++ []) =
      (batches (DispatcherRuns.start timing : Dispatcher x) (steps ++
        (dispatched heard).map (.dispatch world.files · (world.now 0)))).flatten := by
    rw [happenings_append, happenings_map, delivered_append, hdelivered, List.append_nil,
      batches_append, batches_dispatches, List.append_nil (batches _ _)]
    exact h.handed_of_ne nofun
  have hrun : dispatcher = run DispatcherRuns.step (DispatcherRuns.start timing) (steps ++
      (dispatched heard).map (.dispatch world.files · (world.now 0))) := by
    rw [run_append, ← h.dispatcher trivial]
    exact hdispatcher
  simp only [Intake.hear, hhear]
  cases ending with
  | none =>
      exact ⟨fun hread => ⟨rfl, (h.reading hread).2⟩, hrecords, ⟨[], hevents, Or.inl rfl⟩,
        fun hne => absurd rfl hne, fun _ => hrun⟩
  | some usable =>
      exact ⟨fun hread => absurd hread Bool.false_ne_true, hrecords, ⟨[], hevents, Or.inl rfl⟩,
        fun _ hne => absurd rfl hne, fun _ => hrun⟩

theorem Faithful.tick (h : Faithful timing intake) (hplace : intake.course.place = .ticking)
    (world : World) : Faithful timing (intake.advance api world) := by
  rw [advance_of_ne api world (by simp [hplace])]
  obtain ⟨⟨machine, place, log⟩, reading, written, steps⟩ := intake
  dsimp only at hplace
  subst hplace
  refine ⟨fun hreading => absurd (h.reading hreading).1 nofun, ?_, ⟨[], ?_, Or.inl rfl⟩, ?_, ?_⟩
  · show (records (steps ++ _)).map Prod.snd = dispatched (happenings (log ++ []))
    rw [records_append, List.append_nil, List.map_append]
    exact (List.append_nil _).trans h.told
  · show delivered (happenings (log ++ [])) ++ ((machine.dispatcher.tick (world.now 0)).queue ++ []) =
      (batches _ (steps ++ [.tick (world.now 0), .drain])).flatten
    have hhanded : delivered (happenings log) ++ [] = _ := h.handed_of_ne nofun
    rw [batches_append, List.flatten_append, ← hhanded, ← h.dispatcher trivial, List.append_nil,
      List.append_nil (delivered _)]
    rfl
  · intro _ _
    show (run DispatcherRuns.step _ (steps ++ [.tick (world.now 0), .drain])).queue = []
    rw [run_append]
    rfl
  · intro _
    show (machine.dispatcher.tick (world.now 0)).drain.2 =
      run DispatcherRuns.step _ (steps ++ [.tick (world.now 0), .drain])
    rw [run_append, ← h.dispatcher trivial]
    rfl

theorem Faithful.course (h : Faithful timing intake) {course : Course x τ}
    (hreading : intake.reading = true →
      course.place = .listening ∧ course.machine.listening = true)
    (hdispatched : dispatched (happenings course.log) =
      dispatched (happenings intake.course.log))
    (hhanded : ∃ lost, delivered (happenings course.log) ++ (pending course.place ++ lost) =
        (batches (DispatcherRuns.start timing : Dispatcher x) intake.steps).flatten ∧
      Loses course.place (happenings course.log) lost)
    (hplace : course.place ≠ .listening → course.place ≠ .ticking →
      intake.course.place ≠ .listening ∧ intake.course.place ≠ .ticking)
    (hlives : Lives course.machine course.place →
      Lives intake.course.machine intake.course.place ∧
        course.machine.dispatcher = intake.course.machine.dispatcher) :
    Faithful timing { intake with course } where
  reading := hreading
  told := h.told.trans hdispatched.symm
  handed := hhanded
  emptied hlistening hticking :=
    h.emptied (hplace hlistening hticking).1 (hplace hlistening hticking).2
  dispatcher hafter := (hlives hafter).2.trans (h.dispatcher (hlives hafter).1)

theorem Faithful.goOn (h : Faithful timing intake)
    (hlistening : intake.course.place ≠ .listening) (hticking : intake.course.place ≠ .ticking)
    (world : World) : Faithful timing (intake.advance api world) := by
  rw [advance_of_ne_ticking api world hlistening hticking]
  have hquiet := quiet_advance api world intake.course.machine hlistening hticking
  have hgone (hplace : intake.course.place = .gone) :
      (advance api world intake.course.machine intake.course.place).2.1 = .gone := by
    rw [hplace]
    rfl
  refine h.course (fun hread => absurd (h.reading hread).1 hlistening) ?_ ?_
    (fun _ _ => ⟨hlistening, hticking⟩) hquiet.dispatcher
  · simp only [LoopRuns.step, happenings_append, dispatched_append, hquiet.dispatched,
      List.append_nil]
  · obtain ⟨lost, hhanded, hloses⟩ := h.handed
    obtain ⟨lost', hhanded', hloses'⟩ := hquiet.delivered
    refine ⟨lost' ++ lost, ?_, ?_⟩
    · rw [← hhanded, ← hhanded']
      simp only [LoopRuns.step, happenings_append, delivered_append, List.append_assoc]
    · simp only [LoopRuns.step, happenings_append]
      exact hloses.append hloses' hgone

theorem Faithful.waited (h : Faithful timing intake) (hplace : intake.course.place = .listening)
    (hreading : intake.reading = false) {world : World} (hfinds : intake.finds world = false) :
    Faithful timing { intake with course := LoopRuns.step api intake.course (.thread world) } := by
  obtain ⟨⟨machine, place, log⟩, reading, written, steps⟩ := intake
  dsimp only at hplace hreading
  subst hplace hreading
  have hhanded : delivered (happenings log) ++ [] = _ := h.handed_of_ne (by simp)
  rcases listen_of_not_finds hfinds with hlisten | ⟨cause, -, hlisten⟩
  · simp only [LoopRuns.step, advance, hlisten]
    exact h.course (by simp) (by simp [List.map_nil]) ⟨[], by simpa [pending] using hhanded, Or.inl rfl⟩
      (fun _ hne => absurd rfl hne) fun _ => ⟨trivial, rfl⟩
  · have hlog : happenings (log ++ [.happened (Machine.note .error s!"poll failed: {cause}")]) =
        happenings log ++ [Machine.note .error s!"poll failed: {cause}"] := happenings_append _ _
    simp only [LoopRuns.step, advance, hlisten, List.map_cons, List.map_nil]
    refine h.course (by simp) ?_ ⟨[], ?_, Or.inl rfl⟩ (fun _ hne => absurd rfl hne)
      fun _ => ⟨trivial, rfl⟩
    · rw [hlog, dispatched_append]
      exact List.append_nil _
    · rw [hlog, delivered_append, ← hhanded]
      exact congrArg (· ++ []) (List.append_nil _)

theorem Faithful.thread (h : Faithful timing intake) (world : World) :
    Faithful timing (intake.advance api world) := by
  by_cases hplace : intake.course.place = .listening
  · cases hreading : intake.reading with
    | true =>
        simp only [Intake.advance, hplace, hreading, if_true]
        exact h.hear hplace world
    | false =>
        cases hfinds : intake.finds world with
        | true =>
            have hlistening : intake.course.machine.listening = true := by
              rw [Intake.finds, Bool.and_assoc, Bool.and_eq_true] at hfinds
              exact hfinds.1
            simp only [Intake.advance, hplace, hreading, hfinds, Bool.false_eq_true, if_false, if_true]
            exact ⟨fun _ => ⟨hplace, hlistening⟩, h.told, h.handed, h.emptied, h.dispatcher⟩
        | false =>
            have hwaited : Faithful timing
                { intake with course := LoopRuns.step api intake.course (.thread world) } :=
              h.waited hplace hreading hfinds
            simpa only [Intake.advance, hplace, hreading, hfinds, Bool.false_eq_true, if_false]
              using hwaited
  · by_cases hticking : intake.course.place = .ticking
    · exact h.tick hticking world
    · exact h.goOn hplace hticking world

theorem Faithful.others (h : Faithful timing intake) (favour : Favour) :
    Faithful timing (step api intake (.others favour)) := by
  have huntouched := untouched_act intake.course.machine favour.1
  have hlog : happenings (LoopRuns.step api intake.course (.others favour.1)).log =
      happenings intake.course.log :=
    (happenings_append _ _).trans (List.append_nil _)
  have hreading : intake.reading = true → intake.course.place = .listening ∧
      (favour.1.act intake.course.machine).listening = true :=
    fun hread => ⟨(h.reading hread).1, huntouched.listening.trans (h.reading hread).2⟩
  refine h.course hreading (congrArg dispatched hlog) ?_
    (fun hlistening hticking => ⟨hlistening, hticking⟩) ?_
  · rw [hlog]
    exact h.handed
  · exact fun hlives => ⟨(lives_act favour.1 _).mp hlives, huntouched.dispatcher⟩

theorem Faithful.produce (h : Faithful timing intake) (deed : PipeTraffic.Deed) :
    Faithful timing (intake.produce deed) :=
  ⟨h.reading, h.told, h.handed, h.emptied, h.dispatcher⟩

theorem Faithful.step (h : Faithful timing intake) (move : Move) :
    Faithful timing (InputRuns.step api intake move) := by
  cases move with
  | thread world => exact h.thread world
  | others favour => exact h.others favour
  | write bytes => exact h.produce (.write bytes)
  | hangUp => exact h.produce .closeWriter

end Preservation

theorem happenings_start (life : Life) (timing : Option Timing) (target : τ) (input : Pipe)
    (outlet : Outlet) (memory : Frame.Memory) :
    happenings (start life timing target input outlet memory : Intake x τ).course.log = [] := by
  show happenings (if life.renderRequested then [.did .ask] else []) = []
  split <;> rfl

theorem faithful_start (life : Life) (timing : Option Timing) (target : τ) (input : Pipe)
    (outlet : Outlet) (memory : Frame.Memory) :
    Faithful timing (start life timing target input outlet memory : Intake x τ) := by
  have hlog : happenings (start life timing target input outlet memory : Intake x τ).course.log =
      [] := happenings_start life timing target input outlet memory
  refine ⟨nofun, ?_, ?_, fun _ _ => queue_start timing, fun _ => rfl⟩
  · exact (congrArg dispatched hlog).symm
  · exact ⟨[], congrArg (delivered · ++ []) hlog, Or.inl rfl⟩

/-- All words that were written are those that were heard and those that wait, and of those heard
the ones that are records were dispatched. -/
def Carries (earlier : List Words) (intake : Intake x τ) : Prop :=
  ∃ heard waiting : List Words,
    earlier.map Words.bytes ++ intake.written = (heard ++ waiting).map Words.bytes ∧
      Holds intake.course.machine.input waiting ∧
      dispatched (happenings intake.course.log) = heard.filterMap known

section Whole

variable {api : Target τ} {earlier : List Words} {intake : Intake x τ}

theorem Carries.hear (h : Carries earlier intake) (world : World) :
    Carries earlier (intake.hear world) := by
  obtain ⟨heard, waiting, hwritten, hholds, hdispatched⟩ := h
  cases waiting with
  | nil =>
      have hempty : intake.course.machine.input.queue.length < 24 := by
        rw [hholds]
        exact Nat.zero_lt_succ 23
      obtain ⟨usable, after, happened, hhear, -, hqueue, hnone⟩ :=
        hear_tail hempty world.files (world.now 0) intake.course.machine.dispatcher
      refine ⟨heard, [], ?_, ?_, ?_⟩ <;> simp only [Intake.hear, hhear]
      · exact hwritten
      · cases usable with
        | true | false => exact hqueue
      · rw [happenings_append, happenings_map, dispatched_append, hnone, List.append_nil]
        exact hdispatched
  | cons first others =>
      obtain ⟨after, happened, hhear, hqueue, -, hknown⟩ :=
        hear_words hholds world.files (world.now 0) intake.course.machine.dispatcher
      refine ⟨heard ++ [first], others, ?_, ?_, ?_⟩ <;> simp only [Intake.hear, hhear]
      · rw [List.append_assoc]
        exact hwritten
      · exact hqueue
      · rw [happenings_append, happenings_map, dispatched_append, hknown, hdispatched,
          List.filterMap_append]
        cases hfirst : known first with
        | some record => rw [List.filterMap_cons_some hfirst]; rfl
        | none => rw [List.filterMap_cons_none hfirst]; rfl

theorem Carries.waited (h : Carries earlier intake) (hplace : intake.course.place = .listening)
    {world : World} (hfinds : intake.finds world = false) :
    Carries earlier { intake with course := LoopRuns.step api intake.course (.thread world) } := by
  obtain ⟨heard, waiting, hwritten, hholds, hdispatched⟩ := h
  refine ⟨heard, waiting, hwritten, ?_, ?_⟩
  · rcases listen_of_not_finds hfinds with hlisten | ⟨cause, -, hlisten⟩
    · simp only [LoopRuns.step, hplace, advance, hlisten]
      exact hholds
    · simp only [LoopRuns.step, hplace, advance, hlisten]
      exact hholds
  · rcases listen_of_not_finds hfinds with hlisten | ⟨cause, -, hlisten⟩
    · simp only [LoopRuns.step, hplace, advance, hlisten, List.map_nil, List.append_nil]
      exact hdispatched
    · simp only [LoopRuns.step, hplace, advance, hlisten, happenings_append, happenings_map,
        dispatched_append]
      exact (List.append_nil _).trans hdispatched

theorem Carries.thread (h : Carries earlier intake) (world : World) :
    Carries earlier (intake.advance api world) := by
  by_cases hplace : intake.course.place = .listening
  · cases hreading : intake.reading with
    | true =>
        simp only [Intake.advance, hplace, hreading, if_true]
        exact h.hear world
    | false =>
        cases hfinds : intake.finds world with
        | true =>
            simp only [Intake.advance, hplace, hreading, hfinds, Bool.false_eq_true, if_false, if_true]
            exact h
        | false =>
            simp only [Intake.advance, hplace, hreading, hfinds, Bool.false_eq_true, if_false]
            exact h.waited hplace hfinds
  · obtain ⟨heard, waiting, hwritten, hholds, hdispatched⟩ := h
    rw [advance_of_ne api world hplace]
    refine ⟨heard, waiting, hwritten, ?_, ?_⟩
    · exact (queue_advance api world intake.course.machine hplace).trans hholds
    · simp only [LoopRuns.step, happenings_append, dispatched_append,
        dispatched_advance api world intake.course.machine hplace, List.append_nil]
      exact hdispatched

theorem Carries.others (h : Carries earlier intake) (favour : Favour) :
    Carries earlier (step api intake (.others favour)) := by
  obtain ⟨heard, waiting, hwritten, hholds, hdispatched⟩ := h
  refine ⟨heard, waiting, hwritten, ?_, ?_⟩
  · exact (congrArg Pipe.queue (input_act intake.course.machine favour.2)).trans hholds
  · simp only [step, LoopRuns.step, happenings_append, dispatched_append]
    exact (List.append_nil _).trans hdispatched

theorem Carries.write (h : Carries earlier intake) {bytes : List UInt8} (hwhole : bytes.length = 24) :
    Carries earlier (intake.produce (.write bytes)) := by
  obtain ⟨heard, waiting, hwritten, hholds, hdispatched⟩ := h
  obtain ⟨left, ⟨sent, carried, hsent, hsplit, htold⟩, hleft⟩ := holds_write hholds hwhole
  have hnone : carried = [] := List.map_eq_nil_iff.mp htold.symm
  rw [hnone, List.nil_append] at hsplit
  refine ⟨heard, left, ?_, hleft, hdispatched⟩
  show earlier.map Words.bytes ++
    (intake.written ++ PipeTraffic.written intake.course.machine.input (.write bytes)) = _
  rw [hsent, ← List.append_assoc, hwritten, ← hsplit, ← List.map_append, List.append_assoc]

theorem Carries.hangUp (h : Carries earlier intake) :
    Carries earlier (intake.produce .closeWriter) := by
  obtain ⟨heard, waiting, hwritten, hholds, hdispatched⟩ := h
  refine ⟨heard, waiting, ?_, hholds, hdispatched⟩
  show earlier.map Words.bytes ++ (intake.written ++ []) = _
  rw [List.append_nil]
  exact hwritten

end Whole

end LockScreen.Proofs.InputDelivery
