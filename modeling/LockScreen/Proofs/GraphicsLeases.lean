import LockScreen.Graphics.Context
import LockScreen.Proofs.CallTraces

namespace LockScreen.Proofs.GraphicsLeases

open LockScreen.Graphics

variable {σ α β : Type}

inductive Lease where
  | display (handle : Handle)
  | context (handle : Handle)
  | surface (handle : Handle)
deriving DecidableEq

def acquires? : EglCall → Option Lease
  | .openDisplay display true => some (.display display)
  | .createContext _ _ _ (some context) => some (.context context)
  | .createSurface _ _ (some surface) => some (.surface surface)
  | _ => none

/-- A call that lets go of something counts even if the device says that it failed. -/
def returns? : EglCall → Option Lease
  | .terminate display _ => some (.display display)
  | .destroyContext _ context _ => some (.context context)
  | .destroySurface _ surface _ => some (.surface surface)
  | _ => none

def acquired (calls : List EglCall) : List Lease :=
  calls.filterMap acquires?

def returned (calls : List EglCall) : List Lease :=
  calls.filterMap returns?

def egl? : Call → Option EglCall
  | .egl call => some call
  | _ => none

def calls (rig : Rig σ) : List EglCall :=
  rig.trace.filterMap egl?

@[simp] theorem acquired_append (first second : List EglCall) :
    acquired (first ++ second) = acquired first ++ acquired second :=
  List.filterMap_append

@[simp] theorem returned_append (first second : List EglCall) :
    returned (first ++ second) = returned first ++ returned second :=
  List.filterMap_append

def Makes (program : StateM (Rig σ) α) (P : α → List EglCall → Prop) : Prop :=
  ∀ rig, ∃ new, calls (program rig).2 = calls rig ++ new ∧ P (program rig).1 new

def Idle (calls : List EglCall) : Prop :=
  acquired calls = [] ∧ returned calls = []

theorem Idle.append {first second : List EglCall} (h : Idle first) (h' : Idle second) :
    Idle (first ++ second) := by
  constructor
  · rw [acquired_append, h.1, h'.1, List.append_nil]
  · rw [returned_append, h.2, h'.2, List.append_nil]

section Programs

variable {P : α → List EglCall → Prop} {Q : β → List EglCall → Prop}

theorem makes_pure {value : α} (h : P value []) :
    Makes (pure value : StateM (Rig σ) α) P :=
  CallTraces.yields_pure h

theorem Makes.bind {first : StateM (Rig σ) α} {next : α → StateM (Rig σ) β} (h : Makes first P)
    (hnext : ∀ value early, P value early →
      Makes (next value) fun result late => Q result (early ++ late)) :
    Makes (first >>= next) Q :=
  CallTraces.Yields.bind h hnext

theorem Makes.mono {program : StateM (Rig σ) α} {R : α → List EglCall → Prop}
    (h : Makes program P) (himp : ∀ value new, P value new → R value new) : Makes program R :=
  CallTraces.Yields.mono h himp

theorem makes_ask (query : σ → α × σ) (call : α → Call) :
    Makes (Rig.ask query call) fun answer new => new = (egl? (call answer)).toList :=
  CallTraces.yields_ask query call

theorem makes_askEgl (query : σ → α × σ) (call : α → EglCall) :
    Makes (Rig.askEgl query call) fun answer new => new = [call answer] :=
  makes_ask query fun answer => .egl (call answer)

theorem makes_logLine (level : Log.Level) (target message : String) :
    Makes (Rig.logLine level target message : StateM (Rig σ) Unit) fun _ new => new = [] :=
  CallTraces.yields_logLine level target message

theorem makes_require {message : String} {request : StateM (Rig σ) (Except EglFault α)}
    {P : Except EglFault α → List EglCall → Prop} {Q : Except Report α → List EglCall → Prop}
    (h : Makes request P) (hok : ∀ value new, P (.ok value) new → Q (.ok value) new)
    (herror : ∀ fault report new, P (.error fault) new → Q (.error report) new) :
    Makes (Context.require message request) Q := by
  refine h.bind ?_
  rintro (fault | value) early hearly
  · exact makes_pure (by rw [List.append_nil]; exact herror fault _ early hearly)
  · exact makes_pure (by rw [List.append_nil]; exact hok value early hearly)

theorem makes_andThen {first : StateM (Rig σ) (Except Report α)}
    {next : α → StateM (Rig σ) (Except Report β)} {P : Except Report α → List EglCall → Prop}
    {Q : Except Report β → List EglCall → Prop} (h : Makes first P)
    (hok : ∀ value early, P (.ok value) early →
      Makes (next value) fun result late => Q result (early ++ late))
    (herror : ∀ fault early, P (.error fault) early → Q (.error fault) early) :
    Makes (Context.andThen first next) Q := by
  refine h.bind ?_
  rintro (fault | value) early hearly
  · exact makes_pure (by rw [List.append_nil]; exact herror fault early hearly)
  · exact hok value early hearly

theorem idle_pure (value : α) : Makes (pure value : StateM (Rig σ) α) fun _ new => Idle new :=
  makes_pure ⟨rfl, rfl⟩

theorem idle_bind {first : StateM (Rig σ) α} {next : α → StateM (Rig σ) β}
    (h : Makes first fun _ new => Idle new)
    (hnext : ∀ value, Makes (next value) fun _ new => Idle new) :
    Makes (first >>= next) fun _ new => Idle new :=
  h.bind fun value _ hearly => (hnext value).mono fun _ _ hlate => hearly.append hlate

theorem idle_ask {query : σ → α × σ} {call : α → Call} (h : ∀ answer, egl? (call answer) = none) :
    Makes (Rig.ask query call) fun _ new => Idle new := by
  refine (makes_ask query call).mono ?_
  rintro answer _ rfl
  rw [h]
  exact ⟨rfl, rfl⟩

theorem idle_logLine (level : Log.Level) (target message : String) :
    Makes (Rig.logLine level target message : StateM (Rig σ) Unit) fun _ new => Idle new := by
  refine (makes_logLine level target message).mono ?_
  rintro _ _ rfl
  exact ⟨rfl, rfl⟩

theorem idle_require {message : String} {request : StateM (Rig σ) (Except EglFault α)}
    (h : Makes request fun _ new => Idle new) :
    Makes (Context.require message request) fun _ new => Idle new :=
  makes_require h (fun _ _ hidle => hidle) fun _ _ _ hidle => hidle

end Programs

def holdings (current : Context) : List Lease :=
  .display current.display :: .context current.context :: current.surface.toList.map .surface

section Contexts

variable (device : Device σ)

theorem makes_findDisplay : Makes (Context.findDisplay device) fun _ new => Idle new := by
  refine (makes_askEgl _ _).bind ?_
  rintro (_ | display) _ rfl
  · refine (makes_askEgl _ _).bind ?_
    rintro (_ | display) _ rfl
    · exact makes_pure ⟨rfl, rfl⟩
    · exact makes_pure ⟨rfl, rfl⟩
  · exact makes_pure ⟨rfl, rfl⟩

theorem makes_openDisplay (display : Handle) :
    Makes (Context.openDisplay device display) fun result new =>
      new = [.openDisplay display (granted result)] := by
  refine makes_require (makes_askEgl _ _) ?_ ?_
  · rintro _ _ rfl
    rfl
  · rintro _ _ _ rfl
    rfl

theorem makes_tellVersion (display : Handle) :
    Makes (Context.tellVersion device display) fun _ new => Idle new := by
  refine (makes_askEgl _ _).bind ?_
  rintro (fault | version) _ rfl
  · exact makes_pure ⟨rfl, rfl⟩
  · exact idle_logLine _ _ _

theorem makes_bindApi : Makes (Context.bindApi device) fun _ new => Idle new := by
  refine idle_require ((makes_askEgl _ _).mono ?_)
  rintro _ _ rfl
  exact ⟨rfl, rfl⟩

theorem makes_chooseConfig (display : Handle) (version : Version) :
    Makes (Context.chooseConfig device display version) fun _ new => Idle new := by
  refine (makes_askEgl _ _).bind ?_
  rintro (fault | _ | config) _ rfl
  · exact makes_pure ⟨rfl, rfl⟩
  · exact makes_pure ⟨rfl, rfl⟩
  · exact makes_pure ⟨rfl, rfl⟩

theorem makes_findConfig (display : Handle) :
    Makes (Context.findConfig device display) fun _ new => Idle new := by
  refine idle_bind (makes_chooseConfig device display .three) ?_
  rintro (fault | config)
  · refine idle_bind (makes_chooseConfig device display .two) ?_
    rintro (fault | config)
    · exact idle_pure _
    · exact idle_pure _
  · exact idle_pure _

theorem makes_findContext (display config : Handle) :
    Makes (Context.findContext device display config) fun result new =>
      returned new = [] ∧ acquired new = result.toOption.toList.map .context := by
  refine (makes_askEgl _ _).bind ?_
  rintro (fault | context) _ rfl
  · refine makes_require (makes_askEgl _ _) ?_ ?_
    · rintro context _ rfl
      exact ⟨rfl, rfl⟩
    · rintro fault report _ rfl
      exact ⟨rfl, rfl⟩
  · exact makes_pure ⟨rfl, rfl⟩

theorem makes_findSurface (display config : Handle) :
    Makes (Context.findSurface device display config) fun result new =>
      returned new = [] ∧ acquired new = result.toList.map .surface := by
  refine (makes_askEgl _ _).bind ?_
  rintro (fault | surface) _ rfl
  · refine (makes_logLine _ _ _).bind ?_
    rintro _ _ rfl
    exact makes_pure ⟨rfl, rfl⟩
  · exact makes_pure ⟨rfl, rfl⟩

theorem makes_makeCurrent (current : Context) :
    Makes (current.makeCurrent device) fun _ new => Idle new := by
  refine idle_require ((makes_askEgl _ _).mono ?_)
  rintro _ _ rfl
  exact ⟨rfl, rfl⟩

theorem makes_destroySurface (display surface : Handle) :
    Makes (Context.destroySurface device display surface) fun _ new =>
      acquired new = [] ∧ returned new = [.surface surface] := by
  refine (makes_askEgl _ _).bind ?_
  rintro _ _ rfl
  exact makes_pure ⟨rfl, rfl⟩

theorem makes_destroyContext (display context : Handle) :
    Makes (Context.destroyContext device display context) fun _ new =>
      acquired new = [] ∧ returned new = [.context context] := by
  refine (makes_askEgl _ _).bind ?_
  rintro _ _ rfl
  exact makes_pure ⟨rfl, rfl⟩

theorem makes_terminate (display : Handle) :
    Makes (Context.terminate device display) fun _ new =>
      acquired new = [] ∧ returned new = [.display display] := by
  refine (makes_askEgl _ _).bind ?_
  rintro _ _ rfl
  exact makes_pure ⟨rfl, rfl⟩

/-- Letting go gives all back, each once and the latest first, whatever fails meanwhile. -/
theorem makes_release (current : Context) :
    Makes (current.release device) fun _ new =>
      acquired new = [] ∧ returned new = (holdings current).reverse := by
  obtain ⟨display, context, surface⟩ := current
  refine (makes_askEgl _ _).bind ?_
  rintro _ _ rfl
  have hend : Makes (Context.destroyContext device display context >>= fun _ =>
      Context.terminate device display) fun _ new =>
        acquired new = [] ∧ returned new = [.context context, .display display] := by
    refine (makes_destroyContext device display context).bind ?_
    rintro _ early ⟨hmade, hgone⟩
    refine (makes_terminate device display).mono ?_
    rintro _ late ⟨hmade', hgone'⟩
    rw [acquired_append, returned_append, hmade, hmade', hgone, hgone']
    exact ⟨rfl, rfl⟩
  cases surface with
  | none => exact hend
  | some surface =>
      refine (makes_destroySurface device display surface).bind ?_
      rintro _ early ⟨hmade, hgone⟩
      refine hend.mono ?_
      rintro _ late ⟨hmade', hgone'⟩
      constructor
      · show [] ++ acquired (early ++ late) = []
        rw [acquired_append, hmade, hmade']
        rfl
      · show [] ++ returned (early ++ late) = _
        rw [returned_append, hgone, hgone']
        rfl

/-- A context on an open display that is not to be: what was created for it is given back with the
display, but if nothing was created the display stays open. -/
theorem makes_establish (display : Handle) :
    Makes (Context.establish device display) fun result new =>
      match result with
      | .ok current => .display display :: acquired new = holdings current ∧ returned new = []
      | .error _ =>
          acquired new = [] ∧ returned new = [] ∨
            acquired new ≠ [] ∧ returned new = (.display display :: acquired new).reverse := by
  unfold Context.establish
  refine makes_andThen (makes_findConfig device display) ?_ fun _ _ hidle => Or.inl hidle
  rintro config early ⟨hmade, hgone⟩
  refine makes_andThen (makes_findContext device display config) ?_ ?_
  · rintro context later ⟨hgone', hmade'⟩
    refine (makes_findSurface device display config).bind ?_
    rintro surface last ⟨hgone'', hmade''⟩
    refine (makes_makeCurrent device _).bind ?_
    rintro (fault | ⟨⟩) idle ⟨hidle, hidle'⟩
    · refine (makes_release device _).bind ?_
      rintro _ back ⟨hback, hback'⟩
      refine makes_pure (Or.inr ?_)
      simp only [acquired_append, returned_append, hmade, hgone, hmade', hgone', hmade'', hgone'',
        hidle, hidle', hback, hback', List.append_nil, List.nil_append]
      exact ⟨List.cons_ne_nil _ _, rfl⟩
    · refine (makes_logLine _ _ _).bind ?_
      rintro _ _ rfl
      refine makes_pure ?_
      simp only [acquired_append, returned_append, hmade, hgone, hmade', hgone', hmade'', hgone'',
        hidle, hidle', List.append_nil, List.nil_append]
      exact ⟨rfl, trivial⟩
  · rintro fault later ⟨hgone', hmade'⟩
    left
    rw [acquired_append, returned_append, hmade, hgone, hmade', hgone']
    exact ⟨rfl, rfl⟩

/-- What is left behind when an opening fails: a display on which nothing was created stays open,
and all else is given back. -/
def Leaves (calls : List EglCall) : Prop :=
  (∃ display, acquired calls = [.display display]) ∧ returned calls = [] ∨
    (∀ display, acquired calls ≠ [.display display]) ∧ returned calls = (acquired calls).reverse

theorem leaves_of_idle {new : List EglCall} (h : Idle new) : Leaves new := by
  right
  rw [h.1, h.2]
  exact ⟨fun _ => List.cons_ne_nil _ _ ∘ Eq.symm, rfl⟩

theorem makes_openHeadless :
    Makes (Context.openHeadless device) fun result new =>
      match result with
      | .ok current => acquired new = holdings current ∧ returned new = []
      | .error _ => Leaves new := by
  unfold Context.openHeadless
  refine makes_andThen (makes_findDisplay device) ?_ fun _ _ => leaves_of_idle
  rintro display early ⟨hmade, hgone⟩
  refine makes_andThen (makes_openDisplay device display) ?_ ?_
  · rintro ⟨⟩ _ rfl
    refine (makes_tellVersion device display).bind ?_
    rintro _ told ⟨hmade', hgone'⟩
    have hopened : ∀ new, acquired (early ++ ([.openDisplay display true] ++ (told ++ new))) =
        .display display :: acquired new := by
      intro new
      rw [acquired_append, acquired_append, acquired_append, hmade, hmade']
      rfl
    have hkept : ∀ new, returned (early ++ ([.openDisplay display true] ++ (told ++ new))) =
        returned new := by
      intro new
      rw [returned_append, returned_append, returned_append, hgone, hgone']
      rfl
    refine makes_andThen (makes_bindApi device) ?_ ?_
    · rintro ⟨⟩ bound ⟨hmade'', hgone''⟩
      refine (makes_establish device display).mono ?_
      rintro (fault | current) new hnew
      · show Leaves (early ++ ([.openDisplay display true] ++ (told ++ (bound ++ new))))
        unfold Leaves
        rw [hopened, hkept, acquired_append, returned_append, hmade'', hgone'', List.nil_append,
          List.nil_append]
        rcases hnew with ⟨hnone, hleft⟩ | ⟨hsome, hback⟩
        · exact Or.inl ⟨⟨display, by rw [hnone]⟩, hleft⟩
        · exact Or.inr ⟨fun _ hlone => hsome (List.cons.inj hlone).2, hback⟩
      · show acquired (early ++ ([.openDisplay display true] ++ (told ++ (bound ++ new)))) = _ ∧
          returned (early ++ ([.openDisplay display true] ++ (told ++ (bound ++ new)))) = _
        rw [hopened, hkept, acquired_append, returned_append, hmade'', hgone'', List.nil_append,
          List.nil_append]
        exact hnew
    · rintro fault bound ⟨hmade'', hgone''⟩
      show Leaves (early ++ ([.openDisplay display true] ++ (told ++ bound)))
      unfold Leaves
      rw [hopened, hkept, hmade'', hgone'']
      exact Or.inl ⟨⟨display, rfl⟩, rfl⟩
  · rintro fault _ rfl
    exact leaves_of_idle (Idle.append ⟨hmade, hgone⟩ ⟨rfl, rfl⟩)

theorem makes_introduce : Makes (Context.introduce device) fun _ new => Idle new := by
  refine idle_bind (fun _ => ⟨[], (List.append_nil _).symm, rfl, rfl⟩) fun rig => ?_
  exact idle_bind (idle_logLine _ _ _) fun _ => idle_logLine _ _ _

end Contexts

end LockScreen.Proofs.GraphicsLeases
