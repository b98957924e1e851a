import ForeignBridge.Proofs.Simulation.Enduring

/-!
# Moments

A run of the simulated runtime comes through moments, in each of which an operation begins: the
operations of a script, and of the scripts that are called meanwhile.  From one moment to the next the
objects endure but for what the operation of the first one writes.  This holds of every script, whether
its functions are honest or not, and also if it is broken off.
-/

namespace ForeignBridge

/-!
# What follows a computation
-/

section Thereafter

variable {ε σ α μ : Type} {part : ExceptT ε (StateM σ) α} {note : α → σ → List μ} {s s' : σ}

/-- What is noted of what follows a computation, if it comes to a result. -/
def thereafter (part : ExceptT ε (StateM σ) α) (note : α → σ → List μ) (s : σ) : List μ :=
  match part.run.run s with
  | (.ok a, s') => note a s'
  | (.error _, _) => []

theorem thereafter_of_ok {a : α} (h : part.run.run s = (.ok a, s')) :
    thereafter part note s = note a s' := by
  unfold thereafter
  rw [h]

theorem thereafter_of_error {e : ε} (h : part.run.run s = (.error e, s')) :
    thereafter part note s = [] := by
  unfold thereafter
  rw [h]

theorem thereafter_nil : thereafter part (fun _ _ => ([] : List μ)) s = [] := by
  unfold thereafter
  rcases part.run.run s with ⟨outcome, s'⟩
  cases outcome with
  | ok a => rfl
  | error e => rfl

end Thereafter

namespace Simulation

open Attempt

/-- A moment of a run: the runtime, and the operation that begins then, if one does.  When a function
is made, and at rest, none does. -/
structure Moment where
  state : Simulation
  op : Option Op

/-- What the operation of a moment writes. -/
def Moment.Writes (m : Moment) : Writing :=
  match m.op with
  | some op => op.Writes m.state
  | none => .nothing

/-!
# Runs through moments
-/

/-- A heap comes to another through moments, and up to the first one some things are written. -/
def Unfolds (written : Writing) (h : Heap Object) : List Moment → Heap Object → Prop
  | [], h' => Endures written h h'
  | m :: rest, h' => Endures written h m.state.heap ∧ Unfolds m.Writes m.state.heap rest h'

namespace Unfolds

variable {written : Writing} {h h' h'' : Heap Object} {ms ms' : List Moment} {m m' : Moment}

theorem append (hfirst : Unfolds written h ms h') (hsecond : Unfolds .nothing h' ms' h'') :
    Unfolds written h (ms ++ ms') h'' := by
  induction ms generalizing written h with
  | nil =>
      have hendures : Endures written h h' := hfirst
      cases ms' with
      | nil =>
          have hlast : Endures .nothing h' h'' := hsecond
          exact hendures.trans hlast.of_nothing
      | cons m rest => exact ⟨hendures.trans hsecond.1.of_nothing, hsecond.2⟩
  | cons m rest ih => exact ⟨hfirst.1, ih hfirst.2⟩

theorem of_append_cons {before : List Moment}
    (hunfolds : Unfolds written h (before ++ m :: ms) h') :
    Unfolds m.Writes m.state.heap ms h' := by
  induction before generalizing written h with
  | nil => exact hunfolds.2
  | cons _ _ ih => exact ih hunfolds.2

theorem endures_cons {between : List Moment}
    (hunfolds : Unfolds written h (between ++ m' :: ms) h') :
    Endures (fun ref place new => written ref place new ∨ ∃ n ∈ between, n.Writes ref place new) h
      m'.state.heap := by
  induction between generalizing written h with
  | nil => exact hunfolds.1.mono fun _ _ _ => .inl
  | cons n rest ih =>
      refine .trans (hunfolds.1.mono fun _ _ _ => .inl) ((ih hunfolds.2).mono fun ref place new => ?_)
      rintro (hwrites | ⟨other, hother, hwrites⟩)
      · exact .inr ⟨n, List.mem_cons_self, hwrites⟩
      · exact .inr ⟨other, List.mem_cons_of_mem n hother, hwrites⟩

/-- From one moment to a later one the objects endure but for what is written in the moments from the
first one up to the other. -/
theorem endures {before between : List Moment}
    (h : Unfolds written h (before ++ m :: (between ++ m' :: ms)) h') :
    Endures (fun ref place new => ∃ n ∈ m :: between, n.Writes ref place new) m.state.heap
      m'.state.heap := by
  refine (endures_cons (of_append_cons h)).mono fun ref place new => ?_
  rintro (hwrites | ⟨other, hother, hwrites⟩)
  · exact ⟨m, List.mem_cons_self, hwrites⟩
  · exact ⟨other, List.mem_cons_of_mem m hother, hwrites⟩

end Unfolds

/-- What comes of a heap through moments goes on to be that where nothing is written. -/
theorem steady_unfolds (written : Writing) (h : Heap Object) (ms : List Moment) :
    Steady (fun s => Unfolds written h ms s.heap) fun _ => True := by
  have happend : ∀ {h' h'' : Heap Object}, Unfolds written h ms h' → Endures .nothing h' h'' →
      Unfolds written h ms h'' := by
    intro h' h'' hunfolds hendures
    rw [← List.append_nil ms]
    exact hunfolds.append hendures
  exact
    { misuse := fun _ _ => trivial
      gate := fun _ _ _ _ => ⟨trivial, trivial⟩
      retain := fun _ _ _ hs hretain => happend hs (.of_older (.retain hretain))
      allocate := fun s object hs _ _ => happend hs (.of_older (.allocate s.heap object))
      report := fun _ _ hs => hs
      build := fun s object hs _ => happend hs (.of_older (.allocate s.heap object))
      release := fun s ref hs => happend hs (.of_older (.releaseAll s.heap [ref]))
      register := fun _ _ hs => hs
      count := fun _ _ hs => hs
      clear := fun _ hs => hs }

/-- A computation comes through moments, however it ends. -/
def Passes {α : Type} (attempt : Attempt Simulation α) (s : Simulation) (ms : List Moment) : Prop :=
  Unfolds .nothing s.heap ms (attempt.outcome s).2.heap

section Sequences

variable {α β : Type} {attempt : Attempt Simulation α} {f : α → Attempt Simulation β} {s : Simulation}
  {ms : List Moment}

theorem passes_bind {moments : α → Simulation → List Moment} (hfirst : Passes attempt s ms)
    (hf : ∀ a s', Passes (f a) s' (moments a s')) :
    Passes (attempt >>= f) s (ms ++ thereafter attempt moments s) := by
  unfold Passes at hfirst ⊢
  rw [outcome_bind]
  rcases houtcome : attempt.outcome s with ⟨outcome, s'⟩
  rw [houtcome] at hfirst
  cases outcome with
  | ok a =>
      rw [thereafter_of_ok houtcome]
      exact hfirst.append (hf a s')
  | error panic =>
      rw [thereafter_of_error houtcome, List.append_nil]
      exact hfirst

/-- What goes on through no moments. -/
theorem passes_bind_of_none (hfirst : Passes attempt s ms) (hf : ∀ a s', Passes (f a) s' []) :
    Passes (attempt >>= f) s ms := by
  have hboth := passes_bind hfirst hf
  rw [thereafter_nil, List.append_nil] at hboth
  exact hboth

end Sequences

/-!
# Calls
-/

/-- What is run for a call of a function, from the state in which the call is counted. -/
def entered (s : Simulation) (function : Ref) (body : Nat → List Ref → Script)
    (arguments : List Ref) : Script × Simulation :=
  let t := { s with called := function :: s.called }
  (body (t.called.count function) arguments, t)

/-- The function that is called on new instances, with its body. -/
def initialiser? (s : Simulation) (attrs : Table Ref) : Option (Ref × (Nat → List Ref → Script)) :=
  (attrs.find? "__init__").bind fun ref =>
    match s.heap.get? ref with
    | some (.function _ body) => some (ref, body)
    | _ => none

/-- What is run for a call of a class, after the new instance was made. -/
def initialising? (s : Simulation) (cls : Ref) (attrs : Table Ref) (arguments : List Ref) :
    Option (Script × Simulation) :=
  (s.initialiser? attrs).bind fun found =>
    (s.heap.retain? cls).map fun h =>
      let made := h.allocate (.instanceOf cls .empty)
      entered { s with heap := made.2 } found.1 found.2 (made.1 :: arguments)

/-- What is run for a call, and from which state on. -/
def body? (s : Simulation) (callable arguments : Ref) : Option (Script × Simulation) :=
  ((s.heap.get? arguments).bind Object.items?).bind fun items =>
    match s.heap.get? callable with
    | some (.function _ body) => some (s.entered callable body items)
    | some (.boundMethod receiver function) =>
      match s.heap.get? function with
      | some (.function _ body) => some (s.entered function body (receiver :: items))
      | _ => none
    | some (.classOf _ attrs) => s.initialising? callable attrs items
    | _ => none

section Calls

variable {J : Simulation → Prop} {fine : Panic → Prop} {s : Simulation} {callable arguments : Ref}
  {runScript : Script → Attempt Simulation (Option Ref)}

theorem meets_allocate {object : Object} {ok : Ref → Simulation → Prop}
    {failed : Panic → Simulation → Prop} :
    (allocate object).Meets s ok failed ↔
      ok (s.heap.allocate object).1 { s with heap := (s.heap.allocate object).2 } := Iff.rfl

theorem meets_initialiserOf (hmisuse : ∀ panic : Panic, panic.isGate = false → fine panic)
    (attrs : Table Ref) :
    (initialiserOf attrs).Meets s (fun found s' => s' = s ∧ found = s.initialiser? attrs)
      fun panic s' => fine panic ∧ s' = s ∧ s.initialiser? attrs = none := by
  unfold initialiserOf initialiser?
  cases attrs.find? "__init__" with
  | none => exact ⟨rfl, rfl⟩
  | some ref =>
      dsimp only
      rw [meets_bind, Option.bind_some]
      apply meets_access
      · intro object hget
        rw [hget]
        cases object with
        | _ => exact ⟨rfl, rfl⟩
      · intro hdead
        rw [hdead]
        exact ⟨hmisuse _ rfl, rfl, rfl⟩

/-- Up to the body of a call an instance is made at most. -/
theorem endures_body {written : Writing} {script : Script} {t : Simulation}
    (h : s.body? callable arguments = some (script, t)) : Endures written s.heap t.heap := by
  rcases Option.bind_eq_some_iff.1 h with ⟨items, -, hitems⟩
  cases hobject : s.heap.get? callable with
  | none =>
      rw [hobject] at hitems
      cases hitems
  | some object =>
      rw [hobject] at hitems
      cases object with
      | function name body =>
          cases hitems
          exact .refl s.heap
      | boundMethod receiver function =>
          dsimp only at hitems
          split at hitems
          · cases hitems
            exact .refl s.heap
          · cases hitems
      | classOf name attrs =>
          rcases Option.bind_eq_some_iff.1 hitems with ⟨found, -, hfound⟩
          rcases Option.map_eq_some_iff.1 hfound with ⟨made, hretain, hentered⟩
          cases hentered
          exact .trans (.of_older (.retain hretain)) (.of_older (.allocate made _))
      | _ => cases hitems

variable (hJ : Steady J fine)

include hJ

theorem meets_instantiate {attrs : Table Ref} {name : String} {items : List Ref}
    (hrest : s.initialising? callable attrs items = none → J s)
    (hbody : ∀ script t, s.initialising? callable attrs items = some (script, t) →
      (runScript script).Meets t (fun _ s' => J s') fun panic s' => fine panic ∧ J s') :
    (instantiate runScript callable name attrs items).Meets s (fun _ s' => J s')
      fun panic s' => fine panic ∧ J s' := by
  unfold instantiate
  rw [meets_bind]
  unfold initialising? at hrest hbody
  refine meets_mono (fun initialiser s₁ hfound => ?_) (fun panic s₁ hfailed => ?_)
    (meets_initialiserOf hJ.misuse attrs)
  · rcases hfound with ⟨rfl, rfl⟩
    rw [meets_bind]
    refine meets_retain (fun h hretain => ?_) fun hdead => ⟨hJ.misuse _ rfl, hrest ?_⟩
    · rw [meets_bind, meets_allocate]
      dsimp only
      cases hinitialiser : s₁.initialiser? attrs with
      | none =>
          rw [hinitialiser] at hrest
          have hs := hJ.retain s₁ callable h (hrest rfl) hretain
          have hmade := hJ.build { s₁ with heap := h } (.instanceOf callable .empty) hs trivial
          dsimp only
          split
          · exact hmade
          · exact Upholds.bind (upholds_release hJ _) (fun _ => upholds_failWith hJ.toMild _ _ _) _
              hmade
      | some found =>
          rw [hinitialiser, Option.bind_some, hretain] at hbody
          dsimp only
          rw [meets_bind]
          refine meets_mono (fun result s' hs' => ?_) (fun _ _ h => h) (hbody _ _ rfl)
          cases result with
          | some result => exact Upholds.bind (upholds_release hJ _) (fun _ => Upholds.pure) s' hs'
          | none => exact Upholds.bind (upholds_release hJ _) (fun _ => Upholds.pure) s' hs'
    · rw [hdead]
      cases s₁.initialiser? attrs with
      | _ => rfl
  · rw [hfailed.2.2] at hrest
    rw [hfailed.2.1]
    exact ⟨hfailed.1, hrest rfl⟩

/-- Whatever is called, what is run for it decides what comes of the call.  Otherwise the call does
nothing but make an instance or raise an error. -/
theorem meets_call (hrest : s.body? callable arguments = none → J s)
    (hbody : ∀ script t, s.body? callable arguments = some (script, t) →
      (runScript script).Meets t (fun _ s' => J s') fun panic s' => fine panic ∧ J s') :
    (call runScript callable arguments).Meets s (fun _ s' => J s')
      fun panic s' => fine panic ∧ J s' := by
  have hnot : J s → (displayType callable >>= fun type =>
      failWith "TypeError" s!"'{type}' object is not callable" (none : Option Ref)).Meets s
        (fun _ s' => J s') fun panic s' => fine panic ∧ J s' :=
    upholds_complaint hJ.toMild callable _ _ _ s
  unfold body? at hrest hbody
  unfold call
  dsimp only
  rw [meets_bind]
  refine meets_access (fun sequence hsequence => ?_) fun hdead => ⟨hJ.misuse _ rfl, hrest ?_⟩
  · rw [hsequence, Option.bind_some] at hrest hbody
    cases hitems : sequence.items? with
    | none =>
        rw [hitems] at hrest
        exact upholds_failWith hJ.toMild _ _ _ s (hrest rfl)
    | some items =>
        rw [hitems, Option.bind_some] at hrest hbody
        dsimp only
        rw [meets_bind]
        refine meets_access (fun object hobject => ?_) fun hdead => ⟨hJ.misuse _ rfl, hrest ?_⟩
        · rw [hobject] at hrest hbody
          cases object with
          | function name body => exact hbody _ _ rfl
          | classOf name attrs => exact meets_instantiate hJ hrest hbody
          | boundMethod receiver function =>
              dsimp only at hrest hbody ⊢
              rw [meets_bind]
              refine meets_access (fun target htarget => ?_) fun hdead => ⟨hJ.misuse _ rfl, hrest ?_⟩
              · rw [htarget] at hrest hbody
                cases target with
                | function name body => exact hbody _ _ rfl
                | _ => exact hnot (hrest rfl)
              · rw [hdead]
          | _ => exact hnot (hrest rfl)
        · rw [hdead]
  · rw [hdead]
    rfl

end Calls

/-!
# Operations and scripts
-/

/-- The moments of an operation: the one in which it begins, and those of what is run for it, if it is
a call. -/
def opMoments (scriptMoments : Script → Simulation → List Moment) (op : Op) (s : Simulation) :
    List Moment :=
  ⟨s, some op⟩ ::
    match op with
    | .request (.call callable arguments) =>
      if s.phase = .running then
        ((s.body? callable arguments).map fun found => scriptMoments found.1 found.2).getD []
      else []
    | _ => []

/-- The moments of a script, given those of operations. -/
def momentsWith (perform : (op : Op) → Attempt Simulation op.Answer)
    (opMoments : Op → Simulation → List Moment) : Script → Simulation → List Moment
  | .done _, _ => []
  | .perform op next, s =>
    opMoments op s ++
      thereafter (perform op) (fun answer s' => momentsWith perform opMoments (next answer) s') s
  | .newFunction name body next, s =>
    let made := s.heap.allocate (.function name body)
    ⟨s, none⟩ :: momentsWith perform opMoments (next made.1) { s with heap := made.2 }

/-- The moments of a script in which calls may be nested up to a depth. -/
def scriptMoments : Nat → Script → Simulation → List Moment
  | 0 => fun _ _ => []
  | depth + 1 => momentsWith (perform (run depth)) (opMoments (scriptMoments depth))

section Operations

variable {runScript : Script → Attempt Simulation (Option Ref)}
  {moments : Script → Simulation → List Moment} {s : Simulation}

theorem passes_of_steady {op : Op} (hop : op.steady = true) :
    Passes (perform runScript op) s (opMoments moments op s) := by
  have hmoments : opMoments moments op s = [⟨s, some op⟩] := by
    cases op with
    | request r =>
        cases r with
        | call callable arguments => cases hop
        | _ => rfl
    | _ => rfl
  have hsteady := steady_endures (op.Writes s) s.heap
  rw [hmoments]
  exact ⟨.refl s.heap, meets_iff_state.1 (upholds_perform_of_steady hsteady hop s (.refl s.heap))⟩

/-- A request outside the life of a runtime does nothing. -/
theorem state_answer_of_not_running (h : s.phase ≠ .running) (r : Request) :
    ((answer runScript r).outcome s).2 = s := by
  have hrefused : ∃ panic, (requireRunning r.method).outcome s = (.error panic, s) := by
    unfold requireRunning
    rw [outcome_get_bind]
    cases hphase : s.phase with
    | running => exact absurd hphase h
    | fresh | stopped => exact ⟨_, rfl⟩
  rcases hrefused with ⟨panic, hrefused⟩
  unfold answer
  rw [outcome_bind, hrefused]

theorem unfolds_answer {r : Request} {written : Writing} {ms : List Moment}
    (hrunning : s.phase = .running → Unfolds written s.heap ms ((serve runScript r).outcome s).2.heap)
    (hnot : s.phase ≠ .running → ms = []) :
    Unfolds written s.heap ms ((answer runScript r).outcome s).2.heap := by
  by_cases hphase : s.phase = .running
  · rw [outcome_answer_of_running hphase]
    exact hrunning hphase
  · rw [state_answer_of_not_running hphase, hnot hphase]
    exact Endures.refl s.heap

variable (hrun : ∀ script t, Passes (runScript script) t (moments script t))

include hrun

theorem passes_call (callable arguments : Ref) :
    Passes (answer runScript (.call callable arguments)) s
      (opMoments moments (.request (.call callable arguments)) s) := by
  refine ⟨.refl s.heap, unfolds_answer (fun hrunning => ?_) fun hnot => if_neg hnot⟩
  dsimp only at hrunning ⊢
  rw [if_pos hrunning]
  have hsteady := steady_unfolds (Op.Writes s (.request (.call callable arguments))) s.heap
    (((s.body? callable arguments).map fun found => moments found.1 found.2).getD [])
  refine meets_iff_state.1 (meets_call hsteady (fun hnone => ?_) fun script t hbody => ?_)
  · rw [hnone]
    exact Endures.refl s.heap
  · rw [hbody]
    have hstart : Unfolds (Op.Writes s (.request (.call callable arguments))) s.heap [] t.heap :=
      endures_body hbody
    exact meets_iff_state.2 (hstart.append (hrun script t))

/-- What an operation writes it writes itself, in the first of its moments, or in a later one in which
another operation begins that is performed for it. -/
theorem passes_perform (op : Op) : Passes (perform runScript op) s (opMoments moments op s) := by
  cases op with
  | request r =>
      cases r with
      | setAttr target name value =>
          exact ⟨.refl s.heap, unfolds_answer (fun hrunning => endures_setAttr hrunning) fun _ => rfl⟩
      | setItem target key value =>
          exact ⟨.refl s.heap, unfolds_answer (fun hrunning => endures_setItem hrunning) fun _ => rfl⟩
      | call callable arguments => exact passes_call hrun callable arguments
      | _ => exact passes_of_steady rfl
  | _ => exact passes_of_steady rfl

end Operations

theorem passes_runWith {perform : (op : Op) → Attempt Simulation op.Answer}
    {opMoments : Op → Simulation → List Moment}
    (hperform : ∀ op s, Passes (perform op) s (opMoments op s)) (script : Script) (s : Simulation) :
    Passes (runWith perform script) s (momentsWith perform opMoments script s) := by
  -- The moments of an operation come before those of what follows it; a function is made at one.
  induction script generalizing s with
  | done result => exact Endures.refl s.heap
  | perform op next ih => exact passes_bind (hperform op s) ih
  | newFunction name body next _ ih =>
      have hmade : Unfolds .nothing s.heap [] (s.heap.allocate (.function name body)).2 :=
        Endures.of_older (.allocate s.heap _)
      have hrest := ih (s.heap.allocate (.function name body)).1
        { s with heap := (s.heap.allocate (.function name body)).2 }
      exact ⟨.refl s.heap, hmade.append hrest⟩

/-- Every script comes through its moments, by induction on the depth of the calls. -/
theorem passes_run (depth : Nat) (script : Script) (s : Simulation) :
    Passes (run depth script) s (scriptMoments depth script s) := by
  induction depth generalizing script s with
  | zero => exact Endures.refl s.heap
  | succ depth ih => exact passes_runWith (fun op s => passes_perform ih op) script s

end Simulation
end ForeignBridge
