import ForeignBridge.Proofs.Session.Estates

/-!
# Values that are alike

Two host values are alike if they have one form, equal parts, and handles in the same places that are
related in some way.
-/

namespace ForeignBridge
namespace Value

mutual

/-- Two values are alike but for their handles, which are related. -/
def Alike (related : Handle → Handle → Prop) : Value → Value → Prop
  | undefined, undefined => True
  | scalar s, scalar t => s.eq t = true
  | text s, text t => s = t
  | cell items, cell others => AlikeAll related items others
  | matrix m, matrix n => m.eq n = true
  | foreign h, foreign k => related h k
  | _, _ => False

/-- Two lists of values are alike, one by one. -/
def AlikeAll (related : Handle → Handle → Prop) : List Value → List Value → Prop
  | [], [] => True
  | v :: values, w :: others => v.Alike related w ∧ AlikeAll related values others
  | _, _ => False

end

mutual

/-- Values are equal if they are alike and their handles are the same. -/
theorem eq_iff_alike {related : Handle → Handle → Prop} (v w : Value)
    (h : ∀ handle ∈ v.handles, ∀ other ∈ w.handles,
      (handle.sameObject other = true ↔ related handle other)) :
    v.eq w = true ↔ v.Alike related w := by
  cases v with
  | cell items =>
      cases w with
      | cell others =>
          rw [eq, Alike]
          exact eqAll_iff_alikeAll items others h
      | _ => simp [eq, Alike]
  | foreign handle =>
      cases w with
      | foreign other =>
          rw [eq, Alike]
          exact h handle List.mem_cons_self other List.mem_cons_self
      | _ => simp [eq, Alike]
  | _ =>
      cases w with
      | _ => simp [eq, Alike]

theorem eqAll_iff_alikeAll {related : Handle → Handle → Prop} (values others : List Value)
    (h : ∀ handle ∈ handlesAll values, ∀ other ∈ handlesAll others,
      (handle.sameObject other = true ↔ related handle other)) :
    eqAll values others = true ↔ AlikeAll related values others := by
  cases values with
  | nil =>
      cases others with
      | _ => simp [eqAll, AlikeAll]
  | cons v rest =>
      cases others with
      | nil => simp [eqAll, AlikeAll]
      | cons w others =>
          rw [eqAll, AlikeAll, Bool.and_eq_true]
          rw [handlesAll, handlesAll] at h
          refine and_congr (eq_iff_alike v w fun handle hhandle other hother => ?_)
            (eqAll_iff_alikeAll rest others fun handle hhandle other hother => ?_)
          · exact h handle (List.mem_append_left _ hhandle) other (List.mem_append_left _ hother)
          · exact h handle (List.mem_append_right _ hhandle) other (List.mem_append_right _ hother)

end

end Value

/-!
# Objects over time

From one estate of a run to the next, the objects of each runtime endure, whatever is written to them.
-/

namespace Simulation

/-- Anything may be written. -/
def Writing.anything : Writing := fun _ _ _ => True

/-- Through whatever moments a heap goes, its objects endure. -/
theorem Unfolds.anything {written : Writing} {h h' : Heap Object} {ms : List Moment}
    (hunfolds : Unfolds written h ms h') : Endures .anything h h' := by
  induction ms generalizing written h with
  | nil => exact Endures.mono hunfolds fun _ _ _ _ => trivial
  | cons m rest ih => exact (hunfolds.1.mono fun _ _ _ _ => trivial).trans (ih hunfolds.2)

theorem endures_allocate (object : Object) (s : Simulation) :
    Endures .anything s.heap ((allocate object).outcome s).2.heap :=
  .of_older (.allocate s.heap object)

theorem endures_of_agrees {attempt : Attempt Simulation α} {s : Simulation}
    (h : attempt.Upholds (Agrees s) fun _ => True) :
    Endures .anything s.heap (attempt.outcome s).2.heap := by
  have hagrees : Agrees s (attempt.outcome s).2 := Attempt.meets_iff_state.1 (h s (Agrees.refl s))
  rw [hagrees.heap]
  exact .refl s.heap

end Simulation

namespace Session

open Simulation (Object Endures)

variable {α : Type} {place : Nat} {w w' w'' : World}

namespace World

/-- The objects of the runtime at a place endure from one world to another. -/
def Outlasts (place : Nat) (w w' : World) : Prop :=
  ∀ rig, w.runtimes[place]? = some (.simulated rig) →
    w'.Houses place (Endures .anything rig.simulation.heap)

namespace Outlasts

theorem refl (w : World) : Outlasts place w w := fun rig hrig => ⟨rig, hrig, .refl _⟩

theorem trans (hfirst : Outlasts place w w') (hsecond : Outlasts place w' w'') :
    Outlasts place w w'' := by
  intro rig hrig
  rcases hfirst rig hrig with ⟨rig', hrig', hendures⟩
  exact (hsecond rig' hrig').mono fun _ hlater => hendures.trans hlater

end Outlasts

/-- What keeps all that is kept by steady computations lets objects endure. -/
theorem outlasts_of_abides {act : Act α} {outcome : Except Failure α}
    (h : ∀ first, Abides (Houses place (Endures .anything first)) (fun _ => True) act)
    (hrun : act.run.run w = (outcome, w')) : Outlasts place w w' := by
  intro rig hrig
  have hafter := (h rig.simulation.heap).holds ⟨rig, hrig, Endures.refl _⟩
  rw [hrun] at hafter
  exact hafter

theorem outlasts_of_cross {bridge : Nat} {crossing : Context → Crossing α}
    {outcome : Except Failure α} (hrun : (cross bridge crossing).run.run w = (outcome, w')) :
    Outlasts place w w' := by
  intro rig hrig
  have hafter := leads_cross bridge crossing [] w ⟨rig, hrig, Endures.refl rig.simulation.heap⟩
  rw [hrun] at hafter
  exact Houses.mono hafter fun _ hunfolds => hunfolds.anything

theorem outlasts_of_yields {other : Nat} {attempt : Attempt Simulation α} {a : α}
    (h : ∀ s, Endures .anything s.heap (attempt.outcome s).2.heap)
    (hyields : w.YieldsAt other attempt a w') : Outlasts place w w' := by
  rcases hyields with ⟨rig, s, hrig, houtcome, rfl⟩
  intro found hfound
  by_cases hplace : other = place
  · subst hplace
    rw [hrig] at hfound
    cases hfound
    have hafter := h rig.simulation
    rw [houtcome] at hafter
    exact ⟨_, getElem?_set_self hrig _, hafter⟩
  · exact ⟨found, (Array.getElem?_setIfInBounds_ne hplace).trans hfound, .refl _⟩

end World

namespace Estate

open World

variable {e e' : Estate}

/-- In one step, whatever it is, the objects of all runtimes endure. -/
theorem outlasts_step (hstep : Step e e') : Outlasts place e.world e'.world := by
  have htends : ∀ first, Tends (Houses place (Endures .anything first)) fun _ => True :=
    fun first => tends_houses (Simulation.steady_endures .anything first)
  cases hstep with
  | @operate w op _ _ depth _ _ h =>
      exact outlasts_of_yields (fun s =>
        (Simulation.passes_perform (Simulation.passes_run depth) op).anything) h
  | define _ _ h => exact outlasts_of_yields (Simulation.endures_allocate _) h
  | start _ h =>
      exact outlasts_of_yields (fun s => Simulation.endures_of_agrees (Simulation.upholds_start _)) h
  | stop _ h =>
      exact outlasts_of_yields (fun s => Simulation.endures_of_agrees (Simulation.upholds_stop s)) h
  | refuseStart _ _ h => exact outlasts_of_yields (fun s => .refl s.heap) h
  | enter bridge => exact outlasts_of_abides (fun _ => abides_enter bridge) rfl
  | leave bridge => exact outlasts_of_abides (fun _ => abides_leave_standing bridge) rfl
  | served h | failed h | asked h | unanswered h => exact outlasts_of_cross h
  | @clone w v _ h =>
      exact outlasts_of_abides (fun first => abides_cloneHandles (htends first) v.handles) h
  | @drop w v _ _ h =>
      exact outlasts_of_abides (fun first => abides_dropHandles (htends first) v.handles) h
  | arrange _ => exact Outlasts.refl e.world

/-- The estates that a run visits from one to another, with both of them. -/
inductive Trail : Estate → List Estate → Estate → Prop where
  | still (e : Estate) : Trail e [e] e
  | step {e e' e'' : Estate} {visited : List Estate} (hstep : Step e e')
      (htrail : Trail e' visited e'') : Trail e (e :: visited) e''

namespace Trail

variable {visited : List Estate}

theorem mem_first (htrail : Trail e visited e') : e ∈ visited := by
  cases htrail with
  | still => exact List.mem_cons_self
  | step _ _ => exact List.mem_cons_self

theorem mem_last (htrail : Trail e visited e') : e' ∈ visited := by
  induction htrail with
  | still => exact List.mem_cons_self
  | step _ _ ih => exact List.mem_cons_of_mem _ ih

theorem reachable (htrail : Trail e visited e') (he : Reachable e) : Reachable e' := by
  induction htrail with
  | still => exact he
  | step hstep _ ih => exact ih (he.step hstep)

theorem bridges (htrail : Trail e visited e') {m : Estate} (hm : m ∈ visited) :
    m.world.bridges = e.world.bridges := by
  induction htrail with
  | still e =>
      rw [List.mem_singleton.1 hm]
  | step hstep _ ih =>
      rcases List.mem_cons.1 hm with rfl | hlater
      · rfl
      · exact (ih hlater).trans (bridges_step hstep)

/-- Objects endure up to each estate of a trail, and from there to the end. -/
theorem outlasts (htrail : Trail e visited e') {m : Estate} (hm : m ∈ visited) :
    Outlasts place e.world m.world ∧ Outlasts place m.world e'.world := by
  induction htrail generalizing m with
  | still e =>
      rw [List.mem_singleton.1 hm]
      exact ⟨Outlasts.refl _, Outlasts.refl _⟩
  | @step e e₁ e' visited hstep htrail ih =>
      rcases List.mem_cons.1 hm with rfl | hlater
      · exact ⟨Outlasts.refl _, (outlasts_step hstep).trans (ih htrail.mem_first).2⟩
      · exact ⟨(outlasts_step hstep).trans (ih hlater).1, (ih hlater).2⟩

end Trail

/-!
# Handles and the objects that they name

A handle names the object with its number in the runtime of its bridge.  That the objects named by two
handles, one of which exists at the start of a trail and one at its end, are the same object means that
they have one number in one runtime, and that an object of one frame bears it all the way.
-/

/-- An object of a frame bears a number in the runtime at a place. -/
def Bears (e : Estate) (place : Nat) (ref : Ref) (frame : Object) : Prop :=
  ∃ rig object, e.world.runtimes[place]? = some (.simulated rig) ∧
    rig.simulation.heap.get? ref = some object ∧ object.frame = frame

/-- A handle names an object that lives in the runtime of the bridge. -/
def Names (e : Estate) (h : Handle) : Prop :=
  ∃ place frame, e.world.runtimeOf h = some place ∧ e.Bears place h.ref frame

/-- All along a trail, two handles name one object of one runtime. -/
def SameObject (visited : List Estate) (h k : Handle) : Prop :=
  h.ref = k.ref ∧ ∃ place frame, ∀ e ∈ visited, e.world.runtimeOf h = some place ∧
    e.world.runtimeOf k = some place ∧ e.Bears place h.ref frame

/-- Two handles have one number, but in different runtimes. -/
def Confused (e e' : Estate) (h k : Handle) : Prop :=
  h.ref = k.ref ∧ e.world.runtimeOf h ≠ e'.world.runtimeOf k

/-- How two values compare, of which one exists at the start of a trail and one at its end. -/
structure Compares (e : Estate) (visited : List Estate) (e' : Estate) (v v' : Value) : Prop where
  first : ∀ h ∈ v.handles, e.Names h
  last : ∀ k ∈ v'.handles, e'.Names k
  /-- Handles are the same if they name the same object, or if they are confused. -/
  handles : ∀ h ∈ v.handles, ∀ k ∈ v'.handles,
    (h.sameObject k = true ↔ SameObject visited h k ∨ Confused e e' h k)
  confused : ∀ h k, Confused e e' h k → ¬ SameObject visited h k
  /-- Values are equal if they are alike and their handles are the same. -/
  values : v.eq v' = true ↔
    v.Alike (fun h k => SameObject visited h k ∨ Confused e e' h k) v'
  /-- In one runtime nothing is confused: what is the same, or equal, names the same objects. -/
  within : (∀ h ∈ v.handles, ∀ k ∈ v'.handles, e.world.runtimeOf h = e'.world.runtimeOf k) →
    (∀ h ∈ v.handles, ∀ k ∈ v'.handles, (h.sameObject k = true ↔ SameObject visited h k)) ∧
      (v.eq v' = true ↔ v.Alike (SameObject visited) v')

theorem exists_object (hkept : Kept e) {h : Handle} (hh : h ∈ Value.handlesAll e.values) :
    ∃ place rig object, e.world.runtimeOf h = some place ∧
      e.world.runtimes[place]? = some (.simulated rig) ∧
      rig.simulation.heap.get? h.ref = some object := by
  rcases hkept.connected h hh with ⟨bridge, connection, hconnected⟩
  have hruntime : e.world.runtimeOf h = some connection.runtime := by
    unfold runtimeOf
    rw [hconnected.1, Option.bind_some, hconnected.2]
    rfl
  rcases hkept.sound _ bridge connection hconnected with ⟨rig, hrig, -, hs⟩
  have hmem : h.ref ∈ e.held connection.runtime := by
    have hfound : h ∈ (Value.handlesAll e.values).filter fun h =>
        e.world.runtimeOf h = some connection.runtime :=
      List.mem_filter.2 ⟨hh, decide_eq_true hruntime⟩
    exact Multiset.mem_add.2 (.inl (List.mem_map.2 ⟨h, hfound, rfl⟩))
  rcases hs.balanced.live (Multiset.mem_add.2 (.inr (Multiset.mem_add.2 (.inr hmem)))) with
    ⟨slot, hslot⟩
  refine ⟨_, rig, slot.content, hruntime, hrig, ?_⟩
  unfold Heap.get?
  rw [hslot]
  rfl

theorem names_of_kept (hkept : Kept e) {h : Handle} (hh : h ∈ Value.handlesAll e.values) :
    e.Names h := by
  rcases exists_object hkept hh with ⟨place, rig, object, hruntime, hrig, hget⟩
  exact ⟨place, object.frame, hruntime, rig, object, hrig, hget, rfl⟩

section Trails

variable {visited : List Estate} (he : Reachable e) (htrail : Trail e visited e') {h k : Handle}

include he htrail

/-- A number that lives at both ends of a trail is that of one object all the way: no number is given out
again. -/
theorem sameObject_of_ref (hh : h ∈ Value.handlesAll e.values) (hk : k ∈ Value.handlesAll e'.values)
    (href : h.ref = k.ref) (hruntime : e.world.runtimeOf h = e'.world.runtimeOf k) :
    SameObject visited h k := by
  rcases exists_object (kept_of_reachable he) hh with ⟨place, rig, object, hplace, hrig, hget⟩
  rcases exists_object (kept_of_reachable (htrail.reachable he)) hk with
    ⟨place', rig', object', hplace', hrig', hget'⟩
  rw [hruntime, hplace'] at hplace
  cases hplace
  refine ⟨href, place, object.frame, fun m hm => ?_⟩
  have hbridges := htrail.bridges hm
  have hlast := htrail.bridges htrail.mem_last
  rcases htrail.outlasts hm with ⟨hbefore, hafter⟩
  rcases hbefore rig hrig with ⟨middle, hmiddle, hendures⟩
  rcases hafter middle hmiddle with ⟨found, hfound, hendures'⟩
  rw [hrig'] at hfound
  cases hfound
  refine ⟨?_, ?_, ?_⟩
  · rw [runtimeOf_congr hbridges, hruntime, hplace']
  · rw [runtimeOf_congr (hbridges.trans hlast.symm), hplace']
  · cases hlives : middle.simulation.heap.get? h.ref with
    | none =>
        have hdead := hendures.stays_dead hendures' hget hlives
        rw [href, hget'] at hdead
        cases hdead
    | some between =>
        exact ⟨middle, between, hmiddle, hlives, (hendures.lasts _ _ _ hget hlives).frame⟩

theorem sameObject_iff (hh : h ∈ Value.handlesAll e.values) (hk : k ∈ Value.handlesAll e'.values) :
    h.sameObject k = true ↔ SameObject visited h k ∨ Confused e e' h k := by
  have hrefs : h.sameObject k = true ↔ h.ref = k.ref := beq_iff_eq
  rw [hrefs]
  constructor
  · intro href
    by_cases hruntime : e.world.runtimeOf h = e'.world.runtimeOf k
    · exact .inl (sameObject_of_ref he htrail hh hk href hruntime)
    · exact .inr ⟨href, hruntime⟩
  · rintro (hsame | hconfused)
    · exact hsame.1
    · exact hconfused.1

omit he in
theorem not_sameObject_of_confused (hconfused : Confused e e' h k) : ¬ SameObject visited h k := by
  rintro ⟨-, place, frame, hsame⟩
  apply hconfused.2
  rw [(hsame e htrail.mem_first).1, (hsame e' htrail.mem_last).2.1]

/-- In every run over any number of runtimes, a handle names an object that lives in the runtime of its
bridge, and for as long as it exists the same one.  Two handles of one runtime are the same exactly if
they name the same object; of different runtimes, if their numbers coincide. -/
theorem compares_of_trail {v v' : Value} (hv : v ∈ e.values) (hv' : v' ∈ e'.values) :
    Compares e visited e' v v' := by
  have hfirst : ∀ h ∈ v.handles, h ∈ Value.handlesAll e.values :=
    fun _ => Value.mem_handlesAll hv
  have hlast : ∀ k ∈ v'.handles, k ∈ Value.handlesAll e'.values :=
    fun _ => Value.mem_handlesAll hv'
  have hhandles : ∀ h ∈ v.handles, ∀ k ∈ v'.handles,
      (h.sameObject k = true ↔ SameObject visited h k ∨ Confused e e' h k) :=
    fun h hh k hk => sameObject_iff he htrail (hfirst h hh) (hlast k hk)
  constructor
  · exact fun h hh => names_of_kept (kept_of_reachable he) (hfirst h hh)
  · exact fun k hk => names_of_kept (kept_of_reachable (htrail.reachable he)) (hlast k hk)
  · exact hhandles
  · exact fun h k => not_sameObject_of_confused htrail
  · exact Value.eq_iff_alike v v' hhandles
  · intro hwithin
    have hsame : ∀ h ∈ v.handles, ∀ k ∈ v'.handles,
        (h.sameObject k = true ↔ SameObject visited h k) := by
      intro h hh k hk
      rw [hhandles h hh k hk]
      exact or_iff_left fun hconfused => hconfused.2 (hwithin h hh k hk)
    exact ⟨hsame, Value.eq_iff_alike v v' hsame⟩

end Trails

/-!
Two runtimes with a module each, which a bridge over each of them imports.  The modules have the same
number.
-/

/-- A world with a bridge over each of two runtimes. -/
def sampleTwins (first second : Simulation) : World where
  runtimes := #[.simulated ⟨first, [], 1⟩, .simulated ⟨second, [], 1⟩]
  phases := []
  bridges := #[⟨some ⟨0, .process, true⟩, {}⟩, ⟨some ⟨1, .named "other", true⟩, {}⟩]
  bindings := .empty
  events := []
  nesting := 1

/-- A runtime after a module was registered in it. -/
def sampleRegistered : Simulation :=
  ((Simulation.perform (Simulation.run 1) (.registerModule "m" [])).outcome .fresh).2

/-- A bridge imports the module. -/
def sampleImport (bridge : Nat) : Act Reply := cross bridge fun ctx => ctx.serve (.importModule "m")

/-- The world after the first bridge imported its module. -/
def sampleFirst : World :=
  ((sampleImport 0).run.run (sampleTwins sampleRegistered sampleRegistered)).2

/-- The world after both bridges imported their modules. -/
def sampleBoth : World := ((sampleImport 1).run.run sampleFirst).2

/-- The module of a bridge. -/
def sampleHandle (bridge : Nat) : Handle := ⟨bridge, ⟨2⟩, "m"⟩

theorem opens_sampleTwins : (sampleTwins .fresh .fresh).Opens := by
  refine ⟨fun index bridge connection hconnected => ?_, rfl⟩
  rcases hconnected with ⟨hbridge, hconnection⟩
  rcases index with _ | _ | index
  · cases hbridge
    cases hconnection
    exact ⟨1, rfl⟩
  · cases hbridge
    cases hconnection
    exact ⟨1, rfl⟩
  · cases hbridge

/-- The module is registered in both runtimes, and the first bridge imports it. -/
theorem exists_sampleFirst :
    ∃ owned, Reachable ⟨sampleFirst, [.foreign (sampleHandle 0)], owned⟩ := by
  have hnames : (Simulation.Op.registerModule "m" []).WellNamed := List.nodup_nil
  have hfirst : (sampleTwins .fresh .fresh).YieldsAt 0
      (Simulation.perform (Simulation.run 1) (.registerModule "m" [])) (⟨2⟩ : Ref)
      (sampleTwins sampleRegistered .fresh) :=
    ⟨⟨.fresh, [], 1⟩, _, rfl, Prod.ext (by cbv) rfl, rfl⟩
  have hsecond : (sampleTwins sampleRegistered .fresh).YieldsAt 1
      (Simulation.perform (Simulation.run 1) (.registerModule "m" [])) (⟨2⟩ : Ref)
      (sampleTwins sampleRegistered sampleRegistered) :=
    ⟨⟨.fresh, [], 1⟩, _, rfl, Prod.ext (by cbv) rfl, rfl⟩
  have himport : (sampleImport 0).run.run (sampleTwins sampleRegistered sampleRegistered) =
      (.ok (.value (.foreign (sampleHandle 0))), sampleFirst) :=
    Prod.ext (by cbv) rfl
  have hone := (Reachable.opens opens_sampleTwins).step
    (.operate 0 1 hnames (Multiset.zero_le _) hfirst)
  have htwo := hone.step (.operate 1 1 hnames (Multiset.zero_le _) hsecond)
  have hthree := htwo.step (Step.served himport)
  exact ⟨_, hthree⟩

theorem step_sampleBoth (owned : Nat → Multiset Ref) :
    Step ⟨sampleFirst, [.foreign (sampleHandle 0)], owned⟩
      ⟨sampleBoth, [.foreign (sampleHandle 1), .foreign (sampleHandle 0)], owned⟩ := by
  have himport : (sampleImport 1).run.run sampleFirst =
      (.ok (.value (.foreign (sampleHandle 1))), sampleBoth) :=
    Prod.ext (by cbv) rfl
  have hstep : ∀ e : Estate, e.world = sampleFirst →
      Step e ⟨sampleBoth, (Reply.value (.foreign (sampleHandle 1))).values ++ e.values, e.owned⟩ := by
    rintro e he
    rw [← he] at himport
    exact Step.served himport
  exact hstep _ rfl

/-- The handle of the first bridge is compared with itself a step later, and with the other one. -/
theorem compares_of_twins :
    ∃ e visited e', Reachable e ∧ Trail e visited e' ∧
      Value.foreign (sampleHandle 0) ∈ e.values ∧ Value.foreign (sampleHandle 0) ∈ e'.values ∧
      Value.foreign (sampleHandle 1) ∈ e'.values ∧
      Compares e visited e' (.foreign (sampleHandle 0)) (.foreign (sampleHandle 0)) ∧
      Compares e visited e' (.foreign (sampleHandle 0)) (.foreign (sampleHandle 1)) := by
  rcases exists_sampleFirst with ⟨owned, hfirst⟩
  have htrail := Trail.step (step_sampleBoth owned) (.still _)
  have hold : Value.foreign (sampleHandle 0) ∈ [Value.foreign (sampleHandle 0)] :=
    List.mem_cons_self
  have hkept : Value.foreign (sampleHandle 0) ∈
      [Value.foreign (sampleHandle 1), Value.foreign (sampleHandle 0)] :=
    List.mem_cons_of_mem _ List.mem_cons_self
  have hnew : Value.foreign (sampleHandle 1) ∈
      [Value.foreign (sampleHandle 1), Value.foreign (sampleHandle 0)] := List.mem_cons_self
  exact ⟨_, _, _, hfirst, htrail, hold, hkept, hnew,
    compares_of_trail hfirst htrail hold hkept, compares_of_trail hfirst htrail hold hnew⟩

/-- The handles of the modules are the same, and cells that hold them are equal, but the modules are not
the same object. -/
theorem confused_twins :
    ∃ owned, Reachable ⟨sampleBoth, [.foreign (sampleHandle 1), .foreign (sampleHandle 0)], owned⟩ ∧
      (sampleHandle 0).sameObject (sampleHandle 1) = true ∧
      (Value.cell [.foreign (sampleHandle 0)]).eq (.cell [.foreign (sampleHandle 1)]) = true ∧
      sampleBoth.runtimeOf (sampleHandle 0) = some 0 ∧
      sampleBoth.runtimeOf (sampleHandle 1) = some 1 ∧
      ¬ SameObject [⟨sampleBoth, [.foreign (sampleHandle 1), .foreign (sampleHandle 0)], owned⟩]
        (sampleHandle 0) (sampleHandle 1) := by
  rcases exists_sampleFirst with ⟨owned, hfirst⟩
  have hzero : sampleBoth.runtimeOf (sampleHandle 0) = some 0 := by cbv
  have hone : sampleBoth.runtimeOf (sampleHandle 1) = some 1 := by cbv
  refine ⟨owned, hfirst.step (step_sampleBoth owned), rfl, rfl, hzero, hone, ?_⟩
  apply not_sameObject_of_confused (Trail.still _)
  refine ⟨rfl, fun hsame => ?_⟩
  rw [hzero, hone] at hsame
  cases hsame

end Estate
end Session
end ForeignBridge
