import ForeignBridge.Interpreter.Answer

/-!
# Running an interpreter

What the steps of a computation come to, one after another.
-/

namespace ForeignBridge
namespace Interpreter

variable {α β : Type} {s s' : Interpreter}

/-!
# Steps
-/

theorem run_bind (m : StateM Interpreter α) (f : α → StateM Interpreter β) (s : Interpreter) :
    (m >>= f).run s = (f (m.run s).1).run (m.run s).2 := rfl

theorem run_lift_bind (m : StateM Interpreter α) (f : α → Act β) (s : Interpreter) :
    (liftM m >>= f : Act β).run.run s = (f (m.run s).1).run.run (m.run s).2 := rfl

/-- A step that changes nothing, taken for each of some things. -/
theorem run_forM {f : α → StateM Interpreter Unit} {xs : List α}
    (hf : ∀ x ∈ xs, ∀ s, (f x).run s = ((), s)) (s : Interpreter) :
    (xs.forM f).run s = ((), s) := by
  induction xs with
  | nil => rfl
  | cons x rest ih =>
      rw [List.forall_mem_cons] at hf
      show (rest.forM f).run ((f x).run s).2 = _
      rw [hf.1, ih hf.2]

/-!
# Errors
-/

section Errors

variable {act : Act α} {a : α} {d : Diagnostic}

theorem run_act_bind (hact : act.run.run s = (.ok a, s')) (f : α → Act β) :
    (act >>= f).run.run s = (f a).run.run s' := by
  rw [ExceptT.run_bind, run_bind, hact]

theorem run_act_bind_error (hact : act.run.run s = (.error d, s')) (f : α → Act β) :
    (act >>= f).run.run s = (.error d, s') := by
  rw [ExceptT.run_bind, run_bind, hact]
  rfl

theorem run_map (hact : act.run.run s = (.ok a, s')) (f : α → β) :
    (f <$> act).run.run s = (.ok (f a), s') := by
  rw [map_eq_pure_bind, run_act_bind hact]
  rfl

theorem run_map_error (hact : act.run.run s = (.error d, s')) (f : α → β) :
    (f <$> act).run.run s = (.error d, s') := by
  rw [map_eq_pure_bind, run_act_bind_error hact]

theorem run_settle {sentinel : α} (hact : act.run.run s = (.ok a, s')) :
    (settle sentinel act).run s = (a, s') := by
  unfold settle
  rw [run_bind, hact]
  rfl

/-- What is raised waits. -/
theorem run_settle_error {sentinel : α} (hact : act.run.run s = (.error d, s')) :
    (settle sentinel act).run s = (sentinel, { s' with pending := some d }) := by
  unfold settle
  rw [run_bind, hact]
  rfl

theorem run_settleDone {act : Act Unit} (hact : act.run.run s = (.ok (), s')) :
    (settleDone act).run s = (true, s') := by
  apply run_settle
  rw [seqRight_eq_bind, run_act_bind hact]
  rfl

end Errors

/-!
# Objects
-/

variable {ref : Ref} {found : Object}

theorem run_object (hget : s.heap.get? ref = some found) : (object ref).run s = (found, s) := by
  show ((s.heap.get? ref).getD default, s) = _
  rw [hget, Option.getD_some]

theorem run_content (ref : Ref) (s : Interpreter) :
    (content ref).run s = (((s.heap.get? ref).getD default).content, s) := rfl

theorem run_content_of_get? (hget : s.heap.get? ref = some found) :
    (content ref).run s = (found.content, s) := by
  rw [run_content, hget, Option.getD_some]

theorem run_mapM_content (refs : List Ref) (s : Interpreter) :
    (refs.mapM content).run s =
      (refs.map fun ref => ((s.heap.get? ref).getD default).content, s) := by
  induction refs with
  | nil => rfl
  | cons ref rest ih =>
      rw [List.mapM_cons, run_bind, run_content, run_bind, ih]
      rfl

/-!
# Errors that wait

Giving a reference back may well count something down, but it raises no error and forgets none.
-/

/-- A computation that neither raises an error nor forgets one. -/
def Calm {α : Type} (m : StateM Interpreter α) : Prop := ∀ s, (m.run s).2.pending = s.pending

namespace Calm

variable {α β : Type}

theorem pure {a : α} : Calm (Pure.pure a : StateM Interpreter α) := fun _ => rfl

theorem bind {m : StateM Interpreter α} {f : α → StateM Interpreter β} (hm : Calm m)
    (hf : ∀ a, Calm (f a)) : Calm (m >>= f) := fun s => (hf _ _).trans (hm s)

theorem forM {f : α → StateM Interpreter Unit} {xs : List α} (hf : ∀ x ∈ xs, Calm (f x)) :
    Calm (xs.forM f) := by
  induction xs with
  | nil => exact pure
  | cons x rest ih =>
      rw [List.forall_mem_cons] at hf
      exact hf.1.bind fun _ => ih hf.2

end Calm

theorem calm_make (content : Content) : Calm (make content) := by
  unfold make
  split
  · exact fun _ => rfl
  · exact fun _ => rfl

theorem calm_object (ref : Ref) : Calm (object ref) := fun _ => rfl

theorem calm_content (ref : Ref) : Calm (content ref) := fun _ => rfl

theorem calm_countDown (module : Ref) (name : String) : Calm (countDown module name) := by
  unfold countDown
  refine (calm_object module).bind fun object => ?_
  split
  · exact Calm.pure
  · split
    · exact Calm.pure
    · refine (calm_content _).bind fun found => ?_
      split
      all_goals
        refine Calm.pure.bind fun less => ?_
        cases less with
        | none => exact Calm.pure
        | some _ => exact (calm_make _).bind fun ref _ => rfl

theorem calm_release (ref : Ref) : Calm (release ref) := by
  intro s
  refine Calm.forM (fun object _ => ?_) { s with heap := (s.heap.release ref).heap }
  split
  · exact calm_countDown _ _
  · exact Calm.pure

end Interpreter
end ForeignBridge
