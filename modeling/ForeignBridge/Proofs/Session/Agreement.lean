import ForeignBridge.Proofs.Chains.Agreeing
import ForeignBridge.Proofs.Session.Factoring

/-!
# Two ways to the same

What the host can ask of a handle it can also ask by a chain from the handle, and by a name that leads to
the same object.  It gets the same, and the runtime is left in the same state.
-/

namespace ForeignBridge
namespace Session
namespace World

open Simulation

variable {w entered : World} {index depth : Nat} {bridge : Bridge} {lifecycle : LifecycleId}
  {s t : Simulation} {entry other : Entry}

/-- Two requests come to the same, and leave the runtimes in the same state. -/
structure Alike (w : World) (index : Nat) (entry other : Entry) : Prop where
  result : (w.served index entry).1 = (w.served index other).1
  runtimes : (w.served index entry).2.runtimes = (w.served index other).2.runtimes

/-- Two requests write the same: they fail alike, or the second one returns a handle besides, and the
runtimes are in the same state when it is dropped. -/
def WriteAlike (w : World) (index : Nat) (h : Handle) (entry other : Entry) : Prop :=
  (∃ failure, (w.served index entry).1 = .error failure ∧ w.Alike index entry other) ∨
    (w.served index entry).1 = .ok .nothing ∧ (w.served index other).1 = .ok (.value (.foreign h)) ∧
      ∃ dropped, (dropHandle h).run.run (w.served index other).2 = (.ok (), dropped) ∧
        dropped.runtimes = (w.served index entry).2.runtimes

theorem Alike.of_eq {result : Except Failure Reply × World} (h : w.served index entry = result)
    (h' : w.served index other = result) : w.Alike index entry other := by
  constructor
  · rw [h, h']
  · rw [h, h']

namespace Facing

variable (hfacing : w.Facing index bridge lifecycle depth entered s)

include hfacing

/-- Crossings that come to the same are alike. -/
theorem alike {outcome : Except BridgeError Reply}
    (hcomes : (entered.crossing index bridge lifecycle entry).Comes
      (Simulation.answer (Simulation.run depth)) s outcome t)
    (hcomes' : (entered.crossing index bridge lifecycle other).Comes
      (Simulation.answer (Simulation.run depth)) s outcome t) : w.Alike index entry other := by
  rcases hfacing.served_of_comes hcomes with ⟨after, hserved, hcarries⟩
  rcases hfacing.served_of_comes hcomes' with ⟨after', hserved', hcarries'⟩
  constructor
  · rw [hserved, hserved']
  · rw [hserved, hserved']
    exact hcarries.hosts.trans hcarries'.hosts.symm

/-- A write by a request is one by a chain. -/
theorem writeAlike {root : Handle} (hown : root.context = index) {name : String} {v : Value}
    {outcome : Except BridgeError Reply}
    (hcomes : (entered.crossing index bridge lifecycle (.setField (.handle root) name v)).Comes
      (Simulation.answer (Simulation.run depth)) s outcome t) :
    w.WriteAlike index root (.setField (.handle root) name v) (.assign root [.field name] v) := by
  rcases hfacing.served_of_comes hcomes with ⟨after, hserved, hcarries⟩
  rcases Context.comes_assign_of_setField _ hown hcomes with
    ⟨error, rfl, hassign⟩ | ⟨rfl, t', hassign, howes, hrunning⟩
  · exact .inl ⟨.bridge error, by rw [hserved]; rfl, hfacing.alike hcomes hassign⟩
  · rcases hfacing.served_of_comes hassign with ⟨after', hserved', hcarries'⟩
    have hnext := hfacing.next hcarries'
    have hconnected : after'.Connected root.context bridge ⟨0, lifecycle, true⟩ := by
      rw [hown]
      exact hnext.connected
    rcases run_dropHandle_of_owes hconnected hnext.started hnext.hosts hrunning howes with
      ⟨dropped, hdropped, hhosts⟩
    refine .inr ⟨by rw [hserved]; rfl, by rw [hserved']; rfl, dropped, ?_, ?_⟩
    · rw [hserved']
      exact hdropped
    · rw [hserved]
      exact hhosts.trans hcarries.hosts.symm

/-- What is left of a request after its receiver was resolved is the same for a name and a handle. -/
theorem alike_named (hready : s.Ready) (hcoherent : s.Coherent) {root : Handle}
    (hlive : s.heap.isLive root.ref = true) (hown : root.context = index) {path : String}
    {resolved : Simulation}
    (hresolved : ((entered.contextOf index bridge ⟨0, lifecycle, true⟩).resolveName path).Comes
      (Simulation.answer (Simulation.run depth)) s (.ok root.ref) resolved)
    {k : Ref → Crossing Reply}
    (hentry : entered.crossing index bridge lifecycle entry =
      (entered.contextOf index bridge ⟨0, lifecycle, true⟩).resolve (.name path) >>= k)
    (hother : entered.crossing index bridge lifecycle other =
      (entered.contextOf index bridge ⟨0, lifecycle, true⟩).resolve (.handle root) >>= k)
    (hruns : ∃ outcome t, (entered.crossing index bridge lifecycle other).Comes
      (Simulation.answer (Simulation.run depth)) s outcome t) : w.Alike index entry other := by
  rcases hruns with ⟨outcome, t, hcomes⟩
  refine hfacing.alike ?_ hcomes
  rw [hother] at hcomes
  rw [hentry]
  exact Context.comes_resolve_name _ hready hcoherent hlive hown hresolved hcomes

end Facing
end World

namespace Ledger

open World Simulation

variable {l : Ledger} {rig : Rig} {index : Nat} {bridge : Bridge} {lifecycle : LifecycleId}

/-- A field of a handle is read and written by a request as by a chain, and called as by a chain if it can
be called.  A name that is resolved to the object of the handle serves as well as the handle, if no error
is pending.  Functions are in the way of calls only, if at all. -/
theorem agreeing_of_reachable (hl : Reachable l) (hruntimes : l.world.runtimes = #[.simulated rig])
    (hconnected : l.world.Connected index bridge ⟨0, lifecycle, true⟩) {root : Handle}
    (hown : root.context = index) (hroot : root.ref ∈ Value.refsAll l.values) (name : String)
    (arguments : List Value) (v : Value)
    (hhandles : ∀ other ∈ Value.handlesAll arguments ++ v.handles,
      other.context = index → other.ref ∈ Value.refsAll l.values) :
    l.world.Alike index (.getField (.handle root) name) (.read root [.field name]) ∧
    l.world.WriteAlike index root (.setField (.handle root) name v) (.assign root [.field name] v) ∧
    (∀ a, attributeOf? rig.simulation.heap root.ref name = some a →
      a.isCallable rig.simulation.heap = true →
      l.world.Unhindered rig index (.read root [.field name, .call arguments]) →
      l.world.Alike index (.invoke (.handle root) name arguments)
        (.read root [.field name, .call arguments])) ∧
    (rig.simulation.pending = none → ∀ path w,
      (cross index fun ctx => ctx.resolveName path).run.run l.world = (.ok root.ref, w) →
      l.world.Alike index (.getField (.name path) name) (.getField (.handle root) name) ∧
      l.world.Alike index (.setField (.name path) name v) (.setField (.handle root) name v) ∧
      (l.world.Unhindered rig index (.invoke (.handle root) name arguments) →
        l.world.Alike index (.invoke (.name path) name arguments)
          (.invoke (.handle root) name arguments))) := by
  rcases facing_of_reachable hl hruntimes hconnected with ⟨failure, failed, henter⟩ |
    ⟨entered, s, hfacing, hagrees, hsound⟩
  · have hfails : ∀ entry, l.world.served index entry = (.error failure, failed) := fun entry =>
      crossed_of_refused henter _
    refine ⟨.of_eq (hfails _) (hfails _), .inl ⟨failure, ?_, .of_eq (hfails _) (hfails _)⟩,
      fun _ _ _ _ => .of_eq (hfails _) (hfails _), fun _ path w hresolved => ?_⟩
    · rw [hfails]
    · rw [crossed_of_refused henter] at hresolved
      cases hresolved
  have hcontext : root.context = (entered.contextOf index bridge ⟨0, lifecycle, true⟩).id := hown
  by_cases hrunning : s.phase = .running
  · have hcoherent := coherent_of_sound hsound
    have hlive : s.heap.isLive root.ref = true := by
      rcases hsound.exists_held (Multiset.mem_add.2 (.inl hroot)) with ⟨object, hget⟩
      exact Heap.isLive_of_get? hget
    have hruns : ∀ entry : Entry, l.world.Unhindered rig index entry →
        (∀ other ∈ entry.handles, other = root ∨ other ∈ Value.handlesAll arguments ++ v.handles) →
        ∃ outcome t, (entered.crossing index bridge lifecycle entry).Comes
          (Simulation.answer (Simulation.run rig.callDepth)) s outcome t := by
      intro entry hfree hentry
      refine hfacing.exists_comes hagrees hsound hrunning hfree fun other hother hown' =>
        Multiset.mem_add.2 (.inl ?_)
      rcases hentry other hother with rfl | hgiven
      · exact hroot
      · exact hhandles other hgiven hown'
    refine ⟨?_, ?_, fun a ha hcallable hfree => ?_, fun hcalm path w hresolved => ?_⟩
    · rcases hruns (.read root [.field name]) (.inl rfl)
        (by grind [Entry.handles, Accessor.handles]) with ⟨outcome, t, hread⟩
      exact hfacing.alike (Context.comes_getField_of_read _ hcontext name hread) hread
    · rcases hruns (.setField (.handle root) name v) (.inl rfl)
        (by grind [Entry.handles, Receiver.handles]) with ⟨outcome, t, hset⟩
      exact hfacing.writeAlike hown hset
    · rcases hruns (.read root [.field name, .call arguments]) hfree
        (by grind [Entry.handles, Accessor.handles]) with ⟨outcome, t, hread⟩
      rw [← hagrees.heap] at ha hcallable
      exact hfacing.alike (Context.comes_invoke_of_read _ hcontext arguments hcoherent.closed hlive ha
        hcallable hread) hread
    · have hready : s.Ready := ⟨hrunning, hagrees.pending.trans hcalm⟩
      have hresolved' : (cross index fun ctx => ctx.resolveName path).run.run l.world =
          ((Except.ok root.ref : Except BridgeError Ref).mapError Failure.bridge, w) := hresolved
      rcases hfacing.comes_of_crossed hresolved' with ⟨t, hcomes, -⟩
      exact ⟨hfacing.alike_named hready hcoherent hlive hown hcomes rfl rfl
          (hruns _ (.inl rfl) (by grind [Entry.handles, Receiver.handles])),
        hfacing.alike_named hready hcoherent hlive hown hcomes rfl rfl
          (hruns _ (.inl rfl) (by grind [Entry.handles, Receiver.handles])),
        fun hfree => hfacing.alike_named hready hcoherent hlive hown hcomes rfl rfl
          (hruns _ hfree (by grind [Entry.handles, Receiver.handles]))⟩
  · -- Nothing is answered, and every request begins with a reference to the object.
    rcases hfacing.served_of_stopped hrunning (.retain root.ref) with ⟨panic, after, hends⟩
    have hfield := hends _ _ (Context.serve_getField _ hcontext name)
    have hread := hends _ _ (Context.serve_read _ hcontext (List.cons_ne_nil (.field name) []))
    have hset := hends _ _ (Context.serve_setField _ hcontext name v)
    have hassign := hends _ _ (Context.serve_assign_field _ hcontext name v)
    have hinvoke := hends _ _ (Context.serve_invoke _ hcontext name arguments)
    have hcall := hends _ _
      (Context.serve_read _ hcontext (List.cons_ne_nil (.field name) [.call arguments]))
    refine ⟨.of_eq hfield hread, .inl ⟨.panic panic, by rw [hset], .of_eq hset hassign⟩,
      fun _ _ _ _ => .of_eq hinvoke hcall, fun _ path w hresolved => ?_⟩
    have hresolved' : (cross index fun ctx => ctx.resolveName path).run.run l.world =
        ((Except.ok root.ref : Except BridgeError Ref).mapError Failure.bridge, w) := hresolved
    rcases hfacing.comes_of_crossed hresolved' with ⟨t, hcomes, -⟩
    exact absurd (Context.running_of_resolveName _ hcomes) hrunning

/-!
A bridge imported a module, which the name of the module leads to as well as the handle does.
-/

theorem agreeing_of_sample :
    ∃ l, Reachable l ∧
      l.world.Alike 0 (.getField (.handle ⟨0, ⟨3⟩, "m"⟩) "f") (.read ⟨0, ⟨3⟩, "m"⟩ [.field "f"]) ∧
      l.world.WriteAlike 0 ⟨0, ⟨3⟩, "m"⟩ (.setField (.handle ⟨0, ⟨3⟩, "m"⟩) "f" (.text "a"))
        (.assign ⟨0, ⟨3⟩, "m"⟩ [.field "f"] (.text "a")) ∧
      l.world.Alike 0 (.invoke (.handle ⟨0, ⟨3⟩, "m"⟩) "f" [])
        (.read ⟨0, ⟨3⟩, "m"⟩ [.field "f", .call []]) ∧
      l.world.Alike 0 (.getField (.name "m") "f") (.getField (.handle ⟨0, ⟨3⟩, "m"⟩) "f") ∧
      l.world.Alike 0 (.setField (.name "m") "f" (.text "a"))
        (.setField (.handle ⟨0, ⟨3⟩, "m"⟩) "f" (.text "a")) ∧
      l.world.Alike 0 (.invoke (.name "m") "f" []) (.invoke (.handle ⟨0, ⟨3⟩, "m"⟩) "f" []) := by
  have hfield : attributeOf? sampleBorrowed.heap ⟨3⟩ "f" = some (.object ⟨2⟩) := by cbv
  have hcallable : (Attribute.object ⟨2⟩).isCallable sampleBorrowed.heap = true := by cbv
  have hcalm : sampleBorrowed.pending = none := by cbv
  have hresolved : (cross 0 fun ctx => ctx.resolveName "m").run.run sampleImported =
      (.ok ⟨3⟩, ((cross 0 fun ctx => ctx.resolveName "m").run.run sampleImported).2) :=
    Prod.ext (by cbv) rfl
  rcases reachable_sampleImported with ⟨owned, hl⟩
  have hown : (⟨0, ⟨3⟩, "m"⟩ : Handle).context = 0 := rfl
  have hroot : (⟨0, ⟨3⟩, "m"⟩ : Handle).ref ∈ Value.refsAll [.foreign ⟨0, ⟨3⟩, "m"⟩] :=
    List.mem_singleton_self _
  have hnone : ∀ other ∈ Value.handlesAll [] ++ (Value.text "a").handles,
      other.context = 0 → other.ref ∈ Value.refsAll [.foreign ⟨0, ⟨3⟩, "m"⟩] := by
    simp [Value.handlesAll, Value.handles]
  have hfree : ∀ entry, sampleImported.Unhindered ⟨sampleBorrowed, [], 1⟩ 0 entry := fun _ =>
    .inr (.inr ⟨_, dependable_sampleBody, uses_sampleBorrowed⟩)
  rcases agreeing_of_reachable hl runtimes_sampleImported connected_sampleImported hown hroot "f" []
    (.text "a") hnone with ⟨hread, hwritten, hcalled, hnamed⟩
  rcases hnamed hcalm "m" _ hresolved with ⟨hget, hset, hinvoke⟩
  exact ⟨_, hl, hread, hwritten, hcalled _ hfield hcallable (hfree _), hget, hset, hinvoke (hfree _)⟩

end Ledger
end Session
end ForeignBridge
