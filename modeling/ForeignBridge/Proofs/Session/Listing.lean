import ForeignBridge.Proofs.Names.Listing
import ForeignBridge.Proofs.Session.Positions

/-!
# Members

The members of a handle are a set of names, shown in ascending order.  After any run, and however the
handle was come by, they are the public names under which the runtime reads an attribute of its object,
own ones and those of a class alike.  To set a field adds its name to the members if it is new and public,
and changes them in no other way.
-/

namespace ForeignBridge

open Simulation

namespace Session

namespace World

variable {w entered after : World} {index depth : Nat} {bridge : Bridge} {lifecycle : LifecycleId}
  {s : Simulation} {h : Handle}

/-- A handle is asked for its members. -/
def listed (w : World) (h : Handle) : Except Failure (List String) × World :=
  (cross h.context fun ctx => ctx.memberNames h).run.run w

/-- The members after a field was set. -/
def withMember (names : List String) (name : String) : List String :=
  if IsPublic name ∧ name ∉ names then names.orderedInsert (· ≤ ·) name else names

namespace Facing

variable (hfacing : w.Facing h.context bridge lifecycle depth entered s) (hclosed : Closed s.heap)
  (hlive : s.heap.isLive h.ref = true)

include hfacing hclosed hlive

theorem listed_of_ready (hready : s.Ready) :
    ∃ after, w.listed h = (.ok (Context.publicNames (namesOf s.heap h.ref)), after) := by
  have hcomes : ((entered.contextOf h.context bridge ⟨0, lifecycle, true⟩).memberNames h).Comes
      (Simulation.answer (run depth)) s _ s := Context.comes_memberNames _ hready hclosed hlive
  rcases hfacing.crossed_of_comes (f := fun ctx => ctx.memberNames h) hcomes with ⟨after, hlisted, -⟩
  exact ⟨after, hlisted⟩

/-- Members that are shown are the public names of attributes, and no error is pending. -/
theorem of_listed {names : List String} (hlisted : w.listed h = (.ok names, after)) :
    s.Ready ∧ names = Context.publicNames (namesOf s.heap h.ref) := by
  have hcrossed : (cross h.context fun ctx => ctx.memberNames h).run.run w =
      ((Except.ok names : Except BridgeError (List String)).mapError Failure.bridge, after) := hlisted
  rcases hfacing.comes_of_crossed hcrossed with ⟨t, hcomes, -⟩
  have hready := Context.ready_of_memberNames _ hclosed hlive hcomes
  refine ⟨hready, ?_⟩
  rcases hfacing.listed_of_ready hclosed hlive hready with ⟨after', hlisted'⟩
  rw [hlisted] at hlisted'
  exact Except.ok.inj (congrArg Prod.fst hlisted')

omit hlive in
/-- The members after a field was set are those before, and the name of the field. -/
theorem listed_of_set {base : Multiset Ref} (hs : s.Sound base) (hready : s.Ready)
    (hheld : h.ref ∈ base) {name : String} {v : Value} {reply : Reply}
    (hserved : w.served h.context (.setField (.handle h) name v) = (.ok reply, after)) :
    ∃ after', after.listed h =
      (.ok (withMember (Context.publicNames (namesOf s.heap h.ref)) name), after') := by
  have hserved' : w.served h.context (.setField (.handle h) name v) =
      ((Except.ok reply : Except BridgeError Reply).mapError Failure.bridge, after) := hserved
  rcases hfacing.comes_of_served hserved' with ⟨t, hcomes, hcarries⟩
  rcases Context.wrote_setField _ hs hready rfl hcomes with ⟨value, hwrote⟩
  have ht : t.Sound base := by
    have hsound := hwrote.sound
    rwa [zero_add] at hsound
  have hclosed' := closed_of_balanced ht.balanced
  have hlive' : t.heap.isLive h.ref = true := by
    rcases ht.exists_held hheld with ⟨object, hget⟩
    exact Heap.isLive_of_get? hget
  rcases (hfacing.next hcarries).listed_of_ready hclosed' hlive' hwrote.ready with ⟨after', hlisted⟩
  refine ⟨after', hlisted.trans ?_⟩
  have hbefore := Context.ascending_publicNames (namesOf s.heap h.ref)
  have hafter := Context.ascending_publicNames (namesOf t.heap h.ref)
  have hmem : ∀ other, other ∈ namesOf t.heap h.ref ↔ other = name ∨ other ∈ namesOf s.heap h.ref :=
    fun _ => hwrote.rewritten.mem_namesOf hclosed hclosed' hlive'
  suffices hnames : Context.publicNames (namesOf t.heap h.ref) =
      withMember (Context.publicNames (namesOf s.heap h.ref)) name by rw [hnames]
  unfold withMember
  split
  · rename_i hnew
    refine hafter.eq_of_mem_iff (hbefore.orderedInsert hnew.2) fun other => ?_
    rw [List.mem_orderedInsert, Context.mem_publicNames, Context.mem_publicNames, hmem]
    constructor
    · rintro ⟨hpublic, heq | hold⟩
      · exact .inl heq
      · exact .inr ⟨hpublic, hold⟩
    · rintro (rfl | hold)
      · exact ⟨hnew.1, .inl rfl⟩
      · exact ⟨hold.1, .inr hold.2⟩
  · rename_i hold
    refine hafter.eq_of_mem_iff hbefore fun other => ?_
    rw [Context.mem_publicNames, Context.mem_publicNames, hmem]
    constructor
    · rintro ⟨hpublic, rfl | hother⟩
      · by_contra habsent
        exact hold ⟨hpublic, fun hin => habsent (Context.mem_publicNames.1 hin)⟩
      · exact ⟨hpublic, hother⟩
    · exact fun hother => ⟨hother.1, .inr hother.2⟩

end Facing
end World

namespace Ledger

open World

variable {index depth : Nat} {bridge : Bridge} {lifecycle : LifecycleId} {entered : World}
  {s : Simulation}

/-- After any run, a handle shows its members if the runtime runs and no error is pending.  They are in
strictly ascending order of bytes, and are the public names under which the runtime reads an attribute of
the object.  When a field of the handle was set, the members are those before with its name in its place,
if it is public and was not there, and else those before. -/
theorem members_of_reachable {l : Ledger} (hl : Reachable l) {h : Handle}
    (hfacing : l.world.Facing h.context bridge lifecycle depth entered s)
    (hheld : h.ref ∈ Value.refsAll l.values) :
    (s.Ready → ∃ names after, l.world.listed h = (.ok names, after)) ∧
    ∀ names after, l.world.listed h = (.ok names, after) →
      names.Pairwise (fun name other => Utf8.encode name < Utf8.encode other) ∧
      (∀ name, name ∈ names ↔ name.toList.head? ≠ some '_' ∧ ∃ found s',
        (Simulation.answer (run depth) (.getAttr h.ref name)).outcome s = (.ok (some found), s')) ∧
      ∀ name v after', l.world.served h.context (.setField (.handle h) name v) = (.ok .nothing, after') →
        ∃ after'', after'.listed h = (.ok (if name.toList.head? ≠ some '_' ∧ name ∉ names
          then names.orderedInsert (· ≤ ·) name else names), after'') := by
  have hs := sound_of_facing hl hfacing
  have hheld' : h.ref ∈ (Value.refsAll l.values : Multiset Ref) + l.owned :=
    Multiset.mem_add.2 (.inl hheld)
  have hclosed := closed_of_balanced hs.balanced
  have hlive : s.heap.isLive h.ref = true := by
    rcases hs.exists_held hheld' with ⟨object, hget⟩
    exact Heap.isLive_of_get? hget
  refine ⟨fun hready => ⟨_, hfacing.listed_of_ready hclosed hlive hready⟩, ?_⟩
  intro names after hlisted
  rcases hfacing.of_listed hclosed hlive hlisted with ⟨hready, rfl⟩
  refine ⟨Context.ascending_publicNames _, fun name => ?_, fun name v after' hset => ?_⟩
  · rw [Context.mem_publicNames, mem_namesOf_iff_readsAttr hready.running hclosed hlive]
    exact Iff.rfl
  · exact hfacing.listed_of_set hclosed hs hready hheld' hset

/-- The members of the module with a list are its name, and after another field was set both names. -/
theorem members_of_sample :
    ∃ l, Reachable l ∧ ∃ after after' after'',
      l.world.listed ⟨0, ⟨5⟩, "m"⟩ = (.ok ["items"], after) ∧
      l.world.served 0 (.setField (.handle ⟨0, ⟨5⟩, "m"⟩) "first" (.text "a")) =
        (.ok .nothing, after') ∧
      after'.listed ⟨0, ⟨5⟩, "m"⟩ = (.ok ["first", "items"], after'') := by
  have hready : sampleTaken.Ready := ⟨by cbv, by cbv⟩
  rcases reachable_sampleShelved with ⟨owned, hl⟩
  have hheld : (⟨0, ⟨5⟩, "m"⟩ : Handle).ref ∈ Value.refsAll [.foreign ⟨0, ⟨5⟩, "m"⟩] :=
    List.mem_singleton_self _
  have hfacing : sampleShelved.Facing (⟨0, ⟨5⟩, "m"⟩ : Handle).context
      ⟨some ⟨0, .process, true⟩, {}⟩ .process 1 sampleShelved sampleTaken := facing_sampleShelved
  rcases members_of_reachable hl hfacing hheld with ⟨hlists, hagrees⟩
  rcases hlists hready with ⟨names, after, hlisted⟩
  have hnames : (sampleShelved.listed ⟨0, ⟨5⟩, "m"⟩).1 = .ok ["items"] := by cbv
  rw [hlisted] at hnames
  cases hnames
  have hset : (sampleShelved.served 0
      (.setField (.handle ⟨0, ⟨5⟩, "m"⟩) "first" (.text "a"))).1 = .ok .nothing := by cbv
  rcases (hagrees _ _ hlisted).2.2 "first" (.text "a") _ (Prod.ext hset rfl) with ⟨after'', hlisted'⟩
  refine ⟨_, hl, after, _, after'', hlisted, Prod.ext hset rfl, hlisted'.trans ?_⟩
  rfl

end Ledger
end Session
end ForeignBridge
