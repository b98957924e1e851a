import ForeignBridge.Proofs.Chains.Places
import ForeignBridge.Proofs.Crossing.Custodian
import ForeignBridge.Proofs.Reading.Settled
import ForeignBridge.Proofs.Session.Isolation
import ForeignBridge.Proofs.Session.Supervision
import ForeignBridge.Proofs.Simulation.Safety

/-!
# Safety of supervised runs

Until its lifecycle is finished, nothing that the host can do with its bridges and values panics: each
request ends with a reply or with an error that the bridge reports.  The host may pass whatever it has,
and functions may do whatever they are owed, if they return themselves.

Memory is taken to be as large as what is made in it, so numbers of objects and of their owners have no
bound, and a matrix may have any number of rows.
-/

namespace ForeignBridge
namespace Session
namespace World

open Attempt Simulation

variable {α : Type} {w : World} {s : Simulation} {depth : Nat}
  {library : (Nat → List Ref → Script) → Prop} {held lent : Multiset Ref}

/-!
# Answers
-/

/-- The runtime of a world works. -/
def Runs (w : World) (depth : Nat) (library : (Nat → List Ref → Script) → Prop)
    (held : Multiset Ref) : Prop :=
  ∃ s, w.Hosts depth s ∧ s.Works library held

/-- A bridge whose runtime works is answered. -/
theorem exists_answer {connection : Connection} (hruntime : connection.runtime = 0) (r : Request)
    (hcalls : r.calls = true → Dependable depth library) (hhosts : w.Hosts depth s)
    (hw : s.Works library ((r.returned.toList : List Ref) + held))
    (hmentions : ∀ ref ∈ r.mentions, ref ∈ ((r.returned.toList : List Ref) : Multiset Ref) + held) :
    ∃ given w' s', (answer connection r).outcome w = (.ok given, w') ∧ w.SameGates w' ∧
      w'.Hosts depth s' ∧ s'.Works library ((r.acquired given : List Ref) + held) ∧
      ∀ plain : Ref → Prop, (∀ ref, plain ref → NoSequence ref s) →
        ¬ r.contradicts plain given ∧ ∀ ref, plain ref ∨ r.tells given ref → NoSequence ref s' := by
  by_cases huntyped : connection.typed = false ∧ ∃ object, r = .numericKind object
  · rcases huntyped with ⟨huntyped, object, hr⟩
    cases hr
    have hanswer : (answer connection (.numericKind object)).outcome w = (.ok none, w) := by
      show (if connection.typed then _ else return none : Attempt World _).outcome w = _
      rw [if_neg (by rw [huntyped]; exact nofun)]
      rfl
    refine ⟨none, w, s, hanswer, SameGates.refl w, hhosts, hw, fun plain hplain => ⟨nofun, ?_⟩⟩
    rintro ref (hknown | htold)
    · exact hplain ref hknown
    · exact htold.elim
  · rcases exists_of_delivers (delivers_serve r hcalls hw hmentions) with
      ⟨given, s', hserve, hw'⟩
    have hanswer := (outcome_answer_of_running hw.running r).trans hserve
    have hasked : answer connection r = inRuntime 0 (Runtime.answer r) := by
      rw [← hruntime]
      cases r with
      | numericKind object =>
          have htyped : connection.typed = true := by
            rw [← Bool.not_eq_false]
            exact fun hfalse => huntyped ⟨hfalse, object, rfl⟩
          show (if connection.typed then _ else return none : Attempt World _) = _
          rw [if_pos htyped]
      | _ => rfl
    refine ⟨given, { w with runtimes := #[.simulated ⟨s', [], depth⟩] }, s', ?_, ⟨rfl, rfl⟩, rfl,
      hw', fun plain hplain => ?_⟩
    · rw [hasked]
      exact outcome_inRuntime_of_hosts hhosts hanswer
    · rcases firm_of_outcome hserve hplain with ⟨hfirm, htells⟩
      refine ⟨hfirm, fun ref href => ?_⟩
      have hlasting := lasting_noSequence ref
      have hbefore : NoSequence ref s := href.elim (hplain ref) (htells ref)
      have hkept := (Simulation.upholds_answer hlasting (upholds_run hlasting depth) r).returns hbefore
      have hafter := returns_of_outcome hkept hanswer
      exact hafter

/-!
# Crossings
-/

/-- The runtime of a world works, a crossing holds some references beside those that are lent to it, and
what it was told about kinds is true. -/
def Attends (depth : Nat) (library : (Nat → List Ref → Script) → Prop) (lent : Multiset Ref)
    (g : Holding) (w : World) : Prop :=
  ∃ s, w.Hosts depth s ∧ s.Works library (g.held + lent) ∧ ∀ ref, g.plain ref → NoSequence ref s

theorem keptBy_attends {connection : Connection} (hruntime : connection.runtime = 0) :
    ((custody true (· ∈ lent)).restrict fun r => r.calls = true → Dependable depth library).KeptBy
      (answer connection) (Attends depth library lent) fun _ => True := by
  constructor
  · rintro g w r ⟨s, hhosts, hw, hplain⟩ ⟨⟨hreturned, hmentions⟩, hcalls⟩
    have htaken : (r.returned.toList : Multiset Ref) ≤ g.held := by
      cases hr : r.returned with
      | none => exact Multiset.zero_le _
      | some ref => exact Multiset.singleton_le.2 (hreturned ref hr)
    have hsplit := add_tsub_cancel_of_le htaken
    have hheld : g.held + lent =
        (r.returned.toList : Multiset Ref) + (g.held - r.returned.toList + lent) := by
      rw [← add_assoc, hsplit]
    rw [hheld] at hw
    have hknown : ∀ ref ∈ r.mentions,
        ref ∈ (r.returned.toList : Multiset Ref) + (g.held - r.returned.toList + lent) := by
      intro ref href
      rw [← hheld]
      exact Multiset.mem_add.2 (hmentions ref href)
    rcases exists_answer hruntime r hcalls hhosts hw hknown with
      ⟨given, w', s', hanswer, -, hhosts', hw', hfirm⟩
    rw [hanswer]
    refine ⟨⟨r.acquired given + (g.held - r.returned.toList),
      fun ref => g.plain ref ∨ r.tells given ref⟩, ⟨?_, rfl, ?_⟩, s', hhosts', ?_, ?_⟩
    · show (r.returned.toList : Multiset Ref) + (r.acquired given + (g.held - r.returned.toList)) = _
      rw [add_left_comm, hsplit]
    · exact fun _ => (hfirm g.plain hplain).1
    · rw [← add_assoc] at hw'
      exact hw'
    · exact (hfirm g.plain hplain).2
  · exact fun _ _ _ => trivial
  · exact fun _ _ _ => trivial

/-- A crossing that mentions only what it holds or is lent ends with a result or an error, if it calls
nothing or all functions return. -/
theorem exists_crossing {connection : Connection} (hruntime : connection.runtime = 0)
    {crossing : Crossing α} {after : α → Multiset Ref}
    (hcustody : Crossing.Custody true (· ∈ lent) ⟨(· ∈ lent), fun _ => False⟩ 0 crossing after)
    (hasks : crossing.Asks fun r => r.calls = true → Dependable depth library)
    (hw : w.Runs depth library lent) :
    ∃ result w', (Program.run (answer connection) record crossing.run).outcome w =
      (.ok result, w') := by
  rcases hw with ⟨s, hhosts, hworks⟩
  have hattends : Attends depth library lent ⟨0, fun _ => False⟩ w :=
    ⟨s, hhosts, hworks.of_eq (zero_add lent).symm, nofun⟩
  have hfollows := hcustody 0 (fun _ => False) (fun _ h => .inr h) fun _ h => h
  rw [zero_add] at hfollows
  have hrecord : ∀ event g w, Attends depth library lent g w →
      Attends depth library lent g ((record event).run w).2 := fun _ _ _ hw => hw
  have hend := Program.run_follows (keptBy_attends hruntime) hrecord (hfollows.restrict hasks) hattends
  rcases houtcome : (Program.run (answer connection) record crossing.run).outcome w with
    ⟨outcome, w'⟩
  rw [houtcome] at hend
  cases outcome with
  | ok result => exact ⟨result, w', rfl⟩
  | error panic => exact absurd hend.1 nofun

/-- An act ends with a result, or with an error that a bridge reports. -/
def Settles (act : Act α) (w : World) : Prop :=
  Meets act w (fun _ _ => True) fun failure _ => ∃ error, failure = .bridge error

theorem settles_of_ok {act : Act α} {a : α} {w' : World} (h : act.run.run w = (.ok a, w')) :
    Settles act w := by
  unfold Settles Meets
  rw [h]
  trivial

theorem settles_of_error {act : Act α} {error : BridgeError} {w' : World}
    (h : act.run.run w = (.error (.bridge error), w')) : Settles act w := by
  unfold Settles Meets
  rw [h]
  exact ⟨error, rfl⟩

theorem settles_crossEntered {index : Nat} {bridge : Bridge} {connection : Connection}
    (hconnected : w.Connected index bridge connection) (hruntime : connection.runtime = 0)
    (hlibrary : Dependable depth library) {crossing : Context → Crossing α}
    {after : α → Multiset Ref}
    (hcustody : ∀ ctx, ctx.id = index → Crossing.Custody true (· ∈ lent)
      ⟨(· ∈ lent), fun _ => False⟩ 0 (crossing ctx) after)
    (hw : w.Runs depth library lent) : Settles (crossEntered index crossing connection) w := by
  rcases exists_crossing hruntime (hcustody (w.contextOf index bridge connection) rfl)
    (Crossing.asks_of_forall (fun _ _ => hlibrary) _) hw with ⟨result, w', houtcome⟩
  have hrun : (crossEntered index crossing connection).run.run w = _ :=
    run_crossEntered hconnected.1 crossing
  rw [houtcome] at hrun
  cases result with
  | ok a => exact settles_of_ok hrun
  | error error => exact settles_of_error hrun

/-!
# The gates
-/

/-- All bridges share a lifecycle that is not finished, and the runtime is sound, in the phase of the
lifecycle, and has only functions of a library. -/
structure Prepared (w : World) (lifecycle : LifecycleId) (depth : Nat)
    (library : (Nat → List Ref → Script) → Prop) (held : Multiset Ref) (s : Simulation) : Prop where
  shared : ∀ index bridge connection, w.Connected index bridge connection →
    connection.runtime = 0 ∧ connection.lifecycle = lifecycle
  opens : w.phaseOf lifecycle ≠ .finished
  hosts : w.Hosts depth s
  matched : s.phase = (w.phaseOf lifecycle).ofRuntime
  sound : s.Sound held
  uses : s.Uses library

variable {lifecycle : LifecycleId} {index : Nat}

theorem Prepared.runs (hw : w.Prepared lifecycle depth library held s)
    (hstarted : w.phaseOf lifecycle = .started) : w.Runs depth library held := by
  refine ⟨s, hw.hosts, hw.sound, ?_, hw.uses⟩
  rw [hw.matched, hstarted]
  rfl

/-- A bridge that is entered has a runtime that works, or reports that it does not start. -/
theorem exists_enter (hw : w.Prepared lifecycle depth library held s) {bridge : Bridge}
    {connection : Connection} (hconnected : w.Connected index bridge connection) :
    (∃ w', (enter index).run.run w = (.ok connection, w') ∧ w'.Connected index bridge connection ∧
      w'.Runs depth library held) ∨
      ∃ error w', (enter index).run.run w = (.error (.bridge error), w') := by
  rcases hw.shared _ _ _ hconnected with ⟨hruntime, hlifecycle⟩
  have henter := run_enter hconnected
  rw [hruntime, hlifecycle] at henter
  cases hphase : w.phaseOf lifecycle with
  | finished => exact absurd hphase hw.opens
  | started =>
      rw [run_ensure_of_started hphase] at henter
      exact .inl ⟨w, henter, hconnected, hw.runs hphase⟩
  | idle =>
      have hfresh : s.phase = .fresh := by
        rw [hw.matched, hphase]
        rfl
      cases hrefuses : s.refusesStart with
      | true =>
          rw [run_ensure_of_refused hphase hw.hosts hfresh hrefuses] at henter
          exact .inr ⟨_, _, henter⟩
      | false =>
          rcases run_ensure_of_idle hphase hw.hosts hfresh hrefuses bridge.settings.searchPaths with
            ⟨w', hensure, hruntimes, hbridges, -⟩
          rw [hensure] at henter
          refine .inl ⟨w', henter, ?_, s.started bridge.settings.searchPaths, hruntimes, ?_⟩
          · unfold Connected
            rw [hbridges]
            exact hconnected
          · exact ⟨⟨hw.sound.balanced, hw.sound.proper⟩, rfl, hw.uses⟩

/-- A bridge without a runtime reports that. -/
theorem run_enter_of_absent {bridge : Bridge} (hbridge : w.bridges[index]? = some bridge)
    (habsent : bridge.connection = none) : ∃ error, (enter index).run.run w =
      (.error (.bridge error), w) := by
  unfold enter
  rw [run_bind, run_bridge hbridge]
  dsimp only
  rw [habsent]
  exact ⟨_, rfl⟩

/-- What a bridge does after it was entered decides how it ends. -/
theorem settles_enter_bind (hw : w.Prepared lifecycle depth library held s)
    (hindex : index < w.bridges.size) {rest : Connection → Act α}
    (hrest : ∀ w' bridge connection, connection.runtime = 0 → w'.Connected index bridge connection →
      w'.Runs depth library held → Settles (rest connection) w') :
    Settles (enter index >>= rest) w := by
  have hbridge : w.bridges[index]? = some w.bridges[index] := Array.getElem?_eq_getElem hindex
  unfold Settles
  rw [meets_bind]
  unfold Meets
  cases hconnection : w.bridges[index].connection with
  | none =>
      rcases run_enter_of_absent hbridge hconnection with ⟨error, henter⟩
      rw [henter]
      exact ⟨error, rfl⟩
  | some connection =>
      rcases exists_enter hw ⟨hbridge, hconnection⟩ with
        ⟨w', henter, hconnected, hruns⟩ | ⟨error, w', henter⟩
      · rw [henter]
        exact hrest w' _ connection (hw.shared _ _ _ ⟨hbridge, hconnection⟩).1 hconnected hruns
      · rw [henter]
        exact ⟨error, rfl⟩

theorem settles_leave (hw : w.Prepared lifecycle depth library held s)
    (hindex : index < w.bridges.size) : Settles (leave index) w := by
  have hbridge : w.bridges[index]? = some w.bridges[index] := Array.getElem?_eq_getElem hindex
  cases hconnection : w.bridges[index].connection with
  | none =>
      have hleave : (leave index).run.run w = (.ok (), w) := by
        unfold leave
        rw [run_bind, run_bridge hbridge]
        dsimp only
        rw [hconnection]
        rfl
      exact settles_of_ok hleave
  | some connection =>
      have hconnected : w.Connected index w.bridges[index] connection := ⟨hbridge, hconnection⟩
      rcases hw.shared _ _ _ hconnected with ⟨hruntime, hlifecycle⟩
      have hleave := run_leave hconnected
      rw [hruntime, hlifecycle] at hleave
      by_cases hstarted : w.phaseOf lifecycle = .started
      · have hrunning : s.phase = .running := by
          rw [hw.matched, hstarted]
          rfl
        rcases run_shutdown_of_started hstarted hw.hosts hrunning with ⟨w', hshutdown, -⟩
        exact settles_of_ok (hleave.trans hshutdown)
      · exact settles_of_ok (hleave.trans (run_shutdown_of_not_started hstarted 0))

/-!
# Host values
-/

theorem Connected.of_sameGates {w' : World} {bridge : Bridge} {connection : Connection}
    (hgates : w.SameGates w') (h : w.Connected index bridge connection) :
    w'.Connected index bridge connection := by
  unfold Connected
  rw [hgates.1]
  exact h

/-- The handles are of bridges over the runtime, whose lifecycle is started. -/
def Usable (w : World) (handles : List Handle) : Prop :=
  ∀ h ∈ handles, ∃ bridge connection, w.Connected h.context bridge connection ∧
    connection.runtime = 0 ∧ w.phaseOf connection.lifecycle = .started

theorem Usable.of_sameGates {w' : World} {handles : List Handle} (hgates : w.SameGates w')
    (h : w.Usable handles) : w'.Usable handles := by
  intro handle hhandle
  rcases h handle hhandle with ⟨bridge, connection, hconnected, hruntime, hstarted⟩
  refine ⟨bridge, connection, hconnected.of_sameGates hgates, hruntime, ?_⟩
  rw [hgates.phaseOf]
  exact hstarted

theorem run_cloneHandle_of_usable {h : Handle} (husable : w.Usable [h]) (hheld : h.ref ∈ held)
    (hw : w.Runs depth library held) :
    ∃ w', (cloneHandle h).run.run w = (.ok (), w') ∧ w.SameGates w' ∧
      w'.Runs depth library ({h.ref} + held) := by
  rcases husable h List.mem_cons_self with ⟨bridge, connection, hconnected, hruntime, hstarted⟩
  rcases hw with ⟨s, hhosts, hworks⟩
  have hmentions : ∀ ref ∈ (Request.retain h.ref).mentions, ref ∈ ((([] : List Ref)) : Multiset Ref) + held := by
    intro ref href
    rw [List.mem_singleton.1 href]
    exact Multiset.mem_add.2 (.inr hheld)
  rcases exists_answer hruntime (.retain h.ref) nofun hhosts
    (hworks.of_eq (zero_add held).symm) hmentions with ⟨given, w', s', hanswer, hgates, hhosts', hw', -⟩
  refine ⟨w', ?_, hgates, s', hhosts', hw'⟩
  unfold cloneHandle
  rw [run_bind, run_connectionOf hconnected]
  dsimp only
  rw [run_get_bind]
  rw [if_neg (by rw [hstarted]; exact nofun), run_ofAttempt, hanswer]

theorem run_cloneHandles_of_usable {handles : List Handle} (husable : w.Usable handles)
    (hheld : ∀ h ∈ handles, h.ref ∈ held) (hw : w.Runs depth library held) :
    ∃ w', (cloneHandles handles).run.run w = (.ok (), w') := by
  induction handles generalizing w held with
  | nil => exact ⟨w, rfl⟩
  | cons h rest ih =>
      rcases run_cloneHandle_of_usable
        (fun other hother => husable other (List.mem_singleton.1 hother ▸ List.mem_cons_self))
        (hheld h List.mem_cons_self) hw with ⟨w', hclone, hgates, hw'⟩
      have hrest : w'.Usable rest := Usable.of_sameGates hgates
        fun other hother => husable other (List.mem_cons_of_mem h hother)
      have hothers : ∀ other ∈ rest, other.ref ∈ {h.ref} + held := fun other hother =>
        Multiset.mem_add.2 (.inr (hheld other (List.mem_cons_of_mem h hother)))
      rcases ih hrest hothers hw' with ⟨w'', hclones⟩
      refine ⟨w'', ?_⟩
      unfold cloneHandles
      rw [run_bind, hclone]
      dsimp only
      rw [run_guarding, hclones]

theorem run_dropHandle_of_usable {h : Handle} (husable : w.Usable [h])
    (hw : w.Runs depth library ({h.ref} + held)) :
    ∃ w', (dropHandle h).run.run w = (.ok (), w') ∧ w.SameGates w' ∧
      w'.Runs depth library held := by
  rcases husable h List.mem_cons_self with ⟨bridge, connection, hconnected, hruntime, hstarted⟩
  rcases hw with ⟨s, hhosts, hworks⟩
  have hmentions : ∀ ref ∈ (Request.release h.ref).mentions,
      ref ∈ ((([h.ref] : List Ref)) : Multiset Ref) + held :=
    fun ref href => Multiset.mem_add.2 (.inl href)
  rcases exists_answer hruntime (.release h.ref) nofun hhosts hworks hmentions with
    ⟨given, w', s', hanswer, hgates, hhosts', hw', -⟩
  refine ⟨w', ?_, hgates, s', hhosts', hw'.of_eq (zero_add held)⟩
  unfold dropHandle
  rw [run_bind, run_connectionOf hconnected]
  dsimp only
  rw [run_get_bind]
  rw [if_neg (by rw [hstarted]; exact nofun), run_ofAttempt, hanswer]

theorem run_dropHandles_of_usable {handles : List Handle} (husable : w.Usable handles)
    (hw : w.Runs depth library ((handles.map Handle.ref : List Ref) + held)) :
    ∃ w', (dropHandles handles).run.run w = (.ok (), w') := by
  induction handles generalizing w with
  | nil => exact ⟨w, rfl⟩
  | cons h rest ih =>
      have hsplit : (((h :: rest).map Handle.ref : List Ref) : Multiset Ref) + held =
          {h.ref} + ((rest.map Handle.ref : List Ref) + held) := by
        rw [← add_assoc]
        rfl
      rw [hsplit] at hw
      rcases run_dropHandle_of_usable
        (fun other hother => husable other (List.mem_singleton.1 hother ▸ List.mem_cons_self))
        hw with ⟨w', hdrop, hgates, hw'⟩
      have hrest : w'.Usable rest := Usable.of_sameGates hgates
        fun other hother => husable other (List.mem_cons_of_mem h hother)
      rcases ih hrest hw' with ⟨w'', hdrops⟩
      refine ⟨w'', ?_⟩
      rw [run_dropHandles_cons, hdrop, hdrops]
      rfl

end World

namespace Ledger

open World Simulation

/-!
# Supervised runs
-/

/-- Whatever the host does with its bridges and values ends without a panic.  Of the handles of a bridge
it can pass on only such as it has. -/
structure Safe (l : Ledger) : Prop where
  serves : ∀ index, index < l.world.bridges.size → ∀ entry : Entry,
    (∀ h ∈ entry.handles, h.context = index → h.ref ∈ Value.refsAll l.values) →
    Settles (cross index fun ctx => ctx.serve entry) l.world
  asks : ∀ h ∈ Value.handlesAll l.values,
    Settles (cross h.context fun ctx => ctx.memberNames h) l.world
  enters : ∀ index, index < l.world.bridges.size → Settles (enter index) l.world
  leaves : ∀ index, index < l.world.bridges.size → Settles (leave index) l.world
  clones : ∀ v : Value, (∀ h ∈ v.handles, h ∈ Value.handlesAll l.values) →
    ∃ w, (cloneHandles v.handles).run.run l.world = (.ok (), w)
  drops : ∀ v : Value, (v.handles : Multiset Handle) ≤ Value.handlesAll l.values →
    ∃ w, (dropValue v).run.run l.world = (.ok (), w)

/-- Whatever is taken out of a list or a range of integers is in it. -/
structure WithinBounds : Prop where
  /-- The rows of a matrix are all among its elements. -/
  rows : ∀ (m : Matrix) (rows columns : Nat), m.shape? = some (rows, columns) →
    (∀ row < rows, (row + 1) * columns ≤ m.elements.length) ∧
      ∀ row ∈ Matrix.rowsOf columns rows m.elements, row.length = columns
  /-- A position that is counted from one is an integer of 64 bits when it is counted from zero. -/
  positions : ∀ (arguments : List Value) (position : Int),
    Context.positionOf arguments = .ok position →
      0 ≤ position ∧ ∃ key, HostInt.ofInt .int64 position = .ok key ∧ key.value = position
  /-- An index from the end is computed in 128 bits, and one that is resolved is that of an item. -/
  items : ∀ (index : Int) (count : Nat), -(2 ^ 127) ≤ index → index < 2 ^ 127 → count < 2 ^ 64 →
    (index < 0 → -(2 ^ 127) ≤ index + count ∧ index + count < 2 ^ 127) ∧
      ∀ position, resolveIndex index count = some position → position < count

theorem rows_within (m : Matrix) (rows columns : Nat) (h : m.shape? = some (rows, columns)) :
    (∀ row < rows, (row + 1) * columns ≤ m.elements.length) ∧
      ∀ row ∈ Matrix.rowsOf columns rows m.elements, row.length = columns := by
  have hlength := Matrix.length_of_shape? h
  refine ⟨fun row hrow => ?_, (Matrix.rowsOf_full hlength).1⟩
  rw [hlength]
  exact Nat.mul_le_mul_right columns hrow

theorem items_within (index : Int) (count : Nat) (hleast : -(2 ^ 127) ≤ index)
    (_ : index < 2 ^ 127) (hcount : count < 2 ^ 64) :
    (index < 0 → -(2 ^ 127) ≤ index + count ∧ index + count < 2 ^ 127) ∧
      ∀ position, resolveIndex index count = some position → position < count := by
  refine ⟨fun hnegative => ?_, fun position h => resolveIndex_lt h⟩
  omega

theorem withinBounds : WithinBounds := ⟨rows_within, Context.position_within, items_within⟩

variable {lifecycle : LifecycleId} {l : Ledger} {rig : Rig}
  {library : (Nat → List Ref → Script) → Prop}

/-- A supervised run is prepared for what comes next, until its lifecycle is finished. -/
theorem prepared_of_supervised (hl : Supervised lifecycle l)
    (hopen : l.world.phaseOf lifecycle ≠ .finished) (hruntimes : l.world.runtimes = #[.simulated rig])
    (huses : rig.simulation.Uses library) :
    l.world.Prepared lifecycle rig.callDepth library
      ((Value.refsAll l.values : Multiset Ref) + l.owned) rig.simulation := by
  rcases kept_of_supervised hl with ⟨rig', hruntimes', hfaults, hs⟩
  rcases sane_of_supervised hl with ⟨rig'', hsane⟩
  have hsame : rig' = rig := by
    have hboth := hruntimes'.symm.trans hruntimes
    cases hboth
    rfl
  have hsame' : rig'' = rig := by
    have hboth := hsane.runtimes.symm.trans hruntimes
    cases hboth
    rfl
  rw [hsame] at hfaults hs
  rw [hsame'] at hsane
  refine ⟨hsane.shared, hopen, ?_, hsane.matched, hs, huses⟩
  unfold Hosts
  rw [hruntimes, ← hfaults]

/-- The handles that the host has can be used. -/
theorem usable_of_supervised (hl : Supervised lifecycle l)
    (hopen : l.world.phaseOf lifecycle ≠ .finished) {handles : List Handle}
    (hhandles : ∀ h ∈ handles, h ∈ Value.handlesAll l.values) : l.world.Usable handles := by
  rcases sane_of_supervised hl with ⟨rig, hsane⟩
  intro h hh
  rcases hsane.connected h (hhandles h hh) with ⟨bridge, connection, hconnected⟩
  rcases hsane.shared _ _ _ hconnected with ⟨hruntime, hlifecycle⟩
  refine ⟨bridge, connection, hconnected, hruntime, ?_⟩
  rw [hlifecycle]
  cases hphase : l.world.phaseOf lifecycle with
  | started => rfl
  | finished => exact absurd hphase hopen
  | idle =>
      have hnone : (Value.handlesAll l.values : Multiset Handle) = 0 := (hsane.unused hphase).1
      have hmem : h ∈ (Value.handlesAll l.values : Multiset Handle) := hhandles h hh
      rw [hnone] at hmem
      exact absurd hmem (Multiset.notMem_zero h)

/-- If there are handles, the runtime was started. -/
theorem runs_of_handles {depth : Nat} {held : Multiset Ref} {s : Simulation}
    (hl : Supervised lifecycle l) (hprepared : l.world.Prepared lifecycle depth library held s)
    (handles : List Handle) (hhandles : ∀ h ∈ handles, h ∈ Value.handlesAll l.values) :
    handles = [] ∨ l.world.Runs depth library held := by
  cases handles with
  | nil => exact .inl rfl
  | cons h rest =>
      right
      rcases usable_of_supervised hl hprepared.opens hhandles h List.mem_cons_self with
        ⟨bridge, connection, hconnected, -, hstarted⟩
      rw [(hprepared.shared _ _ _ hconnected).2] at hstarted
      exact hprepared.runs hstarted

/-- The function answers with a new number, whatever it is given. -/
theorem dependable_sampleBody : Dependable 1 (· = sampleBody) := by
  intro body hbody calls arguments s held hs hrunning huses harguments
  rw [hbody]
  exact Attempt.delivers_of_outcome rfl (huses.allocate trivial)

theorem uses_sampleModule : sampleModule.Uses (· = sampleBody) := by
  have hfresh : Simulation.fresh.Uses (· = sampleBody) := Heap.Every.singleton trivial
  have hfunction : sampleFunction.Uses (· = sampleBody) := hfresh.allocate rfl
  have hmodule : sampleModule.heap =
      (sampleFunction.heap.allocate (.moduleOf "m" (.ofList [("f", ⟨2⟩)]))).2 := rfl
  unfold Uses
  rw [hmodule]
  exact hfunction.allocate trivial

end Ledger
end Session
end ForeignBridge
