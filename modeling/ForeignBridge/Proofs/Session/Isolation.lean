import ForeignBridge.Proofs.Crossing.Entrusted
import ForeignBridge.Proofs.Crossing.Estrangement
import ForeignBridge.Proofs.Crossing.Rationing
import ForeignBridge.Proofs.Session.Apart

/-!
# Isolation

There may be any number of runtimes in a world, and any number of bridges over each of them.  A
request to a bridge stays with the runtime of that bridge, and mentions there only objects that it was
given by this runtime, in the request itself or as handles of the bridge.  Handles of other bridges may
come with the request at any place and depth, and no object of theirs is ever mentioned.
-/

namespace ForeignBridge

/-- The handle of the object that a request of the host works on. -/
def Entry.target? : Entry → Option Handle
  | .construct module _ _ => some module
  | .invoke (.handle h) _ _ | .getField (.handle h) _ | .setField (.handle h) _ _ => some h
  | .read root _ | .assign root _ _ => some root
  | .members h => some h
  | .importModule _ | .invoke (.name _) _ _ | .getField (.name _) _ | .setField (.name _) _ _ => none

/-- A request about an object of another bridge asks nothing. -/
theorem Context.run_serve_of_foreign (ctx : Context) {entry : Entry} {h : Handle}
    (htarget : entry.target? = some h) (hforeign : h.context ≠ ctx.id) :
    (ctx.serve entry).run = .done (.error (.typeConversion .otherRuntime)) := by
  have hown : ctx.requireOwn h = refuse .otherRuntime := if_neg hforeign
  cases entry with
  | importModule _ => cases htarget
  | construct _ _ _ | read _ _ | assign _ _ _ | members _ =>
      cases htarget
      dsimp only [serve, resolve]
      rw [hown]
      rfl
  | invoke on _ _ | getField on _ | setField on _ _ =>
      cases on with
      | name _ => cases htarget
      | handle _ =>
          cases htarget
          dsimp only [serve, resolve]
          rw [hown]
          rfl

namespace Session
namespace World

/-- What comes of a request to a bridge. -/
def served (w : World) (index : Nat) (entry : Entry) : Except Failure Reply × World :=
  (cross index fun ctx => ctx.serve entry).run.run w

/-- All that a runtime is asked for a request, once its bridge is entered. -/
def asked (w : World) (index : Nat) (bridge : Bridge) (connection : Connection) (entry : Entry) :
    List Asked :=
  ((w.contextOf index bridge connection).serve entry).run.transcript (answer connection) record w

/-- A request to a bridge stays with its runtime, and with what belongs to the bridge there. -/
structure Isolated (w : World) (index : Nat) (bridge : Bridge) (connection : Connection)
    (entry : Entry) : Prop where
  /-- The other runtimes stay as they are. -/
  elsewhere : ∀ other, other ≠ connection.runtime →
    (w.served index entry).2.runtimes[other]? = w.runtimes[other]?
  /-- The other runtimes are not asked: with any others the request comes to the same. -/
  unasked : ∀ w', AlikeAt connection.runtime w w' →
    (w'.served index entry).1 = (w.served index entry).1 ∧
      AlikeAt connection.runtime (w.served index entry).2 (w'.served index entry).2
  /-- What the runtime is asked about is owned at that moment, or is the object of a handle of the
  bridge that came with the request. -/
  entrusted : ∀ w', (enter index).run.run w = (.ok connection, w') →
    ∀ (moment : Nat) (question : Asked),
      (w'.asked index bridge connection entry)[moment]? = some question →
      ∀ ref ∈ question.request.mentions,
        0 < Asked.owned ((w'.asked index bridge connection entry).take moment) ref ∨
          entry.Names index ref
  /-- A handle in the reply is a handle of the bridge. -/
  own : ∀ reply w', w.served index entry = (.ok reply, w') → ∀ h ∈ reply.handles, h.context = index
  /-- The bridge does not look into handles of other bridges. -/
  blind : w.served index (entry.disguised index) = w.served index entry
  /-- Once the runtime is started, a request about an object of another bridge is refused before
  anything is done. -/
  refused : w.phaseOf connection.lifecycle = .started →
    (∃ h, entry.target? = some h ∧ h.context ≠ index) →
    w.served index entry = (.error (.bridge (.typeConversion .otherRuntime)), w)
  /-- An operand with a handle of another bridge inside does not come to be used. -/
  withheld : ∀ count, entry.strangeAfter? index = some count →
    (∀ w', (enter index).run.run w = (.ok connection, w') →
      Asked.operations (w'.asked index bridge connection entry) ≤ count) ∧
    ∀ reply, (w.served index entry).1 ≠ .ok reply

variable {α : Type} {w : World} {index : Nat} {bridge : Bridge} {connection : Connection}

/-- Bridges that serve two requests alike in every context cross alike. -/
theorem cross_congr {first second : Context → Crossing α}
    (h : ∀ ctx, ctx.id = index → first ctx = second ctx) :
    (cross index first).run.run w = (cross index second).run.run w := by
  rw [cross_eq, cross_eq, run_bind, run_bind]
  rcases (enter index).run.run w with ⟨outcome, w'⟩
  cases outcome with
  | error failure => rfl
  | ok connection =>
      dsimp only
      cases hbridge : w'.bridges[index]? with
      | some bridge =>
          rw [run_crossEntered hbridge, run_crossEntered hbridge, h _ rfl]
      | none => rw [run_crossEntered_of_none hbridge, run_crossEntered_of_none hbridge]

theorem bridges_enter (hconnected : w.Connected index bridge connection) :
    ((enter index).run.run w).2.bridges = w.bridges := by
  have hreaches : ReachesOnly connection.runtime
      (ensure connection.lifecycle connection.runtime bridge.settings.searchPaths).run :=
    reachesOnly_ensure connection.lifecycle bridge.settings.searchPaths
  have hensure := hreaches.bridges w
  rw [run_enter hconnected]
  rcases houtcome : (ensure connection.lifecycle connection.runtime
    bridge.settings.searchPaths).run.run w with ⟨outcome, w'⟩
  have hsame : w'.bridges = w.bridges := by
    rw [← hensure]
    exact (congrArg (fun run => run.2.bridges) houtcome).symm
  cases outcome with
  | ok _ => exact hsame
  | error failure => exact hsame

theorem isolated_of_connected (hconnected : w.Connected index bridge connection) (entry : Entry) :
    w.Isolated index bridge connection entry := by
  have hreaches := reachesOnly_cross index (fun ctx => ctx.serve entry) bridge connection
  have hentered : ∀ w', (enter index).run.run w = (.ok connection, w') →
      w'.bridges[index]? = some bridge := by
    intro w' hrun
    have hbridges := bridges_enter hconnected
    rw [hrun] at hbridges
    rw [hbridges]
    exact hconnected.1
  constructor
  · intro other hother
    unfold served
    rw [run_cross hconnected]
    exact hreaches.elsewhere w other hother
  · intro w' halike
    have hconnected' : w'.Connected index bridge connection := by
      unfold Connected
      rw [halike.bridges]
      exact hconnected
    unfold served
    rw [run_cross hconnected, run_cross hconnected']
    exact hreaches.alike w w' halike
  · intro w' hrun moment question hquestion ref href
    exact entrusted_serve (answer connection) record (w'.contextOf index bridge connection) entry w'
      hquestion href
  · intro reply w' hrun
    unfold served at hrun
    rw [cross_eq, run_bind] at hrun
    rcases henter : (enter index).run.run w with ⟨outcome, w''⟩
    rw [henter] at hrun
    cases outcome with
    | error failure => cases hrun
    | ok connection =>
        have hresult : ∀ ctx : Context, ctx.id = index →
            (ctx.serve entry).Yields fun reply => ∀ h ∈ reply.handles, h.context = index := by
          intro ctx hctx
          rw [← hctx]
          exact ctx.yields_serve entry
        exact result_of_crossEntered hresult hrun
  · apply cross_congr
    intro ctx hctx
    rw [← hctx]
    exact ctx.serve_disguised entry
  · rintro hstarted ⟨h, htarget, hforeign⟩
    unfold served
    rw [cross_eq, run_bind, run_enter_of_started hconnected.1 hconnected.2 hstarted]
    dsimp only
    rw [run_crossEntered hconnected.1, Context.run_serve_of_foreign _ htarget hforeign]
    rfl
  · intro count hstrange
    constructor
    · intro w' hrun
      exact (withheld_serve (answer connection) (w'.contextOf index bridge connection) record w'
        hstrange).1
    · intro reply hreply
      unfold served at hreply
      rw [cross_eq, run_bind, run_enter hconnected] at hreply
      rcases hensure : (ensure connection.lifecycle connection.runtime
        bridge.settings.searchPaths).run.run w with ⟨outcome, w'⟩
      rw [hensure] at hreply
      cases outcome with
      | error failure => cases hreply
      | ok _ =>
          have henter : (enter index).run.run w = (.ok connection, w') := by
            rw [run_enter hconnected, hensure]
          have hserve := (withheld_serve (answer connection)
            (w'.contextOf index bridge connection) record w' hstrange).2
          dsimp only at hreply
          rw [run_crossEntered (hentered w' henter)] at hreply
          rcases houtcome : (Program.run (answer connection) record
            ((w'.contextOf index bridge connection).serve entry).run).outcome w' with ⟨outcome, w''⟩
          rw [houtcome] at hreply hserve
          rcases outcome with panic | result
          · cases hreply
          · cases result with
            | error e => cases hreply
            | ok given => exact hserve given rfl

/-- A request to a bridge is isolated from all runtimes but that of the bridge and from all handles
but those of the bridge; a bridge without a runtime fails and does nothing. -/
theorem isolated_of_bridge (hbridge : w.bridges[index]? = some bridge) (entry : Entry) :
    match bridge.connection with
    | some connection => w.Isolated index bridge connection entry
    | none =>
      w.served index entry =
        (.error (.bridge (.notAvailable "built without a foreign runtime backend")), w) := by
  cases hconnection : bridge.connection with
  | some connection => exact isolated_of_connected ⟨hbridge, hconnection⟩ entry
  | none =>
      unfold served cross enter
      rw [run_bind, run_bind, run_bridge hbridge]
      dsimp only
      rw [hconnection]
      rfl

/-- Two runtimes with a bridge each, and a bridge without a runtime. -/
def sampleApart : World where
  runtimes := #[.simulated ⟨Ledger.sampleModule, [], 1⟩, .simulated ⟨Ledger.sampleModule, [], 1⟩]
  phases := [(.process, .started)]
  bridges := #[⟨some ⟨0, .process, true⟩, {}⟩, ⟨some ⟨1, .named "other", true⟩, {}⟩, ⟨none, {}⟩]
  bindings := .empty
  events := []
  nesting := 1

/-- A call of the function in the first runtime, with a handle of the second bridge in a cell. -/
def sampleStray : Entry := .invoke (.name "m") "f" [.cell [.cell [.foreign ⟨1, ⟨2⟩, "f"⟩]]]

theorem isolated_of_sample :
    sampleApart.Isolated 0 ⟨some ⟨0, .process, true⟩, {}⟩ ⟨0, .process, true⟩ sampleStray ∧
      sampleStray.strangeAfter? 0 = some 0 := by
  have hbridge : sampleApart.bridges[0]? = some ⟨some ⟨0, .process, true⟩, {}⟩ := rfl
  exact ⟨isolated_of_bridge hbridge sampleStray, rfl⟩

end World
end Session
end ForeignBridge
