import Mathlib
import ForeignBridge.Proofs.Crossing.Origin
import ForeignBridge.Proofs.RoundTrip.Normal
import ForeignBridge.Simulation.Runtime

/-!
# Matrices

However a matrix comes about, its parts fit together, and its view shows every element where its index
says.
-/

namespace ForeignBridge
namespace Context

variable (ctx : Context)

/-- Every matrix in a value that a bridge makes is made of sequences. -/
theorem composes_flat : ctx.Composes fun v => ∀ m ∈ v.matrices, m.Flat where
  undefined := nofun
  scalar _ := nofun
  text _ := nofun
  foreign _ _ := nofun
  matrix m hm := by
    intro other hother
    rw [List.mem_singleton.1 hother]
    exact hm
  cell values h := by
    intro m hm
    rw [Value.matrices, Value.matricesAll_eq_flatMap, List.mem_flatMap] at hm
    rcases hm with ⟨v, hv, hmem⟩
    exact h v hv m hmem

/-- Matrices represent arrays.  One is made exactly of fitting parts: of elements, of rows, of doubles,
of nothing, or of what any runtime hands over.  And every matrix has its view as it should. -/
theorem represented :
    (∀ kind dims elements, Matrix.Makes (Matrix.Regular kind dims elements) kind dims elements
      (Matrix.ofElements kind dims elements)) ∧
    (∀ kind (rows : List (List Scalar)), Matrix.Makes
      ((∀ row ∈ rows, row.length = (rows.head?.map List.length).getD 0) ∧
        ∀ row ∈ rows, ∀ s ∈ row, s.kind = kind)
      kind [rows.length, (rows.head?.map List.length).getD 0] rows.flatten
      (Matrix.ofRows kind rows)) ∧
    (∀ rows columns (elements : List Double), Matrix.Makes (rows * columns = elements.length) .double
      [rows, columns] (elements.map fun x => .real (.double x))
      (Matrix.ofDoubles rows columns elements)) ∧
    Matrix.Makes True .double [0, 0] [] (.ok .empty) ∧
    (∀ (ctx : Context) (object : Ref) (σ : Type) (answer : (r : Request) → Attempt σ r.Answer)
      (record : Event → StateM σ Unit) (s s' : σ) (v : Value),
      ((ctx.toHost object).run.run answer record).outcome s = (.ok (.ok v), s') →
        ∀ m ∈ v.matrices, m.Flat) ∧
    ∀ m : Matrix, m.Viewed := by
  refine ⟨Matrix.makes_ofElements, Matrix.makes_ofRows, Matrix.makes_ofDoubles, ?_, ?_,
    Matrix.viewed⟩
  · exact Matrix.makes_empty
  · intro ctx object σ answer record s s' v hrun
    exact (ctx.yields_toHost ctx.composes_flat object).of_run hrun

/-!
A sequence of two rows, and an array of four dimensions of which two matter.
-/

/-- A running runtime with two rows of two floats. -/
def sampleRows : Simulation where
  heap := ⟨#[none, some ⟨1, .null, Nat.one_pos⟩, some ⟨1, .tuple [⟨3⟩, ⟨4⟩], Nat.one_pos⟩,
    some ⟨1, .tuple [⟨5⟩, ⟨6⟩], Nat.one_pos⟩, some ⟨1, .tuple [⟨6⟩, ⟨5⟩], Nat.one_pos⟩,
    some ⟨2, .float (.number true ⟨1, by decide⟩) none, Nat.two_pos⟩,
    some ⟨2, .float .nan none, Nat.two_pos⟩]⟩
  modules := .empty
  phase := .running
  startCount := 1
  refusesStart := false
  searchPaths := []
  pending := none
  called := []
  names := .empty

/-- What the rows are packed as. -/
def sampleSquare : Matrix where
  kind := .double
  dims := [2, 2]
  elements := [.real (.double (.number true ⟨1, by decide⟩)), .real (.double .nan),
    .real (.double .nan), .real (.double (.number true ⟨1, by decide⟩))]
  dims_ne_nil := by decide
  count_eq := by decide
  kind_eq := by decide

def sampleDeep : Matrix where
  kind := .logical
  dims := [1, 2, 1, 3]
  elements := [.bool true, .bool false, .bool false, .bool true, .bool true, .bool false]
  dims_ne_nil := by decide
  count_eq := by decide
  kind_eq := by decide

set_option maxRecDepth 2000 in
theorem represented_samples :
    (∃ s', ((toHost ⟨0, "sim", {}, 1⟩ ⟨2⟩).run.run (Simulation.answer (Simulation.run 1))
        fun _ => pure ()).outcome sampleRows = (.ok (.ok (.matrix sampleSquare)), s') ∧
      sampleSquare.Flat) ∧
    sampleDeep.shape? = some (2, 3) ∧
      (Matrix.indices [1, 2, 1, 3]).map (fun index => sampleDeep.get?
        (Matrix.coordinates [1, 2, 1, 3] index).1 (Matrix.coordinates [1, 2, 1, 3] index).2) =
      sampleDeep.elements.map some := by
  rcases represented with ⟨-, -, -, -, hpacked, hviewed⟩
  have hrun : ((toHost ⟨0, "sim", {}, 1⟩ ⟨2⟩).run.run (Simulation.answer (Simulation.run 1))
      fun _ => pure ()).outcome sampleRows = (.ok (.ok (.matrix sampleSquare)), _) :=
    Prod.ext (by cbv) rfl
  exact ⟨⟨_, hrun, hpacked _ _ _ _ _ _ _ _ hrun sampleSquare (List.mem_singleton_self _)⟩, rfl,
    (hviewed sampleDeep).positions rfl⟩

end Context
end ForeignBridge
