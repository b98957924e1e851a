import ForeignBridge.Proofs.Interpreter.Lending
import ForeignBridge.Proofs.Reading.Sequences
import ForeignBridge.Proofs.RoundTrip.Representing

/-!
# What an interpreter keeps of values

The numbers of an interpreter carry no kinds.  What is read back of an integer is of kind `int64`,
if that kind holds it, and what is read back of a single is the double that it widens to.
-/

namespace ForeignBridge

/-!
# Numbers without kinds
-/

namespace Scalar

/-- A number of the kind that it is read back as.  An integer that is too large is not read back. -/
def erased : Scalar → Scalar
  | bool b => bool b
  | int i => if fits : NumericKind.int64.Holds i.value then int ⟨.int64, i.value, fits⟩ else int i
  | real x => real (.double x.toDouble)

/-- The error of an integer that is too large. -/
def excess? : Scalar → Option BridgeError
  | int i =>
    if NumericKind.int64.Holds i.value then none
    else some (.overflow (toString i.value) NumericKind.int64.name)
  | _ => none

theorem toDouble_erased (s : Scalar) : s.erased.toDouble = s.toDouble := by
  cases s with
  | bool b => rfl
  | real x => rfl
  | int i =>
      show (if fits : NumericKind.int64.Holds i.value then int ⟨.int64, i.value, fits⟩
        else int i).toDouble = _
      split <;> rfl

/-- Only the upper half of the kind `uint64` is too large. -/
theorem holds_int64_iff (i : HostInt) :
    NumericKind.int64.Holds i.value ↔ ¬ (i.kind = .uint64 ∧ 0x7fffffffffffffff < i.value) := by
  obtain ⟨kind, value, fits⟩ := i
  obtain ⟨hinteger, hleast, hgreatest⟩ := fits
  have hlow : NumericKind.int64.least = -0x8000000000000000 := by decide
  have hhigh : NumericKind.int64.greatest = 0x7fffffffffffffff := by decide
  have hkinds : kind.isInteger = true → kind = .uint64 ∧ kind.least = 0 ∨
      kind ≠ .uint64 ∧ -0x8000000000000000 ≤ kind.least ∧ kind.greatest ≤ 0x7fffffffffffffff := by
    cases kind <;> decide
  unfold NumericKind.Holds
  rw [hlow, hhigh]
  dsimp only
  rcases hkinds hinteger with ⟨rfl, hzero⟩ | ⟨hother, hleast', hgreatest'⟩
  · refine ⟨fun hholds hlarge => absurd hlarge.2 (Int.not_lt.2 hholds.2.2), fun hsmall => ?_⟩
    have hle : value ≤ 0x7fffffffffffffff := Int.not_lt.1 fun hlarge => hsmall ⟨rfl, hlarge⟩
    exact ⟨by decide, by omega, hle⟩
  · exact ⟨fun _ hlarge => hother hlarge.1, fun _ => ⟨by decide, by omega, by omega⟩⟩

theorem excess?_eq_some_iff {s : Scalar} {error : BridgeError} :
    s.excess? = some error ↔ ∃ i : HostInt, s = .int i ∧ i.kind = .uint64 ∧
      0x7fffffffffffffff < i.value ∧ error = .overflow (toString i.value) "int64" := by
  cases s with
  | bool _ | real _ =>
      refine ⟨nofun, ?_⟩
      rintro ⟨i, hi, -⟩
      cases hi
  | int i =>
      have hname : NumericKind.int64.name = "int64" := rfl
      have hexcess : (int i).excess? = if NumericKind.int64.Holds i.value then none
        else some (.overflow (toString i.value) NumericKind.int64.name) := rfl
      rw [hexcess, hname]
      by_cases hholds : NumericKind.int64.Holds i.value
      · rw [if_pos hholds]
        refine ⟨nofun, ?_⟩
        rintro ⟨_, ⟨⟩, hkind, hlarge, -⟩
        exact absurd ⟨hkind, hlarge⟩ ((holds_int64_iff i).1 hholds)
      · obtain ⟨hkind, hlarge⟩ := not_not.1 (mt (holds_int64_iff i).2 hholds)
        rw [if_neg hholds]
        constructor
        · rintro ⟨⟩
          exact ⟨i, rfl, hkind, hlarge, rfl⟩
        · rintro ⟨_, ⟨⟩, -, -, rfl⟩
          rfl

end Scalar

namespace Interpreter

open Simulation (contentOf hostInt plainValue)

theorem hostInt_untagged (value : Int) :
    hostInt value none = if fits : NumericKind.int64.Holds value then .ok ⟨.int64, value, fits⟩
      else .error (.overflow (toString value) NumericKind.int64.name) := rfl

/-- The numbers of an interpreter. -/
def numerals : Numerals where
  code
    | .bool b => .bool b
    | .int i => .int i.value none
    | .real x => .float x.toDouble none
  fault? := Scalar.excess?
  kept := Scalar.erased
  numeric s := by cases s <;> rfl
  overflow s := by
    cases s with
    | bool b => rfl
    | real x => rfl
    | int i =>
        simp only [Simulation.Object.overflow?, hostInt_untagged, Scalar.excess?]
        by_cases hholds : NumericKind.int64.Holds i.value
        · rw [dif_pos hholds, if_pos hholds]
        · rw [dif_neg hholds, if_neg hholds]
  widened s := by
    rw [Scalar.toDouble_erased]
    cases s with
    | bool b => rfl
    | real x => rfl
    | int i => rfl
  read h context ref s hcontent := by
    unfold plainValue
    rw [hcontent]
    cases s with
    | bool b => rfl
    | real x => rfl
    | int i =>
        simp only [hostInt_untagged, Scalar.excess?, Scalar.erased]
        split <;> rfl

/-!
# What is made for a value
-/

variable {s : Interpreter} {first : Heap Object} {content : Object} {context : Nat} {ref : Ref}

theorem contentOf_of_made (hmade : encoding.Made first s.heap content ref) :
    contentOf s.shown ref = content.shown (s.publicName ref) := contentOf_shown hmade.1

theorem represents_scalar {n : Scalar}
    (hmade : encoding.Made first s.heap (encoding.scalar n) ref) :
    Known s.heap ref ∧ numerals.Represents s.shown context (.scalar n) ref := by
  refine ⟨.scalar n hmade.1, ?_⟩
  rw [Numerals.Represents, contentOf_of_made hmade]
  cases n <;> rfl

/-- A tuple of what is made for some values is what is made for a list of them. -/
theorem represents_tuple {values : List Value} {refs : List Ref}
    (hmade : encoding.Made first s.heap (encoding.tuple refs) ref)
    (hrefs : List.Forall₂ (fun v item => Known s.heap item ∧
      numerals.Represents s.shown context v item) values refs) :
    Known s.heap ref ∧ numerals.Represents s.shown context (.cell values) ref := by
  have hknown : ∀ item ∈ refs, Known s.heap item := by
    intro item hitem
    obtain ⟨i, hi, rfl⟩ := List.getElem_of_mem hitem
    exact (hrefs.get (by rwa [hrefs.length_eq]) hi).1
  refine ⟨.tuple refs hmade.1 hknown, ?_⟩
  rw [Numerals.Represents, contentOf_of_made hmade]
  exact ⟨refs, rfl, (numerals.representsEach_iff s.shown context).2 (hrefs.imp fun _ _ hv => hv.2)⟩

theorem represents_matrix {m : Matrix} (hm : encoding.BuildsMatrix first s.heap m ref) :
    Known s.heap ref ∧
      numerals.Represents s.shown context (.ofScalarRows (m.rows?.getD [])) ref := by
  obtain ⟨rowRefs, hmade, hrows⟩ := Matrix.exists_rows_of_buildsMatrix hm
  unfold Value.ofScalarRows
  refine represents_tuple hmade (List.forall₂_map_left_iff.2 (hrows.imp ?_))
  rintro row rowRef ⟨leaves, hleaves, hentries⟩
  refine represents_tuple hleaves (List.forall₂_map_left_iff.2 (hentries.imp ?_))
  exact fun n leaf hleaf => represents_scalar hleaf

mutual

/-- What is made for a value represents it. -/
theorem represents_of_builds {v : Value} {root : Ref} (hv : encoding.Builds first s.heap v root)
    (hown : ∀ handle ∈ v.handles, handle.context = context)
    (hsealed : ∀ handle ∈ v.handles, ∃ object, s.heap.get? handle.ref = some object ∧
      (object.content.kind = .attributeBag ∨ object.content.kind = .object)) :
    Known s.heap root ∧ numerals.Represents s.shown context v.spread root := by
  cases v with
  | undefined =>
      rw [Encoding.Builds] at hv
      refine ⟨.null hv.1, ?_⟩
      show numerals.Represents s.shown context .undefined root
      rw [Numerals.Represents, contentOf_of_made hv]
      rfl
  | scalar n =>
      rw [Encoding.Builds] at hv
      exact represents_scalar hv
  | text t =>
      rw [Encoding.Builds] at hv
      refine ⟨.text t hv.1, ?_⟩
      show numerals.Represents s.shown context (.text t) root
      rw [Numerals.Represents, contentOf_of_made hv]
      exact shown_text t
  | cell items =>
      rw [Encoding.Builds] at hv
      obtain ⟨refs, hmade, hitems⟩ := hv
      rw [Value.spread]
      exact represents_tuple hmade (representsEach_of_builds hitems hown hsealed)
  | matrix m =>
      rw [Encoding.Builds] at hv
      exact represents_matrix hv
  | foreign handle =>
      rw [Encoding.Builds] at hv
      subst hv
      rw [Value.handles, List.forall_mem_singleton] at hown hsealed
      obtain ⟨object, hget, hkind⟩ := hsealed
      refine ⟨.sealed object hget hkind, ?_⟩
      show numerals.Represents s.shown context (.foreign handle) handle.ref
      rw [Numerals.Represents, contentOf_shown hget, shown_of_sealed _ hkind]
      exact ⟨hown, rfl, .inr rfl⟩

theorem representsEach_of_builds {values : List Value} {refs : List Ref}
    (hvalues : encoding.BuildsEach first s.heap values refs)
    (hown : ∀ handle ∈ Value.handlesAll values, handle.context = context)
    (hsealed : ∀ handle ∈ Value.handlesAll values, ∃ object, s.heap.get? handle.ref = some object ∧
      (object.content.kind = .attributeBag ∨ object.content.kind = .object)) :
    List.Forall₂ (fun v item => Known s.heap item ∧
      numerals.Represents s.shown context v item) (Value.spreadAll values) refs := by
  cases values with
  | nil =>
      rw [Encoding.BuildsEach] at hvalues
      rw [hvalues]
      exact .nil
  | cons v rest =>
      rw [Encoding.BuildsEach] at hvalues
      obtain ⟨root, others, rfl, hv, hothers⟩ := hvalues
      rw [Value.handlesAll, List.forall_mem_append] at hown hsealed
      exact .cons (represents_of_builds hv hown.1 hsealed.1)
        (representsEach_of_builds hothers hown.2 hsealed.2)

end

/-!
# Round trips
-/

/-- The interpreter makes what it is asked for, and what it made is read as the normal form of what
is kept of the value, unless an integer that is looked at is too large.  No error waits
afterwards. -/
theorem comes_roundTrip (hquiet : s.pending = none) (hfirst : s.Furnished) (ctx : Context)
    (v : Value) (hadmits : ctx.Admits v)
    (hsealed : ∀ handle ∈ v.handles, ∃ object, s.heap.get? handle.ref = some object ∧
      (object.content.kind = .attributeBag ∨ object.content.kind = .object)) :
    ∃ outcome t, (ctx.toForeign v >>= ctx.toHost).Comes serving s outcome t ∧ t.pending = none ∧
      numerals.Yields Value.anonymous outcome v.spread.extracted
        ((v.spread.onScalars Scalar.erased).normal
          ctx.settings.matrixAutoconversion).anonymous := by
  have hstart : (maker s).Within s.heap 0 :=
    ⟨.refl s.heap, fun ref object hnew hget => absurd (Heap.id_lt_size hget) (Nat.not_lt.2 hnew)⟩
  have hlive : ∀ handle ∈ v.handles, handle.context = ctx.id →
      ∃ object, s.heap.get? handle.ref = some object := fun handle hhandle _ =>
    (hsealed handle hhandle).imp fun _ hobject => hobject.1
  rcases Maker.forms_toForeign (serves_maker hquiet hfirst) ctx v hlive s.heap 0 hstart with
    ⟨-, ref, h, hmakes, hh, -, hbuilds⟩ | ⟨hrefused, -⟩
  · have hsealed' : ∀ handle ∈ v.handles, ∃ object,
        (s.withHeap h).heap.get? handle.ref = some object ∧
          (object.content.kind = .attributeBag ∨ object.content.kind = .object) :=
      fun handle hhandle => (hsealed handle hhandle).imp fun _ hobject =>
        ⟨hh.acquired.get? hobject.1, hobject.2⟩
    obtain ⟨hknown, hrepresents⟩ :=
      represents_of_builds (s := s.withHeap h) hbuilds hadmits.2 hsealed'
    have hyields := numerals.yields_hostValue ctx.settings.matrixAutoconversion hrepresents
      (Value.matrices_spread v)
    have hends : ∀ outcome, (s.withHeap h).lender.Ends ref (Simulation.lentBy Value.refs 0 outcome)
        ((answer (.release ref)).run
          ((s.withHeap h).lending (Simulation.lentBy Value.refs 0 outcome))).2 := fun _ => rfl
    have hreads := ctx.comes_toHost (serves_lender (s := s.withHeap h) hquiet) hknown hends
    have hzero : (s.withHeap h).lender.lending 0 = s.withHeap h := (s.withHeap h).lending_zero
    rw [hzero] at hreads
    exact ⟨_, _, hmakes.bind hreads, (calm_release ref _).trans hquiet, hyields⟩
  · exact absurd hadmits hrefused

end Interpreter
end ForeignBridge
