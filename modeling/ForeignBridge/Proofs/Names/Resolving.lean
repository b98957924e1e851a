import ForeignBridge.Proofs.Building.Simulated
import ForeignBridge.Proofs.Names.Attributes

/-!
# Dotted names

A dotted name is resolved from the module of its longest prefix that is registered, along the attributes
that its other segments name.  Shorter prefixes are not tried after that, whatever the attributes are.
-/

namespace ForeignBridge

namespace Simulation

/-- The error of a module that is not registered. -/
def unknownModule (name : String) : Diagnostic :=
  ⟨"ModuleNotFoundError", s!"No module named '{name}'"⟩

/-- The module that is registered for the first segments of a name. -/
def moduleOf? (s : Simulation) (segments : List String) (count : Nat) : Option Ref :=
  s.modules.find? (".".intercalate (segments.take count))

/-- The longest prefix that is registered, among those of at most a number of segments. -/
structure Longest (s : Simulation) (segments : List String) (limit count : Nat) (module : Ref) :
    Prop where
  pos : 0 < count
  within : count ≤ limit
  registered : s.moduleOf? segments count = some module
  longest : ∀ more, count < more → more ≤ limit → s.moduleOf? segments more = none

/-- No prefix of at most a number of segments is registered. -/
def Unknown (s : Simulation) (segments : List String) (limit : Nat) : Prop :=
  ∀ count, 0 < count → count ≤ limit → s.moduleOf? segments count = none

variable {s : Simulation} {segments : List String} {limit count : Nat} {module : Ref}

theorem Longest.succ (h : s.Longest segments limit count module)
    (hnone : s.moduleOf? segments (limit + 1) = none) :
    s.Longest segments (limit + 1) count module where
  pos := h.pos
  within := Nat.le_succ_of_le h.within
  registered := h.registered
  longest more hmore hlimit := by
    rcases Nat.lt_or_eq_of_le hlimit with hlt | heq
    · exact h.longest more hmore (Nat.le_of_lt_succ hlt)
    · rw [heq]
      exact hnone

theorem Unknown.succ (h : s.Unknown segments limit)
    (hnone : s.moduleOf? segments (limit + 1) = none) : s.Unknown segments (limit + 1) := by
  intro count hpos hlimit
  rcases Nat.lt_or_eq_of_le hlimit with hlt | heq
  · exact h count hpos (Nat.le_of_lt_succ hlt)
  · rw [heq]
    exact hnone

theorem Longest.unique {other : Nat} {ref : Ref} (h : s.Longest segments limit count module)
    (h' : s.Longest segments limit other ref) : count = other ∧ module = ref := by
  rcases Nat.lt_trichotomy count other with hlt | rfl | hgt
  · have hnone := h.longest other hlt h'.within
    rw [h'.registered] at hnone
    cases hnone
  · have hsame := h.registered
    rw [h'.registered] at hsame
    cases hsame
    exact ⟨rfl, rfl⟩
  · have hnone := h'.longest count hgt h.within
    rw [h.registered] at hnone
    cases hnone

theorem Longest.not_unknown (h : s.Longest segments limit count module) :
    ¬ s.Unknown segments limit := by
  intro hunknown
  have hnone := hunknown count h.pos h.within
  rw [h.registered] at hnone
  cases hnone

/-- There is a longest prefix that is registered, or none is. -/
theorem longest_or_unknown (s : Simulation) (segments : List String) (limit : Nat) :
    (∃ count module, s.Longest segments limit count module) ∨ s.Unknown segments limit := by
  induction limit with
  | zero =>
      refine .inr fun count hpos hlimit => ?_
      omega
  | succ limit ih =>
      cases hfind : s.moduleOf? segments (limit + 1) with
      | some module =>
          refine .inl ⟨limit + 1, module, Nat.succ_pos limit, Nat.le_refl _, hfind, ?_⟩
          intro more hmore hlimit
          omega
      | none =>
          rcases ih with ⟨count, module, hlongest⟩ | hunknown
          · exact .inl ⟨count, module, hlongest.succ hfind⟩
          · exact .inr (hunknown.succ hfind)

end Simulation

namespace Context

open Simulation Crossing

variable (ctx : Context) {depth : Nat} {s : Simulation} {name : String} {module : Ref}
  {parts : List String}

theorem segments_ne_nil (path : String) : segments path ≠ [] := by
  unfold segments
  rw [ne_eq, List.map_eq_nil_iff]
  exact List.splitOn_ne_nil _ _

/-!
# Importing
-/

section Importing

variable (hready : s.Ready)

theorem outcome_importModule_unknown (hfind : s.modules.find? name = none) :
    (Simulation.importModule name).outcome s =
      (.ok none, { s with pending := some (unknownModule name) }) := by
  unfold Simulation.importModule
  rw [Attempt.outcome_get_bind, hfind]
  rfl

theorem outcome_importModule_known (hcoherent : s.Coherent)
    (hfind : s.modules.find? name = some module) :
    (Simulation.importModule name).outcome s = (.ok (some module), s.lending {module}) := by
  rcases hcoherent.registered name module hfind with ⟨object, hget⟩
  unfold Simulation.importModule
  rw [Attempt.outcome_get_bind, hfind]
  exact outcome_lend (Heap.isLive_of_get? hget)

include hready

theorem comes_importModule_known (hcoherent : s.Coherent)
    (hfind : s.modules.find? name = some module) :
    (ctx.importModule name).Comes (answer (run depth)) s (.ok module) (s.lending {module}) := by
  have hserve : (Simulation.serve (run depth) (.importModule name)).outcome s = _ :=
    outcome_importModule_known hcoherent hfind
  exact Comes.bind Comes.note (Comes.bind (comes_served hready hserve)
    (comes_checkRef ctx (ready_withHeap hready _) .importModule module))

theorem comes_importModule_unknown (hfind : s.modules.find? name = none) :
    (ctx.importModule name).Comes (answer (run depth)) s
      (.error (.foreignRuntime .importModule (unknownModule name).text)) s := by
  have hserve : (Simulation.serve (run depth) (.importModule name)).outcome s = _ :=
    outcome_importModule_unknown hfind
  have hkind : (unknownModule name).kind ≠ "" := (by decide : "ModuleNotFoundError" ≠ "")
  exact Comes.bind Comes.note (Comes.bind (comes_served hready hserve)
    (ctx.comes_checkRef_raised hready _ .importModule hkind))

theorem comes_tryImport_known (hcoherent : s.Coherent)
    (hfind : s.modules.find? name = some module) :
    (tryImport name).Comes (answer (run depth)) s (.ok (some module)) (s.lending {module}) := by
  have hserve : (Simulation.serve (run depth) (.importModule name)).outcome s = _ :=
    outcome_importModule_known hcoherent hfind
  have hcalm : clearError.Comes (answer (run depth)) (s.lending {module}) (.ok none)
      (s.lending {module}) :=
    Comes.bind (comes_errorPending (ready_withHeap hready _)) Comes.pure
  exact Comes.bind (comes_served hready hserve) (Comes.bind hcalm Comes.pure)

/-- The failure of an import that is tried is cleared. -/
theorem comes_tryImport_unknown (depth : Nat) (hfind : s.modules.find? name = none) :
    (tryImport name).Comes (answer (run depth)) s (.ok none) s := by
  have hserve : (Simulation.serve (run depth) (.importModule name)).outcome s = _ :=
    outcome_importModule_unknown hfind
  exact Comes.bind (comes_served hready hserve) (Comes.bind (comes_clearError_raised hready _)
    (Comes.bind (Comes.releaseAll (.done () s)) (Comes.bind Comes.note Comes.pure)))

/-- Prefixes are tried from the longest one on, and only that of one segment must be there. -/
theorem comes_importLongest (depth : Nat) (hcoherent : s.Coherent) (parts : List String) (count : Nat) :
    (∃ found module, s.Longest parts (count + 1) found module ∧
        (ctx.importLongest parts count).Comes (answer (run depth)) s
          (.ok (module, parts.drop found)) (s.lending {module})) ∨
      (s.Unknown parts (count + 1) ∧
        (ctx.importLongest parts count).Comes (answer (run depth)) s
          (.error (.foreignRuntime .importModule (unknownModule (parts.head?.getD "")).text)) s) := by
  induction count with
  | zero =>
      have hfirst : ".".intercalate (parts.take 1) = parts.head?.getD "" := by
        cases parts with
        | nil => rfl
        | cons first rest => exact String.intercalate_singleton
      have hone : s.moduleOf? parts 1 = s.modules.find? (parts.head?.getD "") := by
        unfold moduleOf?
        rw [hfirst]
      unfold importLongest
      cases hfind : s.modules.find? (parts.head?.getD "") with
      | some module =>
          refine .inl ⟨1, module, ⟨Nat.one_pos, Nat.le_refl 1, hone.trans hfind, ?_⟩,
            Comes.bind (ctx.comes_importModule_known hready hcoherent hfind) Comes.pure⟩
          intro more hmore hlimit
          omega
      | none =>
          refine .inr ⟨?_, Comes.bind_error (ctx.comes_importModule_unknown hready hfind)⟩
          intro found hpos hlimit
          have hfound : found = 1 := by omega
          rw [hfound, hone, hfind]
  | succ count ih =>
      unfold importLongest
      cases hfind : s.moduleOf? parts (count + 2) with
      | some module =>
          refine .inl ⟨count + 2, module, ⟨Nat.succ_pos _, Nat.le_refl _, hfind, ?_⟩,
            Comes.bind (comes_tryImport_known hready hcoherent hfind) Comes.pure⟩
          intro more hmore hlimit
          omega
      | none =>
          have htried := comes_tryImport_unknown hready depth hfind
          rcases ih with ⟨found, module, hlongest, hcomes⟩ | ⟨hunknown, hcomes⟩
          · exact .inl ⟨found, module, hlongest.succ hfind, Comes.bind htried hcomes⟩
          · exact .inr ⟨hunknown.succ hfind, Comes.bind htried hcomes⟩

end Importing

/-!
# Resolving
-/

/-- A name with an empty segment is refused before anything is asked. -/
theorem resolveName_of_empty {path : String} (hempty : "" ∈ segments path) :
    ctx.resolveName path = throw (.unsupported (.qualifiedName path)) := by
  unfold resolveName
  dsimp only
  rw [if_pos (List.any_eq_true.2 ⟨"", hempty, rfl⟩)]

theorem resolveName_of_nonempty {path : String} (hsegments : "" ∉ segments path) :
    ctx.resolveName path = ctx.importLongest (segments path) ((segments path).length - 1) >>=
      fun found => ctx.walk found.1 (found.2.map Accessor.field) := by
  have hnone : (segments path).any String.isEmpty = false := by
    rw [List.any_eq_false]
    intro segment hsegment hisEmpty
    rw [String.isEmpty_iff.1 hisEmpty] at hsegment
    exact hsegments hsegment
  unfold resolveName
  dsimp only
  rw [hnone]
  rfl

/-- Only a running runtime resolves names. -/
theorem running_of_resolveName {ref : Ref} {path : String} {t : Simulation}
    (h : (ctx.resolveName path).Comes (answer (run depth)) s (.ok ref) t) : s.phase = .running := by
  by_cases hsegments : "" ∈ segments path
  · rw [ctx.resolveName_of_empty hsegments] at h
    exact absurd h Comes.not_throw
  rw [ctx.resolveName_of_nonempty hsegments] at h
  rcases h.of_bind with ⟨found, middle, himported, -⟩
  unfold importLongest at himported
  split at himported
  · rcases himported.of_bind with ⟨module, _, hmodule, -⟩
    rcases (hmodule.of_bind_of_comes Comes.note).of_bind with ⟨_, _, hasked, -⟩
    exact (serve_of_answer hasked.of_ask).1
  · rcases himported.of_bind with ⟨module?, _, htried, -⟩
    rcases htried.of_bind with ⟨_, _, hasked, -⟩
    exact (serve_of_answer hasked.of_ask).1

section Resolving

variable (hready : s.Ready) (hcoherent : s.Coherent) {path : String} (hsegments : "" ∉ segments path)

include hready hcoherent hsegments

theorem comes_resolveName_unknown
    (hunknown : s.Unknown (segments path) (segments path).length) :
    (ctx.resolveName path).Comes (answer (run depth)) s
      (.error (.foreignRuntime .importModule
        (unknownModule ((segments path).head (segments_ne_nil path))).text)) s := by
  have hlength := List.length_pos_iff.2 (segments_ne_nil path)
  have hlast : (segments path).length - 1 + 1 = (segments path).length := by omega
  have hhead : (segments path).head?.getD "" = (segments path).head (segments_ne_nil path) := by
    rw [List.head?_eq_some_head (segments_ne_nil path)]
    rfl
  rw [ctx.resolveName_of_nonempty hsegments, ← hhead]
  rcases ctx.comes_importLongest hready depth hcoherent (segments path) ((segments path).length - 1) with
    ⟨count, module, hlongest, -⟩ | ⟨-, hcomes⟩
  · rw [hlast] at hlongest
    exact absurd hunknown hlongest.not_unknown
  · exact Comes.bind_error hcomes

theorem comes_resolveName_along (depth : Nat) {count : Nat}
    (hlongest : s.Longest (segments path) (segments path).length count module) :
    match (Attribute.object module).along s.heap ((segments path).drop count) with
    | .ok a =>
      (ctx.resolveName path).Comes (answer (run depth)) s (.ok (a.owned s.heap).1)
        (s.withHeap (a.owned s.heap).2)
    | .error d =>
      ∃ h, (ctx.resolveName path).Comes (answer (run depth)) s
          (.error (.foreignRuntime .getField d.text)) (s.withHeap h) ∧
        ∀ ref, h.slot? ref = s.heap.slot? ref := by
  have hlength := List.length_pos_iff.2 (segments_ne_nil path)
  have hlast : (segments path).length - 1 + 1 = (segments path).length := by omega
  rw [ctx.resolveName_of_nonempty hsegments]
  rcases ctx.comes_importLongest hready depth hcoherent (segments path) ((segments path).length - 1) with
    ⟨found, other, hfound, hcomes⟩ | ⟨hunknown, -⟩
  · rw [hlast] at hfound
    rcases hfound.unique hlongest with ⟨rfl, rfl⟩
    rcases hcoherent.registered _ _ hfound.registered with ⟨object, hget⟩
    have hlives : (Attribute.object other).Lives s.heap := Heap.isLive_of_get? hget
    have hwalk := ctx.comes_walk_along hready hcoherent.closed depth hlives
      ((segments path).drop found)
    cases halong : (Attribute.object other).along s.heap ((segments path).drop found) with
    | ok a =>
        rw [halong] at hwalk
        exact Comes.bind hcomes hwalk
    | error d =>
        rw [halong] at hwalk
        rcases hwalk with ⟨h, hfailed, hsame⟩
        exact ⟨h, Comes.bind hcomes hfailed, hsame⟩
  · rw [hlast] at hunknown
    exact absurd hunknown hlongest.not_unknown

end Resolving

/-- A name that is resolved to an object which was there before leaves a reference to it, and nothing
else. -/
theorem acquired_of_resolveName {ref : Ref} {path : String} {t : Simulation} (hready : s.Ready)
    (hcoherent : s.Coherent) (hlive : s.heap.isLive ref = true)
    (hresolved : (ctx.resolveName path).Comes (answer (run depth)) s (.ok ref) t) :
    t = s.lending {ref} := by
  by_cases hsegments : "" ∈ segments path
  · rw [ctx.resolveName_of_empty hsegments] at hresolved
    exact absurd hresolved Comes.not_throw
  rcases s.longest_or_unknown (segments path) (segments path).length with
    ⟨count, module, hlongest⟩ | hunknown
  · have hcomes := ctx.comes_resolveName_along hready hcoherent hsegments depth hlongest
    cases halong : (Attribute.object module).along s.heap ((segments path).drop count) with
    | error d =>
        rw [halong] at hcomes
        rcases hcomes with ⟨h, hfailed, -⟩
        cases (hresolved.unique hfailed).1
    | ok a =>
        rw [halong] at hcomes
        rcases hresolved.unique hcomes with ⟨href, ht⟩
        cases a with
        | object other =>
            cases href
            exact ht
        | method receiver function =>
            -- A method is new, and its number was not given out before.
            cases href
            have hsize : (s.heap.lent {function, receiver}).slots.size = s.heap.slots.size :=
              Array.size_mapIdx
            have hdead := s.heap.fresh_dead Object.null
            unfold Heap.isLive at hlive
            have hfresh : ((Attribute.method receiver function).owned s.heap).1 =
                (s.heap.allocate Object.null).1 := congrArg Ref.mk hsize
            rw [hfresh, hdead] at hlive
            cases hlive
  · cases (hresolved.unique (ctx.comes_resolveName_unknown hready hcoherent hsegments hunknown)).1

/-- A name with an empty segment is refused before anything is asked.  Any other name is resolved from
the module of its longest prefix that is registered: along the attributes of its other segments to what
they lead to, of which a reference is held then and nothing else, or to the error of the first attribute
that is missing, after which all objects are as they were.  If no prefix is registered, the error is that
of its first segment.  No error is pending in the end. -/
theorem resolved_of_coherent (depth : Nat) (hready : s.Ready) (hcoherent : s.Coherent)
    (path : String) :
    ("" ∈ segments path → ctx.resolveName path = throw (.unsupported (.qualifiedName path))) ∧
    ("" ∉ segments path →
      (∀ count module, s.Longest (segments path) (segments path).length count module →
        match (Attribute.object module).along s.heap ((segments path).drop count) with
        | .ok a =>
          (Program.run (answer (run depth)) (fun _ => pure ()) (ctx.resolveName path).run).outcome s =
            (.ok (.ok (a.owned s.heap).1), s.withHeap (a.owned s.heap).2)
        | .error d =>
          ∃ h, (Program.run (answer (run depth)) (fun _ => pure ()) (ctx.resolveName path).run).outcome
              s = (.ok (.error (.foreignRuntime .getField d.text)), s.withHeap h) ∧
            ∀ ref, h.slot? ref = s.heap.slot? ref) ∧
      (s.Unknown (segments path) (segments path).length →
        (Program.run (answer (run depth)) (fun _ => pure ()) (ctx.resolveName path).run).outcome s =
          (.ok (.error (.foreignRuntime .importModule
            (unknownModule ((segments path).head (segments_ne_nil path))).text)), s))) := by
  refine ⟨ctx.resolveName_of_empty, fun hsegments => ⟨fun count module hlongest => ?_, ?_⟩⟩
  · have hcomes := ctx.comes_resolveName_along hready hcoherent hsegments depth hlongest
    cases halong : (Attribute.object module).along s.heap ((segments path).drop count) with
    | ok a =>
        rw [halong] at hcomes
        exact outcome_silent hcomes
    | error d =>
        rw [halong] at hcomes
        rcases hcomes with ⟨h, hfailed, hsame⟩
        exact ⟨h, outcome_silent hfailed, hsame⟩
  · exact fun hunknown =>
      outcome_silent (ctx.comes_resolveName_unknown hready hcoherent hsegments hunknown)

/-!
A text in a module inside a package, whose attribute of the module's name is something else.
-/

/-- A running runtime with a package and a module. -/
def samplePackage : Simulation where
  heap := ⟨#[none, some ⟨2, .null, Nat.two_pos⟩,
    some ⟨1, .moduleOf "a" (.ofList [("b", ⟨1⟩)]), Nat.one_pos⟩,
    some ⟨1, .moduleOf "a.b" (.ofList [("c", ⟨4⟩)]), Nat.one_pos⟩,
    some ⟨1, .text "d", Nat.one_pos⟩]⟩
  modules := .ofList [("a", ⟨2⟩), ("a.b", ⟨3⟩)]
  phase := .running
  startCount := 1
  refusesStart := false
  searchPaths := []
  pending := none
  called := []
  names := .empty

theorem coherent_samplePackage : samplePackage.Coherent where
  closed := by
    intro ref object hget child hchild
    match ref with
    | ⟨0⟩ => cases hget
    | ⟨1⟩ | ⟨4⟩ =>
        cases hget
        cases hchild
    | ⟨2⟩ =>
        cases hget
        rw [List.mem_singleton.1 hchild]
        exact ⟨_, rfl⟩
    | ⟨3⟩ =>
        cases hget
        rw [List.mem_singleton.1 hchild]
        exact ⟨_, rfl⟩
    | ⟨id + 5⟩ => cases hget
  registered := by
    intro name ref hfind
    have hmem : ref ∈ [(⟨2⟩ : Ref), ⟨3⟩] := Table.mem_values_of_find? hfind
    rcases List.mem_cons.1 hmem with rfl | hmem
    · exact ⟨_, rfl⟩
    · rw [List.mem_singleton.1 hmem]
      exact ⟨_, rfl⟩

theorem resolved_of_samplePackage :
    samplePackage.Ready ∧ samplePackage.Coherent ∧
      (Program.run (answer (run 1)) (fun _ => pure ())
          (resolveName ⟨0, "sim", {}, 1⟩ "a.b.c").run).outcome samplePackage =
        (.ok (.ok ⟨4⟩), samplePackage.lending {⟨4⟩}) := by
  have hready : samplePackage.Ready := ⟨rfl, rfl⟩
  have hsegments : segments "a.b.c" = ["a", "b", "c"] := by cbv
  have hlongest : samplePackage.Longest (segments "a.b.c") (segments "a.b.c").length 2 ⟨3⟩ := by
    rw [hsegments]
    refine ⟨Nat.two_pos, by decide, by cbv, fun more hmore hlimit => ?_⟩
    have hthree : more = 3 := by
      simp only [List.length_cons, List.length_nil] at hlimit
      omega
    rw [hthree]
    cbv
  have halong : (Attribute.object ⟨3⟩).along samplePackage.heap ((segments "a.b.c").drop 2) =
      .ok (.object ⟨4⟩) := by cbv
  have hresolved := ((resolved_of_coherent ⟨0, "sim", {}, 1⟩ 1 hready coherent_samplePackage
    "a.b.c").2 (by rw [hsegments]; decide)).1 2 ⟨3⟩ hlongest
  rw [halong] at hresolved
  exact ⟨hready, coherent_samplePackage, hresolved⟩

end Context
end ForeignBridge
