import ForeignBridge.Crossing.Report
import ForeignBridge.Crossing.Run

/-!
# Protocols

A protocol is what one side of a conversation with a runtime may rely on: which requests are in
order at a moment, and what an answer makes of that moment.  A program follows a protocol if it
asks only requests that are in order, whatever the runtime answers within the protocol.  This is a
property of the tree of a program; a runtime that keeps the protocol on its side then gives every
run of the program the property in question.
-/

namespace ForeignBridge

/-- A request with the answer that it got. -/
structure Exchange where
  request : Request
  answer : request.Answer

/-- A protocol between programs and runtimes, over the moments of their conversation. -/
structure Protocol (γ : Type) where
  /-- The requests that are in order. -/
  allows : γ → Request → Prop
  /-- The answers to a request that is in order, and the moments after them. -/
  next : γ → (r : Request) → r.Answer → γ → Prop
  /-- The panics by which the conversation may be broken off. -/
  breaksOff : Panic → Prop

variable {γ α β σ : Type}

namespace Program

/-- A program asks only what a protocol allows, and ends in a moment after its own liking. -/
def Follows (P : Protocol γ) (post : α → γ → Prop) : Program α → γ → Prop
  | done result, g => post result g
  | abort panic, _ => P.breaksOff panic
  | ask r next, g => P.allows g r ∧ ∀ answer g', P.next g r answer g' → Follows P post (next answer) g'
  | note _ next, g => Follows P post next g

variable {P : Protocol γ}

theorem follows_mono {post post' : α → γ → Prop} (himp : ∀ a g, post a g → post' a g)
    {p : Program α} {g : γ} (h : p.Follows P post g) : p.Follows P post' g := by
  induction p generalizing g with
  | done result => exact himp result g h
  | abort panic => exact h
  | ask r next ih => exact ⟨h.1, fun answer g' hnext => ih answer (h.2 answer g' hnext)⟩
  | note event next ih => exact ih h

theorem follows_bind {post : β → γ → Prop} {p : Program α} {f : α → Program β} {g : γ} :
    (p.bind f).Follows P post g ↔ p.Follows P (fun a g' => (f a).Follows P post g') g := by
  induction p generalizing g with
  | done result => exact Iff.rfl
  | abort panic => exact Iff.rfl
  | ask r next ih =>
      constructor
      · intro h
        exact ⟨h.1, fun answer g' hnext => (ih answer).1 (h.2 answer g' hnext)⟩
      · intro h
        exact ⟨h.1, fun answer g' hnext => (ih answer).2 (h.2 answer g' hnext)⟩
  | note event next ih => exact ih

end Program

/-!
# Crossings

A crossing ends in one of two ways, so what it reaches is said for both of them.
-/

namespace Crossing

/-- A crossing follows a protocol and ends with a result or an error after its own liking. -/
def Follows (P : Protocol γ) (ok : α → γ → Prop) (failed : BridgeError → γ → Prop)
    (c : Crossing α) (g : γ) : Prop :=
  Program.Follows P
    (fun outcome g' => match outcome with
      | .ok a => ok a g'
      | .error e => failed e g')
    c.run g

variable {P : Protocol γ} {ok ok' : α → γ → Prop} {failed failed' : BridgeError → γ → Prop} {g : γ}

theorem follows_mono (hok : ∀ a g, ok a g → ok' a g)
    (hfailed : ∀ e g, failed e g → failed' e g) {c : Crossing α} (h : c.Follows P ok failed g) :
    c.Follows P ok' failed' g := by
  refine Program.follows_mono (fun outcome g' hpost => ?_) h
  cases outcome with
  | ok a => exact hok a g' hpost
  | error e => exact hfailed e g' hpost

@[simp] theorem follows_pure {a : α} :
    (pure a : Crossing α).Follows P ok failed g ↔ ok a g := Iff.rfl

@[simp] theorem follows_throw {e : BridgeError} :
    (throw e : Crossing α).Follows P ok failed g ↔ failed e g := Iff.rfl

@[simp] theorem follows_abort {panic : Panic} :
    (abort panic : Crossing α).Follows P ok failed g ↔ P.breaksOff panic := Iff.rfl

@[simp] theorem follows_note {event : Event} {ok : Unit → γ → Prop} :
    (note event).Follows P ok failed g ↔ ok () g := Iff.rfl

@[simp] theorem follows_ask {r : Request} {ok : r.Answer → γ → Prop} :
    (ask r).Follows P ok failed g ↔
      P.allows g r ∧ ∀ answer g', P.next g r answer g' → ok answer g' := Iff.rfl

theorem run_bind (c : Crossing α) (f : α → Crossing β) :
    (c >>= f).run = c.run.bind fun
      | .ok a => (f a).run
      | .error e => .done (.error e) := by
  refine congrArg (Program.bind c.run) (funext fun outcome => ?_)
  cases outcome <;> rfl

theorem follows_bind {ok : β → γ → Prop} {c : Crossing α} {f : α → Crossing β} :
    (c >>= f).Follows P ok failed g ↔
      c.Follows P (fun a g' => (f a).Follows P ok failed g') failed g := by
  unfold Follows
  rw [run_bind, Program.follows_bind]
  constructor
  · intro h
    refine Program.follows_mono (fun outcome g' hpost => ?_) h
    cases outcome with
    | ok a => exact hpost
    | error e => exact hpost
  · intro h
    refine Program.follows_mono (fun outcome g' hpost => ?_) h
    cases outcome with
    | ok a => exact hpost
    | error e => exact hpost

/-- Giving references back never fails. -/
theorem follows_releaseAll {refs : List Ref} {ok : Unit → γ → Prop} :
    (releaseAll refs).Follows P ok failed g ↔
      (Program.releaseAll refs).Follows P ok g := by
  have hrun : (releaseAll refs).run = (Program.releaseAll refs).bind fun a => .done (.ok a) := rfl
  unfold Follows
  rw [hrun, Program.follows_bind]
  rfl

theorem run_owningAll (refs : List Ref) (body : Crossing α) :
    (owningAll refs body).run = body.run.bind fun outcome =>
      (Program.releaseAll refs).bind fun _ => .done outcome := rfl

theorem follows_owningAll {refs : List Ref} {body : Crossing α} :
    (owningAll refs body).Follows P ok failed g ↔
      body.Follows P
        (fun a g' => (Program.releaseAll refs).Follows P (fun _ => ok a) g')
        (fun e g' => (Program.releaseAll refs).Follows P (fun _ => failed e) g') g := by
  unfold Follows
  rw [run_owningAll, Program.follows_bind]
  constructor
  · intro h
    refine Program.follows_mono (fun outcome g' hpost => ?_) h
    rw [Program.follows_bind] at hpost
    cases outcome with
    | ok a => exact hpost
    | error e => exact hpost
  · intro h
    refine Program.follows_mono (fun outcome g' hpost => ?_) h
    rw [Program.follows_bind]
    cases outcome with
    | ok a => exact hpost
    | error e => exact hpost

theorem run_keeping (refs : List Ref) (body : Crossing α) :
    (keeping refs body).run = body.run.bind fun
      | .ok result => .done (.ok result)
      | .error error => (Program.releaseAll refs).bind fun _ => .done (.error error) := by
  refine congrArg (Program.bind body.run) (funext fun outcome => ?_)
  cases outcome <;> rfl

theorem follows_keeping {refs : List Ref} {body : Crossing α} :
    (keeping refs body).Follows P ok failed g ↔
      body.Follows P ok
        (fun e g' => (Program.releaseAll refs).Follows P (fun _ => failed e) g') g := by
  unfold Follows
  rw [run_keeping, Program.follows_bind]
  constructor
  · intro h
    refine Program.follows_mono (fun outcome g' hpost => ?_) h
    cases outcome with
    | ok a => exact hpost
    | error e => exact Program.follows_bind.1 hpost
  · intro h
    refine Program.follows_mono (fun outcome g' hpost => ?_) h
    cases outcome with
    | ok a => exact hpost
    | error e => exact Program.follows_bind.2 hpost

end Crossing

/-!
# Protocols together

A program that follows two protocols follows both at once.  Where a runtime may do something that is
not followed any further, nothing is said from then on.
-/

namespace Protocol

variable {δ : Type}

/-- Two protocols at once. -/
def beside (P : Protocol γ) (Q : Protocol δ) : Protocol (γ × δ) where
  allows g r := P.allows g.1 r ∧ Q.allows g.2 r
  next g r answer g' := P.next g.1 r answer g'.1 ∧ Q.next g.2 r answer g'.2
  breaksOff panic := P.breaksOff panic ∧ Q.breaksOff panic

/-- A protocol of which the thread may be lost. -/
def orLost (P : Protocol γ) : Protocol (Option γ) where
  allows g r := ∀ moment ∈ g, P.allows moment r
  next g r answer g' := ∀ later ∈ g', ∃ moment ∈ g, P.next moment r answer later
  breaksOff _ := True

end Protocol

namespace Program

variable {δ : Type} {P : Protocol γ} {Q : Protocol δ} {post : α → γ → Prop} {p : Program α} {g : γ}

theorem follows_beside {post' : α → δ → Prop} {d : δ} (hP : p.Follows P post g)
    (hQ : p.Follows Q post' d) :
    p.Follows (P.beside Q) (fun a moment => post a moment.1 ∧ post' a moment.2) (g, d) := by
  induction p generalizing g d with
  | done result => exact ⟨hP, hQ⟩
  | abort panic => exact ⟨hP, hQ⟩
  | ask r next ih =>
      refine ⟨⟨hP.1, hQ.1⟩, fun answer moment hnext => ?_⟩
      exact ih answer (hP.2 answer moment.1 hnext.1) (hQ.2 answer moment.2 hnext.2)
  | note event next ih => exact ih hP hQ

theorem follows_lost (p : Program α) :
    p.Follows P.orLost (fun a g' => ∀ moment ∈ g', post a moment) none := by
  induction p with
  | done result => exact nofun
  | abort panic => trivial
  | ask r next ih =>
      refine ⟨nofun, fun answer g' hnext => ?_⟩
      cases g' with
      | none => exact ih answer
      | some later =>
          rcases hnext later rfl with ⟨moment, hmoment, -⟩
          cases hmoment
  | note event next ih => exact ih

theorem follows_orLost (h : p.Follows P post g) :
    p.Follows P.orLost (fun a g' => ∀ moment ∈ g', post a moment) (some g) := by
  induction p generalizing g with
  | done result =>
      intro moment hmoment
      cases hmoment
      exact h
  | abort panic => trivial
  | ask r next ih =>
      constructor
      · intro moment hmoment
        cases hmoment
        exact h.1
      · intro answer g' hnext
        cases g' with
        | none => exact follows_lost (next answer)
        | some later =>
            rcases hnext later rfl with ⟨moment, hmoment, hlater⟩
            cases hmoment
            exact ih answer (h.2 answer later hlater)
  | note event next ih => exact ih h

end Program

/-!
# Runs

A runtime keeps a protocol if an invariant ties its states to the moments of the conversation and
every answer leads on within the protocol.  A run of a program then ends where the program wants.
What is left of the invariant after a panic has to survive the references that are given back then.
-/

/-- A runtime answers within a protocol, and panics only as the conversation may be broken off. -/
structure Protocol.KeptBy (P : Protocol γ) (answer : (r : Request) → Attempt σ r.Answer)
    (inv : γ → σ → Prop) (broken : σ → Prop) : Prop where
  answers : ∀ g s r, inv g s → P.allows g r →
    match (answer r).outcome s with
    | (.ok given, s') => ∃ g', P.next g r given g' ∧ inv g' s'
    | (.error panic, s') => P.breaksOff panic ∧ broken s'
  breaks : ∀ g s, inv g s → broken s
  unwinds : ∀ s ref, broken s → broken ((answer (.release ref)).outcome s).2

namespace Program

theorem runHolding_ask (answer : (r : Request) → Attempt σ r.Answer)
    (record : Event → StateM σ Unit) (held : List Ref) (r : Request)
    (next : r.Answer → Program α) (s : σ) :
    (runHolding answer record held (ask r next)).run s =
      match (answer r).outcome s with
      | (.ok given, s') => (runHolding answer record (heldAfter held r given) (next given)).run s'
      | (.error panic, s') => ((.error panic, held), s') := by
  rw [runHolding, StateT.run_bind]
  unfold Attempt.outcome
  rcases (answer r).run.run s with ⟨outcome, s'⟩
  cases outcome with
  | ok given => rfl
  | error panic => rfl

theorem unwind_cons (answer : (r : Request) → Attempt σ r.Answer) (ref : Ref) (rest : List Ref)
    (s : σ) :
    (unwind answer (ref :: rest)).run s =
      match (answer (.release ref)).outcome s with
      | (.ok _, s') => (unwind answer rest).run s'
      | (.error _, s') => ((), s') := by
  rw [unwind, StateT.run_bind]
  unfold Attempt.outcome
  rcases (answer (.release ref)).run.run s with ⟨outcome, s'⟩
  cases outcome with
  | ok given => rfl
  | error panic => rfl

theorem outcome_run (answer : (r : Request) → Attempt σ r.Answer) (record : Event → StateM σ Unit)
    (p : Program α) (s : σ) :
    (p.run answer record).outcome s =
      match (p.runHolding answer record []).run s with
      | ((.ok a, _), s') => (.ok a, s')
      | ((.error panic, held), s') => (.error panic, ((unwind answer held).run s').2) := by
  unfold Program.run Attempt.outcome
  rw [ExceptT.run_mk, StateT.run_bind]
  rcases (p.runHolding answer record []).run s with ⟨⟨outcome, held⟩, s'⟩
  cases outcome with
  | ok a => rfl
  | error panic => rfl

variable {P : Protocol γ} {answer : (r : Request) → Attempt σ r.Answer}
  {record : Event → StateM σ Unit} {inv : γ → σ → Prop} {broken : σ → Prop}

theorem runHolding_follows (hkept : P.KeptBy answer inv broken)
    (hrecord : ∀ event g s, inv g s → inv g ((record event).run s).2)
    {post : α → γ → Prop} {p : Program α} {g : γ} {s : σ} (held : List Ref)
    (hp : p.Follows P post g) (hinv : inv g s) :
    match (p.runHolding answer record held).run s with
    | ((.ok a, _), s') => ∃ g', post a g' ∧ inv g' s'
    | ((.error panic, _), s') => P.breaksOff panic ∧ broken s' := by
  induction p generalizing g s held with
  | done result => exact ⟨g, hp, hinv⟩
  | abort panic => exact ⟨hp, hkept.breaks g s hinv⟩
  | ask r next ih =>
      have hanswer := hkept.answers g s r hinv hp.1
      rw [runHolding_ask]
      rcases houtcome : (answer r).outcome s with ⟨outcome, s'⟩
      rw [houtcome] at hanswer
      cases outcome with
      | ok given =>
          rcases hanswer with ⟨g', hnext, hinv'⟩
          exact ih given (heldAfter held r given) (hp.2 given g' hnext) hinv'
      | error panic => exact hanswer
  | note event next ih => exact ih held hp (hrecord event g s hinv)

theorem unwind_broken (hkept : P.KeptBy answer inv broken) (held : List Ref) {s : σ}
    (hbroken : broken s) : broken ((unwind answer held).run s).2 := by
  induction held generalizing s with
  | nil => exact hbroken
  | cons ref rest ih =>
      have hafter := hkept.unwinds s ref hbroken
      rw [unwind_cons]
      rcases houtcome : (answer (.release ref)).outcome s with ⟨outcome, s'⟩
      rw [houtcome] at hafter
      cases outcome with
      | ok given => exact ih hafter
      | error panic => exact hafter

/-- A program that follows a protocol ends after its own liking in every runtime that keeps it. -/
theorem run_follows (hkept : P.KeptBy answer inv broken)
    (hrecord : ∀ event g s, inv g s → inv g ((record event).run s).2)
    {post : α → γ → Prop} {p : Program α} {g : γ} {s : σ}
    (hp : p.Follows P post g) (hinv : inv g s) :
    match (p.run answer record).outcome s with
    | (.ok a, s') => ∃ g', post a g' ∧ inv g' s'
    | (.error panic, s') => P.breaksOff panic ∧ broken s' := by
  have hholding := runHolding_follows hkept hrecord [] hp hinv
  rw [outcome_run]
  rcases houtcome : (p.runHolding answer record []).run s with ⟨⟨outcome, held⟩, s'⟩
  rw [houtcome] at hholding
  cases outcome with
  | ok a => exact hholding
  | error panic => exact ⟨hholding.1, unwind_broken hkept held hholding.2⟩

/-!
A runtime may be replaced by one that answers the same whenever it is asked within the protocol.
-/

section Replaced

variable {other : (r : Request) → Attempt σ r.Answer}

theorem runHolding_congr (hkept : P.KeptBy answer inv broken)
    (hrecord : ∀ event g s, inv g s → inv g ((record event).run s).2)
    (hsame : ∀ g s r, inv g s → P.allows g r → (other r).outcome s = (answer r).outcome s)
    {post : α → γ → Prop} {p : Program α} {g : γ} {s : σ} (held : List Ref)
    (hp : p.Follows P post g) (hinv : inv g s) :
    (p.runHolding other record held).run s = (p.runHolding answer record held).run s := by
  induction p generalizing g s held with
  | done result => rfl
  | abort panic => rfl
  | ask r next ih =>
      have hanswer := hkept.answers g s r hinv hp.1
      rw [runHolding_ask, runHolding_ask, hsame g s r hinv hp.1]
      rcases houtcome : (answer r).outcome s with ⟨outcome, s'⟩
      rw [houtcome] at hanswer
      cases outcome with
      | ok given =>
          rcases hanswer with ⟨g', hnext, hinv'⟩
          exact ih given (heldAfter held r given) (hp.2 given g' hnext) hinv'
      | error panic => rfl
  | note event next ih => exact ih held hp (hrecord event g s hinv)

theorem run_congr (hkept : P.KeptBy answer inv broken)
    (hrecord : ∀ event g s, inv g s → inv g ((record event).run s).2)
    (hsame : ∀ g s r, inv g s → P.allows g r → (other r).outcome s = (answer r).outcome s)
    (hrelease : ∀ ref, other (.release ref) = answer (.release ref))
    {post : α → γ → Prop} {p : Program α} {g : γ} {s : σ} (hp : p.Follows P post g)
    (hinv : inv g s) : (p.run other record).outcome s = (p.run answer record).outcome s := by
  have hunwind : ∀ held, unwind other held = unwind answer held := by
    intro held
    induction held with
    | nil => rfl
    | cons ref rest ih => rw [unwind, unwind, hrelease, ih]
  rw [outcome_run, outcome_run, runHolding_congr hkept hrecord hsame [] hp hinv]
  simp only [hunwind]

end Replaced

end Program
end ForeignBridge
