import ForeignBridge.Proofs.Crossing.Custodian
import ForeignBridge.Proofs.Crossing.Transcript

/-!
# Custody in the books of a runtime

Whatever a runtime answers, its books show at every moment that the bridge owns each object that it
mentions, unless it is the object of a handle of the same bridge that came with the request of the
host.
-/

namespace ForeignBridge

variable {σ α : Type} {own : Ref → Prop}

/-- All that was mentioned was owned then or lent, and the books show the references that are
held. -/
structure Entrusted (own : Ref → Prop) (held : List Ref) (transcript : List Asked) : Prop where
  covered : ∀ moment asked, transcript[moment]? = some asked → ∀ ref ∈ asked.request.mentions,
    0 < Asked.owned (transcript.take moment) ref ∨ own ref
  booked : ∀ ref, Asked.owned transcript ref = held.count ref

theorem entrusted_nil : Entrusted own [] [] := by
  constructor
  · intro moment asked hasked
    rw [List.getElem?_nil] at hasked
    cases hasked
  · exact fun _ => rfl

namespace Entrusted

variable {held : List Ref} {transcript : List Asked} {plain : Ref → Prop} {r : Request}

theorem covered_concat (h : Entrusted own held transcript)
    (hallowed : (custody false own).allows ⟨held, plain⟩ r) (answer : Option r.Answer) :
    ∀ moment (asked : Asked), (transcript ++ [Asked.mk r answer])[moment]? = some asked →
      ∀ ref ∈ asked.request.mentions,
        0 < Asked.owned ((transcript ++ [Asked.mk r answer]).take moment) ref ∨ own ref := by
  intro moment asked hasked ref href
  rcases Nat.lt_trichotomy moment transcript.length with hearlier | hnow | hlater
  · rw [List.getElem?_append_left hearlier] at hasked
    rw [List.take_append_of_le_length (Nat.le_of_lt hearlier)]
    exact h.covered moment asked hasked ref href
  · rw [hnow, List.getElem?_concat_length] at hasked
    cases hasked
    rw [hnow, List.take_left]
    rcases hallowed.2 ref href with hheld | hown
    · have hcount : 0 < held.count ref := List.count_pos_iff.2 hheld
      rw [h.booked ref]
      exact .inl (by omega)
    · exact .inr hown
  · rw [List.getElem?_eq_none (by rw [List.length_append]; exact hlater)] at hasked
    cases hasked

theorem answered (h : Entrusted own held transcript)
    (hallowed : (custody false own).allows ⟨held, plain⟩ r) (answer : r.Answer) :
    Entrusted own (Program.heldAfter held r answer) (transcript ++ [⟨r, some answer⟩]) := by
  constructor
  · exact h.covered_concat hallowed (some answer)
  · intro ref
    rw [Asked.owned_answered, h.booked ref, count_heldAfter answer (fun other hother =>
      hallowed.1 other hother) ref]

theorem unanswered (h : Entrusted own held transcript)
    (hallowed : (custody false own).allows ⟨held, plain⟩ r) :
    Entrusted own held (transcript ++ [⟨r, none⟩]) := by
  constructor
  · exact h.covered_concat hallowed none
  · intro ref
    rw [Asked.owned_unanswered, h.booked ref]

end Entrusted

variable (answer : (r : Request) → Attempt σ r.Answer) (record : Event → StateM σ Unit)

theorem runHolding_entrusted (s : σ) {post : α → Holding → Prop} {p : Program α} {held : List Ref}
    {plain : Ref → Prop} {transcript : List Asked}
    (hp : p.Follows (custody false own) post ⟨held, plain⟩)
    (hbooks : Entrusted own held transcript) :
    match (p.runHolding (transcribed answer) (beside record) held).run (s, transcript) with
    | ((_, held'), (_, transcript')) => Entrusted own held' transcript' := by
  induction p generalizing held s transcript plain with
  | done result => exact hbooks
  | abort panic => exact hbooks
  | ask r next ih =>
      rw [Program.runHolding_ask, outcome_transcribed]
      rcases (answer r).outcome s with ⟨outcome, s'⟩
      cases outcome with
      | ok given =>
          have hheld : ∀ ref ∈ r.returned, ref ∈ held := fun ref href => hp.1.1 ref href
          have hnext : (custody false own).next ⟨held, plain⟩ r given
              ⟨(Program.heldAfter held r given : List Ref), fun ref => plain ref ∨ r.tells given ref⟩ :=
            ⟨next_heldAfter given hheld, rfl, nofun⟩
          exact ih given s' (hp.2 given _ hnext) (hbooks.answered hp.1 given)
      | error panic => exact hbooks.unanswered hp.1
  | note event next ih => exact ih ((record event).run s).2 hp hbooks

theorem unwind_entrusted (held : List Ref) {s : σ} {transcript : List Asked}
    (hbooks : Entrusted own held transcript) :
    ∃ held', Entrusted own held'
      (((Program.unwind (transcribed answer) held).run (s, transcript)).2).2 := by
  induction held generalizing s transcript with
  | nil => exact ⟨[], hbooks⟩
  | cons ref rest ih =>
      have hmem : ∀ other ∈ [ref], other ∈ ((ref :: rest : List Ref) : Multiset Ref) :=
        fun other hother => by
          rw [List.mem_singleton.1 hother]
          exact List.mem_cons_self
      have hallowed : (custody false own).allows ⟨(ref :: rest : List Ref), fun _ => False⟩
          (.release ref) :=
        ⟨fun other hother => hmem other (List.mem_singleton.2 (Option.some.inj hother).symm),
          fun other hother => .inl (hmem other hother)⟩
      rw [Program.unwind_cons, outcome_transcribed]
      rcases (answer (.release ref)).outcome s with ⟨outcome, s'⟩
      cases outcome with
      | ok given =>
          have hrest : Program.heldAfter (ref :: rest) (.release ref) given = rest := by
            show [] ++ (ref :: rest).erase ref = rest
            rw [List.nil_append, List.erase_cons_head]
          have hafter := hbooks.answered hallowed given
          rw [hrest] at hafter
          exact ih hafter
      | error panic => exact ⟨ref :: rest, hbooks.unanswered hallowed⟩

/-- At every moment of a run, what is mentioned is owned by the books, or lent. -/
theorem run_entrusted (s : σ) {post : α → Holding → Prop} {p : Program α} {plain : Ref → Prop}
    (hp : p.Follows (custody false own) post ⟨0, plain⟩) :
    ∃ held, Entrusted own held (p.transcript answer record s) := by
  have hholding := runHolding_entrusted answer record s hp entrusted_nil
  unfold Program.transcript
  rw [Program.outcome_run]
  rcases hrun : (p.runHolding (transcribed answer) (beside record) []).run (s, []) with
    ⟨⟨outcome, held⟩, s', transcript⟩
  rw [hrun] at hholding
  cases outcome with
  | ok a => exact ⟨held, hholding⟩
  | error panic => exact unwind_entrusted answer held hholding

/-- The objects of the handles of a bridge that come with a request of the host. -/
def Entry.Names (entry : Entry) (bridge : Nat) (ref : Ref) : Prop :=
  ∃ h ∈ entry.handles, h.context = bridge ∧ h.ref = ref

/-- Whatever a runtime answers to a request of the host, what is mentioned at some moment is owned
then, or is the object of a handle of the bridge that came with the request. -/
theorem entrusted_serve (ctx : Context) (entry : Entry) (s : σ) {moment : Nat} {asked : Asked}
    (hasked : ((ctx.serve entry).run.transcript answer record s)[moment]? = some asked) {ref : Ref}
    (href : ref ∈ asked.request.mentions) :
    0 < Asked.owned (((ctx.serve entry).run.transcript answer record s).take moment) ref ∨
      entry.Names ctx.id ref := by
  have hlends : ctx.Lends ⟨entry.Names ctx.id, fun _ => False⟩ entry.handles :=
    fun h hh hown => ⟨h, hh, hown, rfl⟩
  have hcustody : Crossing.Custody false (entry.Names ctx.id) ⟨entry.Names ctx.id, fun _ => False⟩ 0
      (ctx.serve entry) fun reply => (reply.refs : Multiset Ref) := ctx.custody_serve entry hlends
  have hfollows := hcustody 0 (fun _ => False) (fun _ h => .inr h) fun _ h => h
  rw [zero_add] at hfollows
  rcases run_entrusted answer record s hfollows with ⟨held, hbooks⟩
  exact hbooks.covered moment asked hasked ref href

end ForeignBridge
