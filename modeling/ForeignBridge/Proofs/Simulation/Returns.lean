import ForeignBridge.Foreign.Panic

/-!
# What a computation returns

A statement about the result of a computation that may panic, which says nothing about a panic.
-/

namespace ForeignBridge
namespace Attempt

variable {σ α β : Type}

/-- If a computation returns, its result and the state after it are as wanted. -/
def Returns (attempt : Attempt σ α) (s : σ) (post : α → σ → Prop) : Prop :=
  match attempt.outcome s with
  | (.ok a, s') => post a s'
  | (.error _, _) => True

theorem returns_of_outcome {attempt : Attempt σ α} {s s' : σ} {a : α} {post : α → σ → Prop}
    (h : attempt.Returns s post) (houtcome : attempt.outcome s = (.ok a, s')) : post a s' := by
  unfold Returns at h
  rw [houtcome] at h
  exact h

theorem returns_mono {attempt : Attempt σ α} {s : σ} {post post' : α → σ → Prop}
    (himp : ∀ a s', post a s' → post' a s') (h : attempt.Returns s post) :
    attempt.Returns s post' := by
  unfold Returns at h ⊢
  rcases houtcome : attempt.outcome s with ⟨outcome, s'⟩
  rw [houtcome] at h
  cases outcome with
  | ok a => exact himp a s' h
  | error panic => trivial

theorem returns_and {attempt : Attempt σ α} {s : σ} {post post' : α → σ → Prop}
    (h : attempt.Returns s post) (h' : attempt.Returns s post') :
    attempt.Returns s fun a s' => post a s' ∧ post' a s' := by
  unfold Returns at h h' ⊢
  rcases houtcome : attempt.outcome s with ⟨outcome, s'⟩
  rw [houtcome] at h h'
  cases outcome with
  | ok a => exact ⟨h, h'⟩
  | error panic => trivial

theorem returns_pure {a : α} {s : σ} {post : α → σ → Prop} :
    (pure a : Attempt σ α).Returns s post ↔ post a s := Iff.rfl

theorem returns_throw {panic : Panic} {s : σ} {post : α → σ → Prop} :
    (throw panic : Attempt σ α).Returns s post := trivial

theorem returns_get {s : σ} {post : σ → σ → Prop} :
    (get : Attempt σ σ).Returns s post ↔ post s s := Iff.rfl

theorem returns_set {s s' : σ} {post : PUnit → σ → Prop} :
    (set s' : Attempt σ PUnit).Returns s post ↔ post ⟨⟩ s' := Iff.rfl

theorem returns_modify {f : σ → σ} {s : σ} {post : PUnit → σ → Prop} :
    (modify f : Attempt σ PUnit).Returns s post ↔ post ⟨⟩ (f s) := Iff.rfl

theorem outcome_bind (attempt : Attempt σ α) (f : α → Attempt σ β) (s : σ) :
    (attempt >>= f).outcome s =
      match attempt.outcome s with
      | (.ok a, s') => (f a).outcome s'
      | (.error panic, s') => (.error panic, s') := by
  unfold outcome
  rw [ExceptT.run_bind, StateT.run_bind]
  rcases attempt.run.run s with ⟨outcome, s'⟩
  cases outcome with
  | ok a => rfl
  | error panic => rfl

theorem outcome_get_bind (f : σ → Attempt σ α) (s : σ) :
    (get >>= f).outcome s = (f s).outcome s := rfl

theorem returns_bind {attempt : Attempt σ α} {f : α → Attempt σ β} {s : σ}
    {post : β → σ → Prop} :
    (attempt >>= f).Returns s post ↔ attempt.Returns s fun a s' => (f a).Returns s' post := by
  unfold Returns
  rw [outcome_bind]
  rcases attempt.outcome s with ⟨outcome, s'⟩
  cases outcome with
  | ok a => exact Iff.rfl
  | error panic => exact Iff.rfl

end Attempt
end ForeignBridge
