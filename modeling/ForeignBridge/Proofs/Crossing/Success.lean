import ForeignBridge.Proofs.Crossing.Protocol

/-!
# Runs that succeed

Where it is known how a runtime answers, a run of a program can be followed to its end.  A run that
succeeds is a derivation, one step for each request, and a crossing reaches what it is to reach if
there is such a run to a result.
-/

namespace ForeignBridge

variable {σ α β : Type}

/-- A run of a program against a runtime, from one state of it to another. -/
inductive Program.Succeeds (answer : (r : Request) → Attempt σ r.Answer) :
    Program α → σ → α → σ → Prop where
  | done (a : α) (s : σ) : Succeeds answer (.done a) s a s
  | ask {r : Request} {next : r.Answer → Program α} {given : r.Answer} {a : α} {s s' s'' : σ}
      (hanswer : (answer r).outcome s = (.ok given, s'))
      (hnext : Succeeds answer (next given) s' a s'') : Succeeds answer (.ask r next) s a s''
  | note {event : Event} {next : Program α} {a : α} {s s' : σ}
      (hnext : Succeeds answer next s a s') : Succeeds answer (.note event next) s a s'

variable {answer : (r : Request) → Attempt σ r.Answer}

theorem Program.Succeeds.bind {p : Program α} {f : α → Program β} {a : α} {b : β} {s s' s'' : σ}
    (hp : p.Succeeds answer s a s') (hf : (f a).Succeeds answer s' b s'') :
    (p.bind f).Succeeds answer s b s'' := by
  induction hp with
  | done a s => exact hf
  | ask hanswer _ ih => exact .ask hanswer (ih hf)
  | note _ ih => exact .note (ih hf)

/-- A program succeeds in a state of a runtime, with a result and a state as wanted. -/
def Program.Reaches (answer : (r : Request) → Attempt σ r.Answer) (p : Program α) (s : σ)
    (post : α → σ → Prop) : Prop :=
  ∃ a s', p.Succeeds answer s a s' ∧ post a s'

theorem Program.reaches_releaseAll_cons {ref : Ref} {rest : List Ref} {s s' : σ}
    {post : Unit → σ → Prop} (hanswer : (answer (.release ref)).outcome s = (.ok (), s'))
    (h : (releaseAll rest).Reaches answer s' post) :
    (releaseAll (ref :: rest)).Reaches answer s post := by
  rcases h with ⟨a, s'', hrun, hpost⟩
  exact ⟨a, s'', .ask hanswer hrun, hpost⟩

namespace Crossing

/-- A crossing comes to an outcome, which may be an error, and leaves the runtime in a state. -/
def Comes (answer : (r : Request) → Attempt σ r.Answer) (c : Crossing α) (s : σ)
    (outcome : Except BridgeError α) (s' : σ) : Prop :=
  Program.Succeeds answer c.run s outcome s'

namespace Comes

variable {s s' s'' : σ} {c : Crossing α} {outcome : Except BridgeError α} {error : BridgeError}

theorem pure {a : α} : Comes answer (pure a) s (.ok a) s := .done _ s

theorem throw : Comes answer (throw error : Crossing α) s (.error error) s := .done _ s

theorem bind {a : α} {f : α → Crossing β} {outcome : Except BridgeError β}
    (h : Comes answer c s (.ok a) s') (hf : Comes answer (f a) s' outcome s'') :
    Comes answer (c >>= f) s outcome s'' := by
  unfold Comes
  rw [run_bind]
  exact Program.Succeeds.bind h hf

theorem bind_error {f : α → Crossing β} (h : Comes answer c s (.error error) s') :
    Comes answer (c >>= f) s (.error error) s' := by
  unfold Comes
  rw [run_bind]
  exact Program.Succeeds.bind h (.done _ s')

theorem map {f : α → β} (h : Comes answer c s outcome s') :
    Comes answer (c >>= fun a => Pure.pure (f a)) s (outcome.map f) s' := by
  cases outcome with
  | ok a => exact h.bind pure
  | error error => exact h.bind_error

theorem ask {r : Request} {given : r.Answer} (hanswer : (answer r).outcome s = (.ok given, s')) :
    Comes answer (Crossing.ask r) s (.ok given) s' :=
  Program.Succeeds.ask hanswer (.done _ s')

theorem note {event : Event} : Comes answer (Crossing.note event) s (.ok ()) s :=
  Program.Succeeds.note (.done _ s)

theorem releaseAll {refs : List Ref} (h : (Program.releaseAll refs).Succeeds answer s () s') :
    Comes answer (Crossing.releaseAll refs) s (.ok ()) s' :=
  Program.Succeeds.bind h (.done _ s')

theorem owningAll {refs : List Ref} (h : Comes answer c s outcome s')
    (hrelease : (Program.releaseAll refs).Succeeds answer s' () s'') :
    Comes answer (Crossing.owningAll refs c) s outcome s'' :=
  Program.Succeeds.bind h (hrelease.bind (.done _ s''))

theorem keeping {refs : List Ref} {a : α} (h : Comes answer c s (.ok a) s') :
    Comes answer (Crossing.keeping refs c) s (.ok a) s' :=
  Program.Succeeds.bind h (.done _ s')

theorem keeping_error {refs : List Ref} (h : Comes answer c s (.error error) s')
    (hrelease : (Program.releaseAll refs).Succeeds answer s' () s'') :
    Comes answer (Crossing.keeping refs c) s (.error error) s'' :=
  Program.Succeeds.bind h (hrelease.bind (.done _ s''))

end Comes

/-- A crossing succeeds in a state of a runtime, with a result and a state as wanted. -/
def Reaches (answer : (r : Request) → Attempt σ r.Answer) (c : Crossing α) (s : σ)
    (post : α → σ → Prop) : Prop :=
  ∃ a s', Program.Succeeds answer c.run s (.ok a) s' ∧ post a s'

namespace Reaches

variable {s : σ} {post : α → σ → Prop} {c : Crossing α}

theorem pure {a : α} (h : post a s) : Reaches answer (pure a) s post :=
  ⟨a, s, Comes.pure, h⟩

theorem bind {post : β → σ → Prop} {f : α → Crossing β}
    (h : Reaches answer c s fun a s' => Reaches answer (f a) s' post) :
    Reaches answer (c >>= f) s post := by
  rcases h with ⟨a, s', hrun, b, s'', hrest, hpost⟩
  exact ⟨b, s'', Comes.bind hrun hrest, hpost⟩

theorem ask {r : Request} {given : r.Answer} {s' : σ} {post : r.Answer → σ → Prop}
    (hanswer : (answer r).outcome s = (.ok given, s')) (h : post given s') :
    Reaches answer (Crossing.ask r) s post :=
  ⟨given, s', Comes.ask hanswer, h⟩

theorem note {event : Event} {post : Unit → σ → Prop} (h : post () s) :
    Reaches answer (Crossing.note event) s post :=
  ⟨(), s, Comes.note, h⟩

theorem releaseAll {refs : List Ref} {post : Unit → σ → Prop}
    (h : (Program.releaseAll refs).Reaches answer s post) :
    Reaches answer (Crossing.releaseAll refs) s post := by
  rcases h with ⟨u, s', hrun, hpost⟩
  exact ⟨u, s', Comes.releaseAll hrun, hpost⟩

theorem owningAll {refs : List Ref} (h : Reaches answer c s fun a s' =>
      (Program.releaseAll refs).Reaches answer s' fun _ s'' => post a s'') :
    Reaches answer (Crossing.owningAll refs c) s post := by
  rcases h with ⟨a, s', hrun, u, s'', hrelease, hpost⟩
  exact ⟨a, s'', Comes.owningAll hrun hrelease, hpost⟩

theorem keeping {refs : List Ref} (h : Reaches answer c s post) :
    Reaches answer (Crossing.keeping refs c) s post := by
  rcases h with ⟨a, s', hrun, hpost⟩
  exact ⟨a, s', Comes.keeping hrun, hpost⟩

end Reaches
end Crossing

/-- A foreign failure ends a crossing, whether it is logged or not. -/
theorem Context.comes_fail (ctx : Context) {s : σ} (operation : Operation)
    (diagnostic : Option Diagnostic) :
    (ctx.fail operation diagnostic : Crossing α).Comes answer s
      (.error (.foreignRuntime operation (failureText diagnostic))) s := by
  unfold fail
  dsimp only
  cases ctx.settings.debug with
  | false => exact Crossing.Comes.throw
  | true => exact Crossing.Comes.bind Crossing.Comes.note Crossing.Comes.throw

/-!
# Looking back on a run

A run that succeeded went one way only, through the runs of the parts of its program.  If the program
follows a protocol that the runtime keeps, the run ended where the program wants.
-/

namespace Program.Succeeds

variable {s s' s'' : σ}

theorem unique {p : Program α} {a b : α} (h : p.Succeeds answer s a s')
    (h' : p.Succeeds answer s b s'') : a = b ∧ s' = s'' := by
  induction h with
  | done a s =>
      cases h'
      exact ⟨rfl, rfl⟩
  | ask hanswer _ ih =>
      cases h' with
      | ask hanswer' hnext =>
          rw [hanswer] at hanswer'
          cases hanswer'
          exact ih hnext
  | note _ ih =>
      cases h' with
      | note hnext => exact ih hnext

theorem of_bind {p : Program α} {f : α → Program β} {b : β}
    (h : (p.bind f).Succeeds answer s b s'') :
    ∃ a s', p.Succeeds answer s a s' ∧ (f a).Succeeds answer s' b s'' := by
  induction p generalizing s with
  | done result => exact ⟨result, s, .done result s, h⟩
  | abort panic => cases h
  | ask r next ih =>
      cases h with
      | ask hanswer hnext =>
          rcases ih _ hnext with ⟨a, s', hp, hf⟩
          exact ⟨a, s', .ask hanswer hp, hf⟩
  | note event next ih =>
      cases h with
      | note hnext =>
          rcases ih hnext with ⟨a, s', hp, hf⟩
          exact ⟨a, s', .note hp, hf⟩

theorem follows {γ : Type} {P : Protocol γ} {inv : γ → σ → Prop} {broken : σ → Prop}
    (hkept : P.KeptBy answer inv broken) {post : α → γ → Prop} {p : Program α} {a : α} {g : γ}
    (h : p.Succeeds answer s a s') (hp : p.Follows P post g) (hinv : inv g s) :
    ∃ g', post a g' ∧ inv g' s' := by
  induction h generalizing g with
  | done a s => exact ⟨g, hp, hinv⟩
  | @ask r next given a s s' s'' hanswer _ ih =>
      have hkeeps := hkept.answers g s r hinv hp.1
      rw [hanswer] at hkeeps
      rcases hkeeps with ⟨g', hnext, hinv'⟩
      exact ih (hp.2 given g' hnext) hinv'
  | note _ ih => exact ih hp hinv

end Program.Succeeds

namespace Crossing.Comes

variable {s s' s'' : σ} {c : Crossing α} {a : α}

theorem unique {outcome outcome' : Except BridgeError α} (h : Comes answer c s outcome s')
    (h' : Comes answer c s outcome' s'') : outcome = outcome' ∧ s' = s'' :=
  Program.Succeeds.unique h h'

theorem of_bind {f : α → Crossing β} {b : β} (h : Comes answer (c >>= f) s (.ok b) s'') :
    ∃ a s', Comes answer c s (.ok a) s' ∧ Comes answer (f a) s' (.ok b) s'' := by
  unfold Comes at h
  rw [run_bind] at h
  rcases h.of_bind with ⟨outcome, s', hc, hf⟩
  cases outcome with
  | ok a => exact ⟨a, s', hc, hf⟩
  | error error => cases hf

/-- What a crossing of two parts came to, which is an error of the first part if that has one. -/
theorem cases_bind {f : α → Crossing β} {outcome : Except BridgeError β}
    (h : Comes answer (c >>= f) s outcome s'') :
    (∃ a s', Comes answer c s (.ok a) s' ∧ Comes answer (f a) s' outcome s'') ∨
      ∃ error, outcome = .error error ∧ Comes answer c s (.error error) s'' := by
  unfold Comes at h
  rw [run_bind] at h
  rcases h.of_bind with ⟨middle, s', hc, hf⟩
  cases middle with
  | ok a => exact .inl ⟨a, s', hc, hf⟩
  | error error =>
      cases hf
      exact .inr ⟨error, rfl, hc⟩

/-- What comes after a part that is known. -/
theorem of_bind_of_comes {f : α → Crossing β} {outcome : Except BridgeError β}
    (h : Comes answer (c >>= f) s outcome s'') (hc : Comes answer c s (.ok a) s') :
    Comes answer (f a) s' outcome s'' := by
  rcases h.cases_bind with ⟨a', middle, hc', hf⟩ | ⟨error, -, hc'⟩
  · rcases hc.unique hc' with ⟨hsame, hmiddle⟩
    cases hsame
    rw [hmiddle]
    exact hf
  · cases (hc.unique hc').1

theorem of_owningAll {refs : List Ref} {outcome : Except BridgeError α}
    (h : Comes answer (Crossing.owningAll refs c) s outcome s'') :
    ∃ s', Comes answer c s outcome s' ∧ (Program.releaseAll refs).Succeeds answer s' () s'' := by
  rcases Program.Succeeds.of_bind h with ⟨outcome, s', hc, hrest⟩
  rcases Program.Succeeds.of_bind hrest with ⟨_, last, hrelease, hdone⟩
  cases hdone
  exact ⟨s', hc, hrelease⟩

theorem of_pure {b : α} (h : Comes answer (Pure.pure b : Crossing α) s (.ok a) s') :
    a = b ∧ s' = s := by
  cases h
  exact ⟨rfl, rfl⟩

theorem not_throw {error : BridgeError} :
    ¬ Comes answer (MonadExcept.throw error : Crossing α) s (.ok a) s' := nofun

theorem of_ask {r : Request} {given : r.Answer} (h : Comes answer (Crossing.ask r) s (.ok given) s') :
    (answer r).outcome s = (.ok given, s') := by
  cases h with
  | ask hanswer hnext =>
      cases hnext
      exact hanswer

end Crossing.Comes

/-!
# Runs in a larger state

A run against a runtime is a run of whatever holds the runtime and asks it.
-/

section Hosting

variable {τ : Type} {answer' : (r : Request) → Attempt τ r.Answer} {record : Event → StateM τ Unit}
  {hosts : τ → σ → Prop}

theorem Program.Succeeds.runHolding
    (hanswers : ∀ (r : Request) (given : r.Answer) s s' t, hosts t s →
      (answer r).outcome s = (.ok given, s') →
      ∃ t', (answer' r).outcome t = (.ok given, t') ∧ hosts t' s')
    (hrecords : ∀ event s t, hosts t s → hosts ((record event).run t).2 s)
    {p : Program α} {a : α} {s s' : σ} (hp : p.Succeeds answer s a s') (held : List Ref) {t : τ}
    (ht : hosts t s) :
    ∃ held' t', (p.runHolding answer' record held).run t = ((.ok a, held'), t') ∧ hosts t' s' := by
  induction hp generalizing held t with
  | done a s => exact ⟨held, t, rfl, ht⟩
  | @ask r next given a s s' s'' hanswer hnext ih =>
      rcases hanswers r given s s' t ht hanswer with ⟨t', hanswer', ht'⟩
      rw [runHolding_ask, hanswer']
      exact ih (heldAfter held r given) ht'
  | @note event next a s s' hnext ih => exact ih held (hrecords event s t ht)

theorem Program.Succeeds.run
    (hanswers : ∀ (r : Request) (given : r.Answer) s s' t, hosts t s →
      (answer r).outcome s = (.ok given, s') →
      ∃ t', (answer' r).outcome t = (.ok given, t') ∧ hosts t' s')
    (hrecords : ∀ event s t, hosts t s → hosts ((record event).run t).2 s)
    {p : Program α} {a : α} {s s' : σ} (hp : p.Succeeds answer s a s') {t : τ} (ht : hosts t s) :
    ∃ t', (p.run answer' record).outcome t = (.ok a, t') ∧ hosts t' s' := by
  rcases hp.runHolding hanswers hrecords [] ht with ⟨held', t', hrun, ht'⟩
  refine ⟨t', ?_, ht'⟩
  rw [outcome_run, hrun]

/-- A run of the whole is a run on the part. -/
theorem Program.Succeeds.of_run
    (hanswers : ∀ (r : Request) (given : r.Answer) s t t', hosts t s →
      (answer' r).outcome t = (.ok given, t') →
      ∃ s', (answer r).outcome s = (.ok given, s') ∧ hosts t' s')
    (hrecords : ∀ event s t, hosts t s → hosts ((record event).run t).2 s)
    {p : Program α} {a : α} {s : σ} {t t' : τ} (ht : hosts t s)
    (hrun : (p.run answer' record).outcome t = (.ok a, t')) :
    ∃ s', p.Succeeds answer s a s' ∧ hosts t' s' := by
  have hholding : ∀ held held', (p.runHolding answer' record held).run t = ((.ok a, held'), t') →
      ∃ s', p.Succeeds answer s a s' ∧ hosts t' s' := by
    clear hrun
    induction p generalizing s t with
    | done result =>
        intro held held' hrun
        cases hrun
        exact ⟨s, .done a s, ht⟩
    | abort panic =>
        intro held held' hrun
        cases hrun
    | ask r next ih =>
        intro held held' hrun
        rw [runHolding_ask] at hrun
        rcases houtcome : (answer' r).outcome t with ⟨outcome, t''⟩
        rw [houtcome] at hrun
        cases outcome with
        | error panic => cases hrun
        | ok given =>
            rcases hanswers r given s t t'' ht houtcome with ⟨s'', hanswer, ht''⟩
            rcases ih given ht'' _ _ hrun with ⟨s', hnext, ht'⟩
            exact ⟨s', .ask hanswer hnext, ht'⟩
    | note event next ih =>
        intro held held' hrun
        rcases ih (hrecords event s t ht) held held' hrun with ⟨s', hnext, ht'⟩
        exact ⟨s', .note hnext, ht'⟩
  rw [outcome_run] at hrun
  rcases hrest : (p.runHolding answer' record []).run t with ⟨⟨outcome, held'⟩, t''⟩
  rw [hrest] at hrun
  cases outcome with
  | error panic => cases hrun
  | ok result =>
      cases hrun
      exact hholding [] held' hrest

end Hosting
end ForeignBridge
