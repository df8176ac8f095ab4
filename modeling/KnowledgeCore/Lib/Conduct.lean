import KnowledgeCore.Lib.Interleave

/-!
# Parties that keep to a protocol

What a party knows is a view of what it has issued and how it was answered. A conduct says which
operations a party may issue given its view, and how the view changes with every answer.

* A rule for each way of building a program that keeps to a conduct.
* One party that runs on a state, and what is kept of its view and the state.
* Parties that take turns while a clock goes on, where the schedule may depend on the time, on
  what has been done and on the state. Every party that keeps to a conduct does so in every run.
-/

namespace Prog

variable {Op : Type} {Ans : Op → Type} {ε ε' α β V : Type}

/-- A protocol as one party sees it. -/
structure Conduct (Op : Type) (Ans : Op → Type) (V : Type) where
  allowed : V → Op → Prop
  next : V → (o : Op) → Ans o → V

/-- `Follows c Q p v` holds when `p`, started with the view `v`, issues only operations that are
allowed, whatever they are answered, and ends with an outcome and a view that satisfy `Q`. -/
def Follows (c : Conduct Op Ans V) (Q : Except ε α → V → Prop) : Prog Op Ans ε α → V → Prop
  | .ret a, v => Q (.ok a) v
  | .fail e, v => Q (.error e) v
  | .op o k, v => c.allowed v o ∧ ∀ a, (k a).Follows c Q (c.next v o a)

variable {c : Conduct Op Ans V} {Q Q' : Except ε α → V → Prop}

@[simp] theorem follows_ret {a : α} {v : V} :
  (.ret a : Prog Op Ans ε α).Follows c Q v ↔ Q (.ok a) v
  := Iff.rfl

@[simp] theorem follows_fail {e : ε} {v : V} :
  (.fail e : Prog Op Ans ε α).Follows c Q v ↔ Q (.error e) v
  := Iff.rfl

@[simp] theorem follows_op {o : Op} {k : Ans o → Prog Op Ans ε α} {v : V} :
  (Prog.op o k).Follows c Q v ↔ c.allowed v o ∧ ∀ a, (k a).Follows c Q (c.next v o a)
  := Iff.rfl

@[simp] theorem follows_ofExcept {r : Except ε α} {v : V} :
  (ofExcept r : Prog Op Ans ε α).Follows c Q v ↔ Q r v
  := by
  cases r <;> rfl

theorem Follows.mono {p : Prog Op Ans ε α} {v : V} (h : p.Follows c Q v)
    (hQ : ∀ r w, Q r w → Q' r w) :
  p.Follows c Q' v
  := by
  induction p generalizing v with
  | ret a => apply hQ _ _ h
  | fail e => apply hQ _ _ h
  | op o k ih =>
    use h.1
    intro a
    apply ih a (h.2 a)

/-- What a program ends with under two conducts. -/
theorem Follows.and {V' : Type} {c' : Conduct Op Ans V'} {R : Except ε α → V' → Prop}
    {p : Prog Op Ans ε α} {v : V} {v' : V'} (h : p.Follows c Q v) (h' : p.Follows c' R v') :
  p.Follows c (fun r w => Q r w ∧ ∃ w', R r w') v
  := by
  induction p generalizing v v' with
  | ret a => exact ⟨h, v', h'⟩
  | fail e => exact ⟨h, v', h'⟩
  | op o k ih =>
    use h.1
    intro a
    apply ih a (h.2 a) (h'.2 a)

/-- What the first part of a composition has to end with. -/
def Onwards (c : Conduct Op Ans V) (Q : Except ε β → V → Prop) (f : α → Prog Op Ans ε β) :
  Except ε α → V → Prop
  | .ok a, v => (f a).Follows c Q v
  | .error e, v => Q (.error e) v

@[simp] theorem onwards_ok {Q : Except ε β → V → Prop} {f : α → Prog Op Ans ε β} {a : α} {v : V} :
  Onwards c Q f (.ok a) v ↔ (f a).Follows c Q v
  := Iff.rfl

@[simp] theorem onwards_error {Q : Except ε β → V → Prop} {f : α → Prog Op Ans ε β} {e : ε}
    {v : V} :
  Onwards c Q f (.error e) v ↔ Q (.error e) v
  := Iff.rfl

theorem follows_bind {p : Prog Op Ans ε α} {f : α → Prog Op Ans ε β} {Q : Except ε β → V → Prop}
    {v : V} :
  (p >>= f).Follows c Q v ↔ p.Follows c (Onwards c Q f) v
  := by
  induction p generalizing v with
  | ret a => rfl
  | fail e => rfl
  | op o k ih =>
    rw [op_bind, follows_op, follows_op]
    simp only [ih]

theorem follows_attempt {p : Prog Op Ans ε α} {Q : Except ε' (Except ε α) → V → Prop} {v : V} :
  (p.attempt : Prog Op Ans ε' _).Follows c Q v ↔ p.Follows c (fun r w => Q (.ok r) w) v
  := by
  induction p generalizing v with
  | ret a => rfl
  | fail e => rfl
  | op o k ih =>
    rw [attempt, follows_op, follows_op]
    simp only [ih]

theorem AllOps.forall {κ : Type} {P : κ → Op → Prop} {p : Prog Op Ans ε α}
    (h : ∀ i, p.AllOps (P i)) :
  p.AllOps fun o => ∀ i, P i o
  := by
  induction p with
  | ret a => trivial
  | fail e => trivial
  | op o k ih => exact ⟨fun i => (h i).1, fun a => ih a fun i => (h i).2 a⟩

/-- A program whose operations are allowed under every view of a kind, and keep the view of that
kind, follows the conduct. -/
theorem AllOps.follows {P : Op → Prop} {I : V → Prop} {p : Prog Op Ans ε α} {v : V}
    (hp : p.AllOps P) (hallowed : ∀ v o, I v → P o → c.allowed v o)
    (hnext : ∀ v o a, I v → P o → I (c.next v o a)) (hv : I v) :
  p.Follows c (fun _ w => I w) v
  := by
  induction p generalizing v with
  | ret a => apply hv
  | fail e => apply hv
  | op o k ih =>
    use hallowed v o hv hp.1
    intro a
    apply ih a (hp.2 a) (hnext v o a hv hp.1)

/-! ### Views -/

namespace Conduct

/-- The view after a party has issued operations and was answered. -/
def view (c : Conduct Op Ans V) (v : V) (events : List (Event Op Ans)) : V :=
  events.foldl (fun v e => c.next v e.op e.ans) v

@[simp] theorem view_nil (c : Conduct Op Ans V) (v : V) :
  c.view v [] = v
  := rfl

@[simp] theorem view_concat (c : Conduct Op Ans V) (v : V) (events : List (Event Op Ans))
    (e : Event Op Ans) :
  c.view v (events ++ [e]) = c.next (c.view v events) e.op e.ans
  := by
  simp [view]

end Conduct

/-- What is left of a program that follows a conduct follows it with the view it has come to. -/
theorem Follows.steps {p q : Prog Op Ans ε α} {v : V} {tr : List (Event Op Ans)}
    (h : p.Follows c Q v) (hsteps : Steps p tr q) :
  q.Follows c Q (c.view v tr)
  := by
  induction hsteps generalizing v with
  | nil => apply h
  | cons a _ ih => apply ih (h.2 a)

/-! ### One party -/

section

variable {σ : Type} {R : Effect Op Ans σ}

/-- `Traced R p s tr q t` holds when `p`, started in the state `s`, may leave the trace `tr` and come
to the state `t` with `q` left to run. -/
inductive Traced (R : Effect Op Ans σ) :
    Prog Op Ans ε α → σ → List (Event Op Ans) → Prog Op Ans ε α → σ → Prop
  | nil (p s) : Traced R p s [] p s
  | cons {o k s a t tr q u} :
      R o s a t → Traced R (k a) t tr q u → Traced R (.op o k) s (⟨o, a⟩ :: tr) q u

/-- What holds between the view and the state, and is kept by every operation that is allowed, holds
wherever a program that follows the conduct has come to. -/
theorem Follows.traced {I : V → σ → Prop} {p q : Prog Op Ans ε α} {v : V} {s t : σ}
    {tr : List (Event Op Ans)} (hp : p.Follows c Q v) (hI : I v s)
    (hstep : ∀ v o s a t, c.allowed v o → I v s → R o s a t → I (c.next v o a) t)
    (h : Traced R p s tr q t) :
  I (c.view v tr) t ∧ q.Follows c Q (c.view v tr)
  := by
  induction h generalizing v with
  | nil => exact ⟨hI, hp⟩
  | cons hop _ ih => exact ih (hp.2 _) (hstep _ _ _ _ _ hp.1 hI hop)

/-- A trace is one of whatever is seen of the state. -/
theorem Traced.map {τ : Type} {R' : Effect Op Ans τ} {f : σ → τ} {p q : Prog Op Ans ε α} {s t : σ}
    {tr : List (Event Op Ans)} (hf : ∀ o s a t, R o s a t → R' o (f s) a (f t))
    (h : Traced R p s tr q t) :
  Traced R' p (f s) tr q (f t)
  := by
  induction h with
  | nil p s => apply Traced.nil
  | cons hop _ ih => exact .cons (hf _ _ _ _ hop) ih

/-- A program that is answered by a handler leaves a trace. -/
theorem traced_eval {handler : (o : Op) → σ → Ans o × σ}
    (hR : ∀ o s, R o s (handler o s).1 (handler o s).2) (p : Prog Op Ans ε α) (s : σ) :
  ∃ tr, Traced R p s tr (ofExcept (p.eval handler s).1) (p.eval handler s).2
  := by
  induction p generalizing s with
  | ret a => exact ⟨[], .nil _ _⟩
  | fail e => exact ⟨[], .nil _ _⟩
  | op o k ih =>
    obtain ⟨tr, htr⟩ := ih (handler o s).1 (handler o s).2
    exact ⟨_, .cons (hR o s) htr⟩

end

/-! ### Schedules -/

variable {ι σ : Type} {Res : ι → Type} [DecidableEq ι]

/-- `Timed R may prog s₀ now tr ps s` holds when parties that run `prog` from the state `s₀` may
leave the trace `tr` until the time `now`, and come to the state `s` with `ps` left to run. A turn
is taken only where the schedule, `may`, has it. -/
inductive Timed (R : Effect Op Ans σ)
    (may : Int → List (ι × Event Op Ans) → ι → Op → σ → Prop)
    (prog : (i : ι) → Prog Op Ans ε (Res i)) (s₀ : σ) :
    Int → List (ι × Event Op Ans) → ((i : ι) → Prog Op Ans ε (Res i)) → σ → Prop
  | start (now : Int) : Timed R may prog s₀ now [] prog s₀
  | tick {now tr ps s} (later : Int) :
      Timed R may prog s₀ now tr ps s → now ≤ later → Timed R may prog s₀ later tr ps s
  | turn {now tr ps s t} (i : ι) {o : Op} {k : Ans o → Prog Op Ans ε (Res i)} {a : Ans o} :
      Timed R may prog s₀ now tr ps s → ps i = .op o k → may now tr i o s → R o s a t →
      Timed R may prog s₀ now (tr ++ [(i, ⟨o, a⟩)]) (Function.update ps i (k a)) t

variable {R : Effect Op Ans σ} {may may' : Int → List (ι × Event Op Ans) → ι → Op → σ → Prop}
  {prog ps : (i : ι) → Prog Op Ans ε (Res i)} {s₀ s : σ} {now : Int}
  {tr : List (ι × Event Op Ans)}

/-- Without the times, a run is one of parties that take turns. -/
theorem Timed.interleaved (h : Timed R may prog s₀ now tr ps s) :
  Interleaved R prog s₀ tr ps s
  := by
  induction h with
  | start => apply Interleaved.start
  | tick _ _ _ ih => apply ih
  | turn i _ hi _ hop ih => apply Interleaved.turn i ih hi hop

/-- A schedule that asks for less has every run. -/
theorem Timed.mono (h : Timed R may prog s₀ now tr ps s)
    (hmay : ∀ now tr i o s, may now tr i o s → may' now tr i o s) :
  Timed R may' prog s₀ now tr ps s
  := by
  induction h with
  | start now => apply Timed.start now
  | tick later _ hle ih => apply Timed.tick later ih hle
  | turn i _ hi hm hop ih => apply Timed.turn i ih hi (hmay _ _ _ _ _ hm) hop

/-- What a party issues next is allowed by the conduct it follows. -/
theorem Interleaved.allowed {conduct : ι → Conduct Op Ans V}
    {Q : (i : ι) → Except ε (Res i) → V → Prop} {v : ι → V}
    (hprog : ∀ i, (prog i).Follows (conduct i) (Q i) (v i)) (h : Interleaved R prog s₀ tr ps s)
    {i : ι} {o : Op} {k : Ans o → Prog Op Ans ε (Res i)} (hi : ps i = .op o k) :
  (conduct i).allowed ((conduct i).view (v i) (own i tr)) o
  := by
  have hfollows := (hprog i).steps (h.steps i)
  rw [hi] at hfollows
  exact hfollows.1

theorem Timed.allowed {conduct : ι → Conduct Op Ans V} {Q : (i : ι) → Except ε (Res i) → V → Prop}
    {v : ι → V} (hprog : ∀ i, (prog i).Follows (conduct i) (Q i) (v i))
    (h : Timed R may prog s₀ now tr ps s) {i : ι} {o : Op} {k : Ans o → Prog Op Ans ε (Res i)}
    (hi : ps i = .op o k) :
  (conduct i).allowed ((conduct i).view (v i) (own i tr)) o
  := h.interleaved.allowed hprog hi

/-- A party runs to its end while the others wait, if the schedule has every turn that its conduct
allows as long as an invariant of its view and the state holds. -/
theorem Timed.alone {τ : Type} {handler : (o : Op) → τ → Ans o × τ} {g : τ → σ}
    {I : V → σ → Prop} {v : V} {i : ι} {Q : Except ε (Res i) → V → Prop}
    (hR : ∀ o w, R o (g w) (handler o w).1 (g (handler o w).2))
    (hmay : ∀ tr o w, c.allowed (c.view v (own i tr)) o → I (c.view v (own i tr)) (g w) →
      may now tr i o (g w))
    (hnext : ∀ v o w, c.allowed v o → I v (g w) →
      I (c.next v o (handler o w).1) (g (handler o w).2))
    {p : Prog Op Ans ε (Res i)} {w : τ} (h : Timed R may prog s₀ now tr ps (g w))
    (hi : ps i = p) (hp : p.Follows c Q (c.view v (own i tr)))
    (hI : I (c.view v (own i tr)) (g w)) :
  ∃ tr', Timed R may prog s₀ now tr' (Function.update ps i (ofExcept (p.eval handler w).1))
    (g (p.eval handler w).2)
  := by
  induction p generalizing tr ps w with
  | ret a =>
    use tr
    rwa [eval, ofExcept_ok, ← hi, Function.update_eq_self]
  | fail e =>
    use tr
    rwa [eval, ofExcept_error, ← hi, Function.update_eq_self]
  | op o k ih =>
    have hturn := Timed.turn i h hi (hmay tr o w hp.1 hI) (hR o w)
    have hview : c.view v (own i (tr ++ [(i, ⟨o, (handler o w).1⟩)]))
        = c.next (c.view v (own i tr)) o (handler o w).1 := by
      simp [own_append]
    have hrun := ih _ hturn (Function.update_self i _ ps) (hview ▸ hp.2 _)
      (hview ▸ hnext _ o w hp.1 hI)
    rwa [Function.update_idem] at hrun

end Prog
