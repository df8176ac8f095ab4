import KnowledgeCore.Lib.Prog

/-!
# Programs that may be cut off

The operations of a program act on a state, each in perhaps more than one way, and a run may be
cut off between any two operations.

* A weakest precondition for a condition that is to hold at every point of a run, together with
  one that is to hold at its end. It is sound and complete for the runs, and there is a rule for
  each way of building a program.
* Calls that follow one another, each of which may be cut off, and the rule of invariants for
  the states they lead to.
* One way to answer the operations, with which runs can be computed.
-/

namespace Prog

variable {Op : Type} {Ans : Op → Type} {ε ε' α β σ : Type}

/-- What the operations may do: the operation issued in the first state may be given the answer
and leave the second state. -/
abbrev Effect (Op : Type) (Ans : Op → Type) (σ : Type) : Type :=
  (o : Op) → σ → Ans o → σ → Prop

variable {R : Effect Op Ans σ}

/-- `Runs R p s q t` holds when `p`, started in the state `s`, may come to the state `t` with
`q` left to run. -/
inductive Runs (R : Effect Op Ans σ) : Prog Op Ans ε α → σ → Prog Op Ans ε α → σ → Prop
  | refl (p s) : Runs R p s p s
  | step {o k s a t q u} : R o s a t → Runs R (k a) t q u → Runs R (.op o k) s q u

/-- `Ends R p s r t` holds when `p`, started in the state `s`, may end in the state `t` with
the outcome `r`. -/
def Ends (R : Effect Op Ans σ) (p : Prog Op Ans ε α) (s : σ) (r : Except ε α) (t : σ) : Prop :=
  Runs R p s (ofExcept r) t

/-! ### Safety -/

/-- Wherever a run is cut off the state satisfies `C`, and where it ends the outcome and the
state satisfy `Q`. -/
def Safe (R : Effect Op Ans σ) (C : σ → Prop) (Q : Except ε α → σ → Prop) :
  Prog Op Ans ε α → σ → Prop
  | .ret a, s => C s ∧ Q (.ok a) s
  | .fail e, s => C s ∧ Q (.error e) s
  | .op o k, s => C s ∧ ∀ a t, R o s a t → (k a).Safe R C Q t

variable {C C' : σ → Prop} {Q Q' : Except ε α → σ → Prop}

theorem Safe.here {p : Prog Op Ans ε α} {s : σ} (h : p.Safe R C Q s) : C s
  := by
  cases p with
  | ret a => apply h.1
  | fail e => apply h.1
  | op o k => apply h.1

/-- What is left of a safe program is safe. -/
theorem Safe.runs {p q : Prog Op Ans ε α} {s t : σ} (h : p.Safe R C Q s)
    (hrun : Runs R p s q t) :
  q.Safe R C Q t
  := by
  induction hrun with
  | refl => apply h
  | step hop _ ih => apply ih (h.2 _ _ hop)

theorem Safe.always {p q : Prog Op Ans ε α} {s t : σ} (h : p.Safe R C Q s)
    (hrun : Runs R p s q t) :
  C t
  := (h.runs hrun).here

theorem Safe.ends {p : Prog Op Ans ε α} {s t : σ} {r : Except ε α} (h : p.Safe R C Q s)
    (hend : Ends R p s r t) :
  Q r t
  := by
  have hsafe := h.runs hend
  cases r with
  | ok a => apply hsafe.2
  | error e => apply hsafe.2

/-- A program is safe exactly when all its runs are. -/
theorem safe_iff {p : Prog Op Ans ε α} {s : σ} :
  p.Safe R C Q s ↔
    (∀ q t, Runs R p s q t → C t) ∧ ∀ r t, Ends R p s r t → Q r t
  := by
  constructor
  · intro h
    constructor
    · intro q t hrun
      apply h.always hrun
    · intro r t hend
      apply h.ends hend
  · rintro ⟨hruns, hends⟩
    induction p generalizing s with
    | ret a => exact ⟨hruns _ s (Runs.refl _ s), hends (.ok a) s (Runs.refl _ s)⟩
    | fail e => exact ⟨hruns _ s (Runs.refl _ s), hends (.error e) s (Runs.refl _ s)⟩
    | op o k ih =>
      use hruns _ s (Runs.refl _ s)
      intro a t hop
      apply ih a
      · intro q u hrun
        apply hruns q u (Runs.step hop hrun)
      · intro r u hend
        apply hends r u (Runs.step hop hend)

theorem Safe.mono {p : Prog Op Ans ε α} {s : σ} (hC : ∀ t, C t → C' t)
    (hQ : ∀ r t, Q r t → Q' r t) (h : p.Safe R C Q s) :
  p.Safe R C' Q' s
  := by
  rw [safe_iff] at h ⊢
  constructor
  · intro q t hrun
    apply hC _ (h.1 q t hrun)
  · intro r t hend
    apply hQ _ _ (h.2 r t hend)

@[simp] theorem safe_ret {a : α} {s : σ} :
  (.ret a : Prog Op Ans ε α).Safe R C Q s ↔ C s ∧ Q (.ok a) s
  := Iff.rfl

@[simp] theorem safe_fail {e : ε} {s : σ} :
  (.fail e : Prog Op Ans ε α).Safe R C Q s ↔ C s ∧ Q (.error e) s
  := Iff.rfl

@[simp] theorem safe_op {o : Op} {k : Ans o → Prog Op Ans ε α} {s : σ} :
  (Prog.op o k).Safe R C Q s ↔ C s ∧ ∀ a t, R o s a t → (k a).Safe R C Q t
  := Iff.rfl

@[simp] theorem safe_ofExcept {r : Except ε α} {s : σ} :
  (ofExcept r : Prog Op Ans ε α).Safe R C Q s ↔ C s ∧ Q r s
  := by
  cases r <;> rfl

/-- What the first part of a composition has to end with: the second part is safe there, or the
failure is one the composition may have. -/
def Then (R : Effect Op Ans σ) (C : σ → Prop) (Q : Except ε β → σ → Prop)
    (f : α → Prog Op Ans ε β) :
  Except ε α → σ → Prop
  | .ok a, t => (f a).Safe R C Q t
  | .error e, t => Q (.error e) t

@[simp] theorem then_ok {f : α → Prog Op Ans ε β} {Q : Except ε β → σ → Prop} {a : α} {t : σ} :
  Then R C Q f (.ok a) t ↔ (f a).Safe R C Q t
  := Iff.rfl

@[simp] theorem then_error {f : α → Prog Op Ans ε β} {Q : Except ε β → σ → Prop} {e : ε} {t : σ} :
  Then R C Q f (.error e) t ↔ Q (.error e) t
  := Iff.rfl

theorem safe_bind {p : Prog Op Ans ε α} {f : α → Prog Op Ans ε β} {s : σ}
    {Q : Except ε β → σ → Prop} :
  (p >>= f).Safe R C Q s ↔ p.Safe R C (Then R C Q f) s
  := by
  induction p generalizing s with
  | ret a =>
    constructor
    · intro h
      exact ⟨h.here, h⟩
    · intro h
      apply h.2
  | fail e => rfl
  | op o k ih =>
    rw [op_bind, safe_op, safe_op]
    simp only [ih]

theorem safe_attempt {p : Prog Op Ans ε α} {s : σ} {Q : Except ε' (Except ε α) → σ → Prop} :
  (p.attempt : Prog Op Ans ε' _).Safe R C Q s ↔ p.Safe R C (fun r => Q (.ok r)) s
  := by
  induction p generalizing s with
  | ret a => rfl
  | fail e => rfl
  | op o k ih =>
    rw [attempt, safe_op, safe_op]
    simp only [ih]

/-- One operation, followed by the rest of a program. -/
theorem safe_perform_bind {o : Op} {f : Ans o → Prog Op Ans ε α} {s : σ} :
  (perform o >>= f).Safe R C Q s ↔ C s ∧ ∀ a t, R o s a t → (f a).Safe R C Q t
  := Iff.rfl

/-- An outcome that is there already, followed by the rest of a program. -/
theorem safe_ofExcept_bind {r : Except ε α} {f : α → Prog Op Ans ε β} {s : σ}
    {Q : Except ε β → σ → Prop} :
  (ofExcept r >>= f).Safe R C Q s ↔ C s ∧ Then R C Q f r s
  := by
  rw [safe_bind, safe_ofExcept]

/-- A check whose outcome is there already, followed by the rest of a program. -/
theorem safe_check {r : Except ε α} {f : α → Prog Op Ans ε β} {s : σ}
    {Q : Except ε β → σ → Prop} (hC : C s) (herror : ∀ e, r = .error e → Q (.error e) s)
    (hok : ∀ a, r = .ok a → (f a).Safe R C Q s) :
  (ofExcept r >>= f).Safe R C Q s
  := by
  rw [safe_ofExcept_bind]
  use hC
  cases r with
  | error e => apply herror e rfl
  | ok a => apply hok a rfl

/-- What a part that only reads ends with: the state it started in, and a value that
satisfies `P` if it returns. -/
def Reads (s : σ) (P : α → Prop) : Except ε α → σ → Prop :=
  fun r t => t = s ∧ ∀ a, r = .ok a → P a

/-- A part that only reads, followed by the rest of a program. -/
theorem safe_bind_reads {p : Prog Op Ans ε α} {f : α → Prog Op Ans ε β} {s : σ} {P : α → Prop}
    {Q : Except ε β → σ → Prop} (hp : p.Safe R C (Reads s P) s) (herror : ∀ e, Q (.error e) s)
    (hok : ∀ a, P a → (f a).Safe R C Q s) :
  (p >>= f).Safe R C Q s
  := by
  rw [safe_bind]
  apply hp.mono (fun _ h => h)
  rintro (e | a) t ⟨rfl, h⟩
  · apply herror e
  · apply hok a (h a rfl)

/-- What every operation of a program keeps holds wherever the program is cut off. -/
theorem AllOps.safe {P : Op → Prop} {p : Prog Op Ans ε α} {s : σ} (hp : p.AllOps P)
    (hstep : ∀ o s a t, P o → C s → R o s a t → C t) (h : C s) :
  p.Safe R C (fun _ => C) s
  := by
  induction p generalizing s with
  | ret a => exact ⟨h, h⟩
  | fail e => exact ⟨h, h⟩
  | op o k ih =>
    use h
    intro a t hop
    apply ih a (hp.2 a) (hstep o s a t hp.1 h hop)

/-- What every operation of a program keeps holds in the end. -/
theorem AllOps.ends {P : Op → Prop} {p : Prog Op Ans ε α} {s t : σ} {r : Except ε α}
    (hp : p.AllOps P) (hstep : ∀ o s a t, P o → C s → R o s a t → C t) (h : C s)
    (hend : Ends R p s r t) :
  C t
  := (hp.safe hstep h).ends hend

/-- What every operation of a program leaves alone is the same in the end. -/
theorem AllOps.ends_frame {τ : Type} {P : Op → Prop} {p : Prog Op Ans ε α} {s t : σ}
    {r : Except ε α} (f : σ → τ) (hp : p.AllOps P)
    (hstep : ∀ o s a t, P o → R o s a t → f t = f s) (h : Ends R p s r t) :
  f t = f s
  := by
  refine hp.ends (C := fun u => f u = f s) ?_ rfl h
  intro o u a v ho hu hv
  rw [hstep o u a v ho hv, hu]

/-- What a composition that only replaces the value ends with. -/
theorem ends_bind_ret {p : Prog Op Ans ε α} {b : β} {s t : σ} {r : Except ε β}
    (h : Ends R (p >>= fun _ => .ret b) s r t) :
  ∃ r', Ends R p s r' t ∧ r.isOk = r'.isOk
  := by
  have hsafe : (p >>= fun _ => .ret b : Prog Op Ans ε β).Safe R (fun _ => True)
      (fun r t => ∃ r', Ends R p s r' t ∧ r.isOk = r'.isOk) s := by
    rw [safe_bind]
    apply safe_iff.mpr
    constructor
    · intro q t _
      trivial
    · intro r' t hend
      cases r' with
      | error e => exact ⟨.error e, hend, rfl⟩
      | ok a =>
        rw [then_ok, safe_ret]
        use trivial
        exact ⟨.ok a, hend, rfl⟩
  apply hsafe.ends h

/-! ### Calls that follow one another -/

variable {ι : Type} {Res : ι → Type} {prog : (i : ι) → Prog Op Ans ε (Res i)}
  {ready ready' : ι → σ → Prop} {s₀ s : σ}

/-- The states that calls lead to, one after another. Each call starts in a state that is ready
for it, and each may be cut off. -/
inductive Reached (R : Effect Op Ans σ) (prog : (i : ι) → Prog Op Ans ε (Res i))
    (ready : ι → σ → Prop) (s₀ : σ) : σ → Prop
  | start : Reached R prog ready s₀ s₀
  | call (i : ι) {s q t} : Reached R prog ready s₀ s → ready i s → Runs R (prog i) s q t →
      Reached R prog ready s₀ t

/-- What holds at the start and at every point of every call holds in every state reached. -/
theorem Reached.invariant (h : Reached R prog ready s₀ s) (hstart : C s₀)
    (hcall : ∀ i s, C s → ready i s → (prog i).Safe R C (fun _ _ => True) s) :
  C s
  := by
  induction h with
  | start => apply hstart
  | call i _ hready hrun ih => apply (hcall i _ ih hready).always hrun

theorem Reached.mono (h : Reached R prog ready s₀ s) (hready : ∀ i s, ready i s → ready' i s) :
  Reached R prog ready' s₀ s
  := by
  induction h with
  | start => apply Reached.start
  | call i _ hi hrun ih => apply Reached.call i ih (hready i _ hi) hrun

/-! ### Runs that are computed -/

/-- What is left of a program, and the state it has come to, when `h` has answered at most the
given number of its operations. -/
def cut (h : (o : Op) → σ → Ans o × σ) :
  Nat → Prog Op Ans ε α → σ → Prog Op Ans ε α × σ
  | n + 1, .op o k, s => cut h n (k (h o s).1) (h o s).2
  | _, p, s => (p, s)

variable {h : (o : Op) → σ → Ans o × σ}

theorem runs_cut (hR : ∀ o s, R o s (h o s).1 (h o s).2) (n : Nat) (p : Prog Op Ans ε α)
    (s : σ) :
  Runs R p s (cut h n p s).1 (cut h n p s).2
  := by
  induction n generalizing p s with
  | zero => apply Runs.refl
  | succ n ih =>
    cases p with
    | ret a => apply Runs.refl
    | fail e => apply Runs.refl
    | op o k => apply Runs.step (hR o s) (ih _ _)

theorem ends_eval (hR : ∀ o s, R o s (h o s).1 (h o s).2) (p : Prog Op Ans ε α) (s : σ) :
  Ends R p s (p.eval h s).1 (p.eval h s).2
  := by
  induction p generalizing s with
  | ret a => apply Runs.refl
  | fail e => apply Runs.refl
  | op o k ih => apply Runs.step (hR o s) (ih _ _)

end Prog
