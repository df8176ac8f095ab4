import Mathlib.Logic.Basic
import Mathlib.Data.List.Basic

/-!
# Interaction programs

A program issues operations, is answered, and in the end returns a value or fails. The
same program is read in three ways: as the set of paths it may take, whatever the answers
are; as a function of the state, when a handler answers every operation; and as a party
that takes turns with others over a shared state.
-/

/-- A program that issues operations `o : Op`, is answered in `Ans o`, and returns a value
of type `α` or fails with an error of type `ε`. -/
inductive Prog (Op : Type) (Ans : Op → Type) (ε α : Type)
  | ret (a : α)
  | fail (e : ε)
  | op (o : Op) (k : Ans o → Prog Op Ans ε α)

/-- An operation together with the answer it got. -/
structure Event (Op : Type) (Ans : Op → Type) where
  op : Op
  ans : Ans op

namespace Prog

variable {Op : Type} {Ans : Op → Type} {ε ε' α β γ : Type}

/-! ### The monad of programs -/

/-- Run `p`, and then `f` on the value it returns. A failure of `p` is the failure of the
whole. -/
def bind : Prog Op Ans ε α → (α → Prog Op Ans ε β) → Prog Op Ans ε β
  | .ret a, f => f a
  | .fail e, _ => .fail e
  | .op o k, f => .op o (fun a => (k a).bind f)

instance : Monad (Prog Op Ans ε) where
  pure := .ret
  bind := bind

/-- The program that returns or fails at once. -/
def ofExcept : Except ε α → Prog Op Ans ε α
  | .ok a => .ret a
  | .error e => .fail e

/-- The program that issues one operation and returns its answer. -/
def perform (o : Op) : Prog Op Ans ε (Ans o) :=
  .op o .ret

/-- Run `p` and return its outcome, whether a value or a failure. -/
def attempt : Prog Op Ans ε α → Prog Op Ans ε' (Except ε α)
  | .ret a => .ret (.ok a)
  | .fail e => .ret (.error e)
  | .op o k => .op o (fun a => (k a).attempt)

@[simp] theorem pure_eq (a : α) :
  (pure a : Prog Op Ans ε α) = .ret a
  := rfl

@[simp] theorem ret_bind (a : α) (f : α → Prog Op Ans ε β) :
  (.ret a : Prog Op Ans ε α) >>= f = f a
  := rfl

@[simp] theorem fail_bind (e : ε) (f : α → Prog Op Ans ε β) :
  (.fail e : Prog Op Ans ε α) >>= f = .fail e
  := rfl

@[simp] theorem op_bind (o : Op) (k : Ans o → Prog Op Ans ε α) (f : α → Prog Op Ans ε β) :
  Prog.op o k >>= f = .op o (fun a => k a >>= f)
  := rfl

@[simp] theorem perform_bind (o : Op) (f : Ans o → Prog Op Ans ε β) :
  perform o >>= f = .op o f
  := rfl

@[simp] theorem ofExcept_ok (a : α) :
  (ofExcept (.ok a) : Prog Op Ans ε α) = .ret a
  := rfl

@[simp] theorem ofExcept_error (e : ε) :
  (ofExcept (.error e) : Prog Op Ans ε α) = .fail e
  := rfl

theorem bind_assoc (p : Prog Op Ans ε α) (f : α → Prog Op Ans ε β) (g : β → Prog Op Ans ε γ) :
  p >>= f >>= g = p >>= fun a => f a >>= g
  := by
  induction p with
  | ret a => rfl
  | fail e => rfl
  | op o k ih =>
    simp only [op_bind]
    congr 1
    funext a
    apply ih

/-! ### Paths -/

/-- `Steps p tr q` holds when `p` may issue the operations of `tr`, be answered as `tr`
says, and have `q` left to run. -/
inductive Steps : Prog Op Ans ε α → List (Event Op Ans) → Prog Op Ans ε α → Prop
  | nil (p) : Steps p [] p
  | cons {o k tr q} (a : Ans o) : Steps (k a) tr q → Steps (.op o k) (⟨o, a⟩ :: tr) q

/-- `Path p tr r` holds when `p` may issue the operations of `tr`, be answered as `tr` says,
and end with the outcome `r`. -/
def Path (p : Prog Op Ans ε α) (tr : List (Event Op Ans)) (r : Except ε α) : Prop :=
  Steps p tr (ofExcept r)

theorem steps_trans {p q r : Prog Op Ans ε α} {t u : List (Event Op Ans)}
    (h : Steps p t q) (h' : Steps q u r) :
  Steps p (t ++ u) r
  := by
  induction h with
  | nil => apply h'
  | cons a _ ih => apply Steps.cons a (ih h')

@[simp] theorem steps_ret {a : α} {tr : List (Event Op Ans)} {q : Prog Op Ans ε α} :
  Steps (.ret a) tr q ↔ tr = [] ∧ q = .ret a
  := by
  constructor
  · intro h
    cases h
    simp
  · rintro ⟨rfl, rfl⟩
    apply Steps.nil

@[simp] theorem steps_fail {e : ε} {tr : List (Event Op Ans)} {q : Prog Op Ans ε α} :
  Steps (.fail e) tr q ↔ tr = [] ∧ q = .fail e
  := by
  constructor
  · intro h
    cases h
    simp
  · rintro ⟨rfl, rfl⟩
    apply Steps.nil

theorem steps_op {o : Op} {k : Ans o → Prog Op Ans ε α} {tr : List (Event Op Ans)}
    {q : Prog Op Ans ε α} :
  Steps (.op o k) tr q ↔
    (tr = [] ∧ q = .op o k) ∨ ∃ a t, tr = ⟨o, a⟩ :: t ∧ Steps (k a) t q
  := by
  constructor
  · intro h
    cases h with
    | nil => simp
    | cons a h =>
      right
      exact ⟨a, _, rfl, h⟩
  · rintro (⟨rfl, rfl⟩ | ⟨a, t, rfl, h⟩)
    · apply Steps.nil
    · apply Steps.cons a h

@[simp] theorem path_ret {a : α} {tr : List (Event Op Ans)} {r : Except ε α} :
  Path (.ret a) tr r ↔ tr = [] ∧ r = .ok a
  := by
  cases r <;> simp [Path, eq_comm]

@[simp] theorem path_fail {e : ε} {tr : List (Event Op Ans)} {r : Except ε α} :
  Path (.fail e) tr r ↔ tr = [] ∧ r = .error e
  := by
  cases r <;> simp [Path, eq_comm]

@[simp] theorem path_op {o : Op} {k : Ans o → Prog Op Ans ε α} {tr : List (Event Op Ans)}
    {r : Except ε α} :
  Path (.op o k) tr r ↔ ∃ a t, tr = ⟨o, a⟩ :: t ∧ Path (k a) t r
  := by
  rw [Path, steps_op]
  constructor
  · rintro (⟨_, h⟩ | h)
    · cases r <;> cases h
    · apply h
  · apply Or.inr

@[simp] theorem path_ofExcept {x r : Except ε α} {tr : List (Event Op Ans)} :
  Path (ofExcept x) tr r ↔ tr = [] ∧ r = x
  := by
  cases x <;> simp

/-- What a program in the middle of a composition has done: either the first part is not
over, or it has returned and the second part is under way. -/
theorem steps_bind {p : Prog Op Ans ε α} {f : α → Prog Op Ans ε β}
    {tr : List (Event Op Ans)} {q : Prog Op Ans ε β} :
  Steps (p >>= f) tr q ↔
    (∃ p', Steps p tr p' ∧ q = p' >>= f) ∨
      ∃ t u a, tr = t ++ u ∧ Path p t (.ok a) ∧ Steps (f a) u q
  := by
  induction p generalizing tr with
  | ret a =>
    constructor
    · intro h
      right
      use [], tr, a
      simpa using h
    · rintro (⟨_, h, rfl⟩ | ⟨t, u, b, rfl, h, h'⟩)
      · obtain ⟨rfl, rfl⟩ := steps_ret.mp h
        apply Steps.nil
      · obtain ⟨rfl, h⟩ := path_ret.mp h
        cases h
        apply h'
  | fail e => simp
  | op o k ih =>
    rw [op_bind, steps_op]
    constructor
    · rintro (⟨rfl, rfl⟩ | ⟨a, t, rfl, h⟩)
      · left
        use .op o k, Steps.nil _
        rfl
      · rcases ih a |>.mp h with ⟨p', hp', rfl⟩ | ⟨t₁, t₂, b, rfl, h₁, h₂⟩
        · left
          use p', Steps.cons a hp'
        · right
          use ⟨o, a⟩ :: t₁, t₂, b, rfl, Steps.cons a h₁
    · rintro (⟨p', h, rfl⟩ | ⟨t, u, b, rfl, h, h'⟩)
      · rcases steps_op.mp h with ⟨rfl, rfl⟩ | ⟨a, t, rfl, h⟩
        · left
          exact ⟨rfl, rfl⟩
        · right
          use a, t, rfl
          apply ih a |>.mpr
          left
          use p'
      · obtain ⟨a, t, rfl, h⟩ := path_op.mp h
        right
        use a, t ++ u, rfl
        apply ih a |>.mpr
        right
        use t, u, b

/-- A path through a composition is a failing path through the first part, or a path
through the first part followed by a path through the second. -/
theorem path_bind {p : Prog Op Ans ε α} {f : α → Prog Op Ans ε β}
    {tr : List (Event Op Ans)} {r : Except ε β} :
  Path (p >>= f) tr r ↔
    (∃ e, r = .error e ∧ Path p tr (.error e)) ∨
      ∃ t u a, tr = t ++ u ∧ Path p t (.ok a) ∧ Path (f a) u r
  := by
  induction p generalizing tr with
  | ret a => simp
  | fail e => simp [and_comm]
  | op o k ih =>
    simp only [op_bind, path_op, ih]
    constructor
    · rintro ⟨a, t, rfl, ⟨e, rfl, h⟩ | ⟨t₁, t₂, b, rfl, h₁, h₂⟩⟩
      · left
        use e, rfl, a, t
      · right
        use ⟨o, a⟩ :: t₁, t₂, b, rfl, ⟨a, t₁, rfl, h₁⟩
    · rintro (⟨e, rfl, a, t, rfl, h⟩ | ⟨_, t₂, b, rfl, ⟨a, t₁, rfl, h₁⟩, h₂⟩)
      · use a, t, rfl
        left
        use e
      · use a, t₁ ++ t₂, rfl
        right
        use t₁, t₂, b

theorem path_attempt {p : Prog Op Ans ε α} {tr : List (Event Op Ans)}
    {r : Except ε' (Except ε α)} :
  Path (p.attempt : Prog Op Ans ε' _) tr r ↔ ∃ x, r = .ok x ∧ Path p tr x
  := by
  induction p generalizing tr with
  | ret a => simp [attempt, and_comm]
  | fail e => simp [attempt, and_comm]
  | op o k ih =>
    simp only [attempt, path_op, ih]
    constructor
    · rintro ⟨a, t, rfl, x, rfl, h⟩
      use x, rfl, a, t
    · rintro ⟨x, rfl, a, t, rfl, h⟩
      use a, t, rfl, x

/-! ### Programs that keep to a class of operations -/

/-- Every operation the program may issue, whatever it is answered, satisfies `P`. -/
def AllOps (P : Op → Prop) : Prog Op Ans ε α → Prop
  | .ret _ => True
  | .fail _ => True
  | .op o k => P o ∧ ∀ a, (k a).AllOps P

variable {P Q : Op → Prop}

@[simp] theorem allOps_ret (a : α) :
  AllOps P (.ret a : Prog Op Ans ε α)
  := trivial

@[simp] theorem allOps_fail (e : ε) :
  AllOps P (.fail e : Prog Op Ans ε α)
  := trivial

@[simp] theorem allOps_op (o : Op) (k : Ans o → Prog Op Ans ε α) :
  AllOps P (.op o k) ↔ P o ∧ ∀ a, AllOps P (k a)
  := Iff.rfl

@[simp] theorem allOps_perform (o : Op) :
  AllOps P (perform o : Prog Op Ans ε (Ans o)) ↔ P o
  := by
  simp [perform]

@[simp] theorem allOps_ofExcept (x : Except ε α) :
  AllOps P (ofExcept x : Prog Op Ans ε α)
  := by
  cases x <;> simp

theorem AllOps.bind {p : Prog Op Ans ε α} {f : α → Prog Op Ans ε β}
    (hp : p.AllOps P) (hf : ∀ a, (f a).AllOps P) :
  (p >>= f).AllOps P
  := by
  induction p with
  | ret a => apply hf
  | fail e => trivial
  | op o k ih => exact ⟨hp.1, fun a => ih a (hp.2 a)⟩

theorem AllOps.attempt {p : Prog Op Ans ε α} (hp : p.AllOps P) :
  (p.attempt : Prog Op Ans ε' _).AllOps P
  := by
  induction p with
  | ret a => trivial
  | fail e => trivial
  | op o k ih => exact ⟨hp.1, fun a => ih a (hp.2 a)⟩

theorem AllOps.mono {p : Prog Op Ans ε α} (h : ∀ o, P o → Q o) (hp : p.AllOps P) :
  p.AllOps Q
  := by
  induction p with
  | ret a => trivial
  | fail e => trivial
  | op o k ih => exact ⟨h o hp.1, fun a => ih a (hp.2 a)⟩

theorem AllOps.and {p : Prog Op Ans ε α} (hp : p.AllOps P) (hq : p.AllOps Q) :
  p.AllOps fun o => P o ∧ Q o
  := by
  induction p with
  | ret a => trivial
  | fail e => trivial
  | op o k ih => exact ⟨⟨hp.1, hq.1⟩, fun a => ih a (hp.2 a) (hq.2 a)⟩

theorem AllOps.forM {l : List γ} {f : γ → Prog Op Ans ε PUnit}
    (hf : ∀ x ∈ l, (f x).AllOps P) :
  (l.forM f).AllOps P
  := by
  induction l with
  | nil => trivial
  | cons x l ih =>
    change AllOps P (f x >>= fun _ => l.forM f)
    apply AllOps.bind
    · apply hf x (by simp)
    · intro _
      apply ih
      intro y hy
      apply hf y (by simp [hy])

/-- The operations of a path are among those the program may issue. -/
theorem Steps.allOps {p q : Prog Op Ans ε α} {tr : List (Event Op Ans)}
    (h : Steps p tr q) (hp : p.AllOps P) :
  (∀ e ∈ tr, P e.op) ∧ q.AllOps P
  := by
  induction h with
  | nil => simpa using hp
  | cons a _ ih =>
    obtain ⟨ho, hk⟩ := hp
    obtain ⟨htr, hq⟩ := ih (hk a)
    constructor
    · simpa using ⟨ho, htr⟩
    · apply hq

theorem Path.allOps {p : Prog Op Ans ε α} {tr : List (Event Op Ans)} {r : Except ε α}
    (h : Path p tr r) (hp : p.AllOps P) :
  ∀ e ∈ tr, P e.op
  := (Steps.allOps h hp).1

/-! ### Runs against a handler -/

variable {σ τ : Type}

/-- What a program returns and where it leaves the state when `h` answers every operation. -/
def eval (h : (o : Op) → σ → Ans o × σ) : Prog Op Ans ε α → σ → Except ε α × σ
  | .ret a, s => (.ok a, s)
  | .fail e, s => (.error e, s)
  | .op o k, s => (k (h o s).1).eval h (h o s).2

variable {h : (o : Op) → σ → Ans o × σ}

@[simp] theorem eval_ret (a : α) (s : σ) :
  (.ret a : Prog Op Ans ε α).eval h s = (.ok a, s)
  := rfl

@[simp] theorem eval_fail (e : ε) (s : σ) :
  (.fail e : Prog Op Ans ε α).eval h s = (.error e, s)
  := rfl

@[simp] theorem eval_op (o : Op) (k : Ans o → Prog Op Ans ε α) (s : σ) :
  (Prog.op o k).eval h s = (k (h o s).1).eval h (h o s).2
  := rfl

@[simp] theorem eval_perform (o : Op) (s : σ) :
  (perform o : Prog Op Ans ε (Ans o)).eval h s = (.ok (h o s).1, (h o s).2)
  := rfl

@[simp] theorem eval_ofExcept (x : Except ε α) (s : σ) :
  (ofExcept x : Prog Op Ans ε α).eval h s = (x, s)
  := by
  cases x <;> rfl

theorem eval_bind (p : Prog Op Ans ε α) (f : α → Prog Op Ans ε β) (s : σ) :
  (p >>= f).eval h s =
    match p.eval h s with
    | (.ok a, s') => (f a).eval h s'
    | (.error e, s') => (.error e, s')
  := by
  induction p generalizing s with
  | ret a => rfl
  | fail e => rfl
  | op o k ih => apply ih

theorem eval_bind_ok {p : Prog Op Ans ε α} {f : α → Prog Op Ans ε β} {s s' : σ} {a : α}
    (hp : p.eval h s = (.ok a, s')) :
  (p >>= f).eval h s = (f a).eval h s'
  := by
  rw [eval_bind, hp]

theorem eval_bind_error {p : Prog Op Ans ε α} {f : α → Prog Op Ans ε β} {s s' : σ} {e : ε}
    (hp : p.eval h s = (.error e, s')) :
  (p >>= f).eval h s = (.error e, s')
  := by
  rw [eval_bind, hp]

/-- A value returned in the end does not decide on success. -/
theorem isOk_eval_bind_ret (p : Prog Op Ans ε α) (b : β) (s : σ) :
  ((p >>= fun _ => .ret b).eval h s).1.isOk = (p.eval h s).1.isOk
  := by
  rw [eval_bind]
  obtain ⟨r, t⟩ := p.eval h s
  cases r with
  | error e => rfl
  | ok a => rfl

theorem eval_attempt (p : Prog Op Ans ε α) (s : σ) :
  (p.attempt : Prog Op Ans ε' _).eval h s = (.ok (p.eval h s).1, (p.eval h s).2)
  := by
  induction p generalizing s with
  | ret a => rfl
  | fail e => rfl
  | op o k ih => apply ih

/-- A program that only issues operations that leave a part of the state alone leaves that
part of the state alone. -/
theorem eval_frame {p : Prog Op Ans ε α} (f : σ → τ) (hp : p.AllOps P)
    (hf : ∀ o s, P o → f (h o s).2 = f s) (s : σ) :
  f (p.eval h s).2 = f s
  := by
  induction p generalizing s with
  | ret a => rfl
  | fail e => rfl
  | op o k ih =>
    rw [eval_op, ih _ (hp.2 _), hf o s hp.1]

/-- The operations a program issues when `h` answers them. -/
def issued (h : (o : Op) → σ → Ans o × σ) : Prog Op Ans ε α → σ → List Op
  | .ret _, _ => []
  | .fail _, _ => []
  | .op o k, s => o :: (k (h o s).1).issued h (h o s).2

/-- A composition issues the operations of its first part and, if that returns a value, those
of its second part. -/
theorem mem_issued_bind {p : Prog Op Ans ε α} {f : α → Prog Op Ans ε β} {s : σ} {o : Op} :
  o ∈ (p >>= f).issued h s ↔
    o ∈ p.issued h s ∨ ∃ a t, p.eval h s = (.ok a, t) ∧ o ∈ (f a).issued h t
  := by
  induction p generalizing s with
  | ret a => simp [issued]
  | fail e => simp [issued]
  | op o' k ih =>
    simp only [op_bind, issued, List.mem_cons, eval_op]
    rw [ih, or_assoc]

/-- The operations issued are among those the program may issue. -/
theorem AllOps.of_issued {p : Prog Op Ans ε α} {s : σ} {o : Op} (hp : p.AllOps P)
    (ho : o ∈ p.issued h s) :
  P o
  := by
  induction p generalizing s with
  | ret a => cases ho
  | fail e => cases ho
  | op o' k ih =>
    rcases List.mem_cons.mp ho with rfl | ho
    · apply hp.1
    · apply ih _ (hp.2 _) ho

/-- A composition returns a value exactly when both parts do. -/
theorem eval_bind_eq_ok {p : Prog Op Ans ε α} {f : α → Prog Op Ans ε β} {s s' : σ} {b : β} :
  (p >>= f).eval h s = (.ok b, s') ↔
    ∃ a t, p.eval h s = (.ok a, t) ∧ (f a).eval h t = (.ok b, s')
  := by
  rw [eval_bind]
  rcases p.eval h s with ⟨_ | a, t⟩ <;> simp

end Prog
