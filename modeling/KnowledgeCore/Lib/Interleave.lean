import Mathlib.Logic.Function.Basic
import KnowledgeCore.Lib.CrashLogic

/-!
# Programs that take turns

Any number of parties run a program each over a state they share, one operation at a time and in
any order. A run leaves a trace of who issued which operation and how it was answered. What a
party did is a path of its own program.
-/

namespace Prog

variable {Op : Type} {Ans : Op → Type} {ε ι σ : Type} {Res : ι → Type} [DecidableEq ι]

/-- `Interleaved R prog s₀ tr ps s` holds when parties that run `prog` from the state `s₀` may
leave the trace `tr`, and come to the state `s` with `ps` left to run. -/
inductive Interleaved (R : Effect Op Ans σ) (prog : (i : ι) → Prog Op Ans ε (Res i)) (s₀ : σ) :
    List (ι × Event Op Ans) → ((i : ι) → Prog Op Ans ε (Res i)) → σ → Prop
  | start : Interleaved R prog s₀ [] prog s₀
  | turn {tr ps s t} (i : ι) {o : Op} {k : Ans o → Prog Op Ans ε (Res i)} {a : Ans o} :
      Interleaved R prog s₀ tr ps s → ps i = .op o k → R o s a t →
      Interleaved R prog s₀ (tr ++ [(i, ⟨o, a⟩)]) (Function.update ps i (k a)) t

/-- What one party did in a trace. -/
def own (i : ι) (tr : List (ι × Event Op Ans)) : List (Event Op Ans) :=
  tr.filterMap fun e => if e.1 = i then some e.2 else none

@[simp] theorem own_nil (i : ι) :
  own i ([] : List (ι × Event Op Ans)) = []
  := rfl

theorem own_append (i : ι) (tr tr' : List (ι × Event Op Ans)) :
  own i (tr ++ tr') = own i tr ++ own i tr'
  := List.filterMap_append

@[simp] theorem own_singleton_self (i : ι) (e : Event Op Ans) :
  own i [(i, e)] = [e]
  := by
  simp [own]

theorem own_singleton_of_ne {i j : ι} (h : j ≠ i) (e : Event Op Ans) :
  own i [(j, e)] = []
  := by
  simp [own, h]

theorem mem_own {i : ι} {tr : List (ι × Event Op Ans)} {e : Event Op Ans} :
  e ∈ own i tr ↔ (i, e) ∈ tr
  := by
  rw [own, List.mem_filterMap]
  constructor
  · rintro ⟨⟨j, e'⟩, hmem, he⟩
    split_ifs at he with hj
    cases he
    rwa [← hj]
  · intro h
    use (i, e), h
    rw [if_pos rfl]

variable {R : Effect Op Ans σ} {prog ps : (i : ι) → Prog Op Ans ε (Res i)} {s₀ s : σ}
  {tr : List (ι × Event Op Ans)}

/-- A party is where its own operations have led it. -/
theorem Interleaved.steps (h : Interleaved R prog s₀ tr ps s) (i : ι) :
  Steps (prog i) (own i tr) (ps i)
  := by
  induction h with
  | start => apply Steps.nil
  | turn j _ hj hop ih =>
    rw [own_append]
    by_cases hij : j = i
    · subst hij
      rw [own_singleton_self, Function.update_self]
      rw [hj] at ih
      apply steps_trans ih
      apply Steps.cons _ (Steps.nil _)
    · rw [own_singleton_of_ne hij, List.append_nil, Function.update_of_ne (Ne.symm hij)]
      apply ih

end Prog
