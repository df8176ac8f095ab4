import Std.Data.ExtTreeMap

/-!
# Written maps

A map that comes from another by writing entries of a certain kind. A key stays what it is while
nothing else is written there, and no key is ever lost.
-/

section

variable {κ β : Type} {cmp : κ → κ → Ordering} [Std.TransCmp cmp]

/-- The maps that come from `m` by writing entries of the kind `P`. -/
inductive Written (P : κ → β → Prop) (m : Std.ExtTreeMap κ β cmp) :
    Std.ExtTreeMap κ β cmp → Prop
  | refl : Written P m m
  | insert {m' k b} (h : Written P m m') (hwrite : P k b) : Written P m (m'.insert k b)

end

namespace Written

variable {κ β : Type} {cmp : κ → κ → Ordering} [Std.TransCmp cmp] {P Q : κ → β → Prop}
  {m m' m'' : Std.ExtTreeMap κ β cmp} {k : κ} {b : β}

theorem single (h : P k b) :
  Written P m (m.insert k b)
  := refl.insert h

theorem trans (h : Written P m m') (h' : Written P m' m'') :
  Written P m m''
  := by
  induction h' with
  | refl => exact h
  | insert _ hwrite ih => exact ih.insert hwrite

theorem mono (hPQ : ∀ k b, P k b → Q k b) (h : Written P m m') :
  Written Q m m'
  := by
  induction h with
  | refl => exact refl
  | insert _ hwrite ih => exact ih.insert (hPQ _ _ hwrite)

/-- No key is lost. -/
theorem isSome (h : Written P m m') (hk : m[k]?.isSome = true) :
  m'[k]?.isSome = true
  := by
  induction h with
  | refl => exact hk
  | insert _ _ ih =>
    rw [Std.ExtTreeMap.getElem?_insert]
    split
    · rfl
    · exact ih

variable [Std.LawfulEqCmp cmp]

/-- Where nothing is written nothing changes. -/
theorem getElem?_eq (h : Written P m m') (hk : ∀ b, ¬ P k b) :
  m'[k]? = m[k]?
  := by
  induction h with
  | refl => rfl
  | insert _ hwrite ih =>
    rw [Std.ExtTreeMap.getElem?_insert, if_neg]
    · exact ih
    · rw [Std.LawfulEqCmp.compare_eq_iff_eq]
      rintro rfl
      exact hk _ hwrite

/-- An entry stays if nothing else is written in its place. -/
theorem getElem?_eq_some (h : Written P m m') (hk : ∀ b', P k b' → b' = b)
    (hb : m[k]? = some b) :
  m'[k]? = some b
  := by
  induction h with
  | refl => exact hb
  | insert _ hwrite ih =>
    rw [Std.ExtTreeMap.getElem?_insert]
    split
    · next heq =>
      rw [Std.LawfulEqCmp.compare_eq_iff_eq] at heq
      subst heq
      rw [hk _ hwrite]
    · exact ih

end Written
