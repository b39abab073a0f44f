/-!
# Association lists

What is found in a list of pairs after the pairs of one key have been removed: the
key itself is not found, and every other key as before.
-/

namespace CaseRunner

variable {α β : Type} [BEq α] [LawfulBEq α]

theorem lookup_filter_self (k : α) (l : List (α × β)) :
    (l.filter fun e => e.1 != k).lookup k = none := by
  rw [List.lookup_eq_none_iff]
  intro e he
  have far := (List.mem_filter.1 he).2
  rw [bne_iff_ne] at far
  exact bne_iff_ne.2 far.symm

theorem lookup_filter_of_ne {k other : α} (h : other ≠ k) (l : List (α × β)) :
    (l.filter fun e => e.1 != k).lookup other = l.lookup other := by
  induction l with
  | nil => rfl
  | cons e rest ih =>
    obtain ⟨key, value⟩ := e
    by_cases hk : key = k
    · subst hk
      have far : (other == key) = false := beq_false_of_ne h
      simp [List.lookup_cons, far, ih]
    · by_cases ho : other = key <;> simp [hk, ho, List.lookup_cons, ih]

end CaseRunner
