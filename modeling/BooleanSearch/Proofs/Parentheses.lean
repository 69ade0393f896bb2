import Mathlib.Data.List.Infix
import BooleanSearch.Proofs.Scanning

/-!
# Balanced parentheses

Quotes mean nothing inside a group, so where a group ends depends on its parentheses alone.

* `ClosesWithin` — no beginning of the text closes more than it opens;
* `Balanced` — moreover the whole closes as much as it opens; joining, bracketing and trimming keep
  texts balanced;
* `regions_group` — what the automaton does to a text that closes nothing it did not open;
* `piecesFrom_group` — a balanced text in parentheses is a group of its own.
-/

namespace BooleanSearch

/-- No beginning of the text closes more parentheses than it opens. -/
def ClosesWithin (text : List Char) : Prop :=
  ∀ front, front <+: text → front.count ')' ≤ front.count '('

/-- No beginning closes more parentheses than it opens, and the totals are equal. -/
@[mk_iff]
structure Balanced (text : List Char) : Prop where
  fronts : ClosesWithin text
  total : text.count '(' = text.count ')'

instance (text : List Char) : Decidable (Balanced text) :=
  decidable_of_iff
    ((∀ front ∈ text.inits, front.count ')' ≤ front.count '(') ∧ text.count '(' = text.count ')')
    (by simp only [balanced_iff, ClosesWithin, List.mem_inits])

/-! ## Balanced texts -/

theorem ClosesWithin.nil : ClosesWithin [] := by
  intro front hfront
  simp [List.prefix_nil.1 hfront]

/-- One more character, as long as it closes nothing that is not open. -/
theorem ClosesWithin.concat {text : List Char} (h : ClosesWithin text) {c : Char}
    (hc : (text ++ [c]).count ')' ≤ (text ++ [c]).count '(') : ClosesWithin (text ++ [c]) := by
  intro front hfront
  obtain rfl | hfront := List.prefix_concat_iff.1 hfront
  · exact hc
  · exact h front hfront

/-- Text without parentheses is balanced. -/
theorem Balanced.of_not_mem {text : List Char} (hopen : '(' ∉ text) (hclose : ')' ∉ text) :
    Balanced text where
  fronts front hfront := by
    rw [List.count_eq_zero_of_not_mem (fun h => hclose (hfront.subset h))]
    exact Nat.zero_le _
  total := by rw [List.count_eq_zero_of_not_mem hopen, List.count_eq_zero_of_not_mem hclose]

theorem Balanced.append {xs ys : List Char} (hx : Balanced xs) (hy : Balanced ys) :
    Balanced (xs ++ ys) where
  fronts front hfront := by
    obtain hshort | ⟨tail, rfl⟩ := List.prefix_or_prefix_of_prefix hfront (List.prefix_append xs ys)
    · exact hx.fronts front hshort
    · have htotal := hx.total
      have hle := hy.fronts tail ((List.prefix_append_right_inj xs).1 hfront)
      rw [List.count_append, List.count_append]
      omega
  total := by rw [List.count_append, List.count_append, hx.total, hy.total]

theorem Balanced.bracket {text : List Char} (h : Balanced text) :
    Balanced ('(' :: (text ++ [')'])) where
  fronts front hfront := by
    obtain rfl | ⟨tail, rfl, htail⟩ := List.prefix_cons_iff.1 hfront
    · exact Nat.le_refl _
    · have htotal := h.total
      obtain rfl | htail := List.prefix_concat_iff.1 htail
      · simp [htotal]
      · have hle := h.fronts tail htail
        simp
        omega
  total := by simp [h.total]

theorem count_of_isBlank {text : List Char} (h : isBlank text = true) :
    text.count '(' = 0 ∧ text.count ')' = 0 := by
  have hne := fun c hc => isDelimiter_ne (List.all_eq_true.1 h c hc)
  exact ⟨List.count_eq_zero_of_not_mem fun hc => (hne _ hc).2.1 rfl,
    List.count_eq_zero_of_not_mem fun hc => (hne _ hc).2.2 rfl⟩

theorem ClosesWithin.trim {text : List Char} (h : ClosesWithin text) :
    ClosesWithin (trim text) := by
  obtain ⟨lead, trail, hlead, -, heq⟩ := exists_trim_eq text
  obtain ⟨hlead₁, hlead₂⟩ := count_of_isBlank hlead
  intro front hfront
  have hlong : lead ++ front <+: text := by
    rw [heq, List.append_assoc]
    exact (List.prefix_append_right_inj lead).2 (hfront.trans (List.prefix_append _ _))
  have hle := h _ hlong
  rw [List.count_append, List.count_append] at hle
  omega

/-- Trimming keeps text balanced. -/
theorem Balanced.trim {text : List Char} (h : Balanced text) : Balanced (trim text) where
  fronts := h.fronts.trim
  total := by
    obtain ⟨lead, trail, hlead, htrail, heq⟩ := exists_trim_eq text
    obtain ⟨hlead₁, hlead₂⟩ := count_of_isBlank hlead
    obtain ⟨htrail₁, htrail₂⟩ := count_of_isBlank htrail
    have htotal := h.total
    rw [heq] at htotal
    simp only [List.count_append] at htotal
    omega

/-! ## Groups -/

/-- Inside a group the automaton counts open parentheses, as long as a text does not close more
of them than are open. -/
theorem regions_group {text : List Char} {n m : Nat}
    (hfronts : ∀ front, front <+: text → front.count ')' ≤ n + front.count '(')
    (htotal : n + text.count '(' = m + text.count ')') (held rest : List Char) :
    regions (.group n) held (text ++ rest) = regions (.group m) (text.reverse ++ held) rest := by
  induction text generalizing n held with
  | nil =>
    obtain rfl : n = m := by simpa using htotal
    rfl
  | cons c text ih =>
    have hfronts' : ∀ front, front <+: text →
        (c :: front).count ')' ≤ n + (c :: front).count '(' :=
      fun front hfront => hfronts _ (List.cons_prefix_cons.2 ⟨rfl, hfront⟩)
    rw [List.cons_append, List.reverse_cons, List.append_assoc, List.singleton_append]
    by_cases hopen : c = '('
    · subst hopen
      simp only [List.count_cons_self, List.count_cons_of_ne (by decide : '(' ≠ ')')]
        at hfronts' htotal
      rw [regions_cons (by simp [Mode.isBorder])]
      refine ih (n := n + 1) (fun front hfront => ?_) (by omega) _
      have hle := hfronts' front hfront
      omega
    by_cases hclose : c = ')'
    · subst hclose
      simp only [List.count_cons_self, List.count_cons_of_ne (by decide : ')' ≠ '(')]
        at hfronts' htotal
      -- a parenthesis of the text itself is open, so this one does not end the group
      cases n with
      | zero => exact absurd (hfronts' [] List.nil_prefix) (by decide)
      | succ n =>
        rw [regions_cons (by simp [Mode.isBorder])]
        refine ih (n := n) (fun front hfront => ?_) (by omega) _
        have hle := hfronts' front hfront
        omega
    · simp only [List.count_cons_of_ne hopen, List.count_cons_of_ne hclose] at hfronts' htotal
      have hnext : (Mode.group n).next c = .group n := by simp [Mode.next, hopen, hclose]
      rw [regions_cons (by simp [Mode.isBorder, hclose]), hnext]
      exact ih hfronts' htotal _

/-- A balanced text in parentheses is a group of its own. -/
theorem piecesFrom_group {text : List Char} (h : Balanced text) (held rest : List Char) :
    piecesFrom held ('(' :: (text ++ ')' :: rest)) =
      .bare held.reverse :: .group text :: piecesFrom [] rest := by
  have hrun : regions (.group 0) [] (text ++ ')' :: rest) =
      regions (.group 0) (text.reverse ++ []) (')' :: rest) := by
    refine regions_group (fun front hfront => ?_) (by rw [h.total]) [] (')' :: rest)
    rw [Nat.zero_add]
    exact h.fronts front hfront
  rw [piecesFrom_border (by decide), show Mode.bare.next '(' = .group 0 from rfl, hrun,
    List.append_nil, regions_border (by decide), show (Mode.group 0).next ')' = .bare from rfl,
    List.flatMap_cons, flatMap_cut_regions, List.reverse_reverse]
  rfl

end BooleanSearch
