import BooleanSearch.Proofs.Parentheses

/-!
# Where the automaton stands

The automaton of a level is run over a text, and what it has cut off by then does not depend on
what follows.  Inside a group it counts parentheses, so the text of a group is known by its counts.

* `modeAfter` — the state behind a text; delimiters do not change it, so `modeAfter_trim`;
* `regions_append` — the regions of a joined text are those of its front, up to the text that is
  held there, and then those of its back;
* `regions_append_border` — behind a border nothing is held;
* `Mode.Counts`, `regions_groups` — the text of a group closes nothing it did not open, and it is
  balanced unless the text ends with parentheses of the group still open;
* `modeAfter_ne_group` — a balanced text leaves no group open.
-/

namespace BooleanSearch

/-! ## The state behind a text -/

/-- The state of the automaton behind a text that began as bare text. -/
def modeAfter (text : List Char) : Mode :=
  text.foldl Mode.next .bare

theorem Mode.next_of_isDelimiter (mode : Mode) {c : Char} (h : isDelimiter c = true) :
    mode.next c = mode := by
  obtain ⟨hquote, hopen, hclose⟩ := isDelimiter_ne h
  cases mode with
  | bare => simp [Mode.next, hquote, hopen]
  | phrase => simp [Mode.next, hquote]
  | group nesting => simp [Mode.next, hopen, hclose]

/-- Blank text changes no state. -/
theorem foldl_next_of_isBlank {text : List Char} (h : isBlank text = true) (mode : Mode) :
    text.foldl Mode.next mode = mode := by
  induction text with
  | nil => rfl
  | cons c rest ih =>
    obtain ⟨hc, hrest⟩ := Bool.and_eq_true_iff.1 h
    rw [List.foldl_cons, mode.next_of_isDelimiter hc, ih hrest]

theorem modeAfter_append_blank {trail : List Char} (h : isBlank trail = true) (text : List Char) :
    modeAfter (text ++ trail) = modeAfter text := by
  rw [modeAfter, List.foldl_append, foldl_next_of_isBlank h]
  rfl

/-- Trimming a level and putting a space in front of it changes no state. -/
theorem modeAfter_trim (text : List Char) : modeAfter (' ' :: trim text) = modeAfter text := by
  obtain ⟨lead, trail, hlead, htrail, heq⟩ := exists_trim_eq text
  have hfront : modeAfter (lead ++ trim text) = modeAfter (trim text) := by
    rw [modeAfter, List.foldl_append, foldl_next_of_isBlank hlead]
    rfl
  calc modeAfter (' ' :: trim text) = modeAfter (trim text) := rfl
    _ = modeAfter (lead ++ trim text ++ trail) := by rw [modeAfter_append_blank htrail, hfront]
    _ = modeAfter text := by rw [← heq]

/-- Only a border leads back to bare text. -/
theorem Mode.isBorder_of_next_bare {mode : Mode} {c : Char} (hmode : mode ≠ .bare)
    (h : mode.next c = .bare) : mode.isBorder c = true := by
  cases mode with
  | bare => exact absurd rfl hmode
  | phrase =>
    by_cases hc : c = '"'
    · simp [Mode.isBorder, hc]
    · simp [Mode.next, hc] at h
  | group nesting =>
    by_cases hopen : c = '('
    · simp [Mode.next, hopen] at h
    · by_cases hclose : c = ')'
      · cases nesting with
        | zero => simp [Mode.isBorder, hclose]
        | succ n => simp [Mode.next, hclose] at h
      · simp [Mode.next, hopen, hclose] at h

/-! ## Joined texts -/

/-- **The regions of a joined text**: what the front has cut off stays as it is, and the back is cut
from the state behind the front on, with the end of the front held. -/
theorem regions_append (mode : Mode) (held text : List Char) :
    ∃ closed held', held'.reverse <:+ held.reverse ++ text ∧
      ∀ rest, regions mode held (text ++ rest) =
        closed ++ regions (text.foldl Mode.next mode) held' rest := by
  induction text generalizing mode held with
  | nil => exact ⟨[], held, by simp, fun _ => rfl⟩
  | cons c text ih =>
    by_cases hborder : mode.isBorder c = true
    · obtain ⟨closed, held', hsuffix, hregions⟩ := ih (mode.next c) []
      refine ⟨mode.piece held.reverse :: closed, held', ?_, fun rest => ?_⟩
      · have hbehind : text <:+ held.reverse ++ c :: text := ⟨held.reverse ++ [c], by simp⟩
        exact hsuffix.trans hbehind
      · rw [List.cons_append, regions_border hborder, hregions]
        rfl
    · obtain ⟨closed, held', hsuffix, hregions⟩ := ih (mode.next c) (c :: held)
      refine ⟨closed, held', by simpa using hsuffix, fun rest => ?_⟩
      rw [List.cons_append, regions_cons (eq_false_of_ne_true hborder), hregions]
      rfl

/-- Behind a border that leads back to bare text nothing is held. -/
theorem regions_append_border {front : List Char} {last : Char} (hfront : modeAfter front ≠ .bare)
    (hlast : modeAfter (front ++ [last]) = .bare) :
    ∃ closed, ∀ rest, regions .bare [] (front ++ last :: rest) =
      closed ++ regions .bare [] rest := by
  obtain ⟨closed, held, -, hregions⟩ := regions_append .bare [] front
  have hnext : (modeAfter front).next last = .bare := by simpa [modeAfter] using hlast
  have hborder := Mode.isBorder_of_next_bare hfront hnext
  refine ⟨closed ++ [(modeAfter front).piece held.reverse], fun rest => ?_⟩
  rw [hregions, show front.foldl Mode.next .bare = modeAfter front from rfl,
    regions_border hborder, hnext]
  simp

/-! ## The text of a group -/

/-- What the automaton knows of the text it holds: inside a group, how many parentheses are open. -/
def Mode.Counts : Mode → List Char → Prop
  | .group nesting, text => ClosesWithin text ∧ text.count '(' = nesting + text.count ')'
  | _, _ => True

/-- Behind a border nothing has been opened yet. -/
theorem Mode.counts_of_border {mode : Mode} {c : Char} (h : mode.isBorder c = true) :
    (mode.next c).Counts [] := by
  cases mode with
  | bare =>
    obtain rfl | rfl : c = '"' ∨ c = '(' := by simpa [Mode.isBorder] using h
    · trivial
    · exact ⟨ClosesWithin.nil, rfl⟩
  | phrase =>
    obtain rfl : c = '"' := by simpa [Mode.isBorder] using h
    trivial
  | group nesting =>
    obtain ⟨rfl, rfl⟩ : nesting = 0 ∧ c = ')' := by simpa [Mode.isBorder] using h
    trivial

/-- Inside a group, one more character keeps the count if the parentheses add up. -/
theorem Mode.counts_concat {text : List Char} {c : Char} {n : Nat} (h : ClosesWithin text)
    (hcount : (text ++ [c]).count '(' = n + (text ++ [c]).count ')') :
    (Mode.group n).Counts (text ++ [c]) :=
  ⟨h.concat (by omega), hcount⟩

/-- A character that is no border is counted. -/
theorem Mode.counts_step {mode : Mode} {c : Char} {text : List Char}
    (hborder : mode.isBorder c = false) (h : mode.Counts text) :
    (mode.next c).Counts (text ++ [c]) := by
  cases mode with
  | bare =>
    obtain ⟨hquote, hopen⟩ : c ≠ '"' ∧ c ≠ '(' := by simpa [Mode.isBorder] using hborder
    simp [Mode.next, hquote, hopen, Mode.Counts]
  | phrase =>
    have hquote : c ≠ '"' := by simpa [Mode.isBorder] using hborder
    simp [Mode.next, hquote, Mode.Counts]
  | group nesting =>
    obtain ⟨hclose, hcount⟩ := h
    by_cases hopen : c = '('
    · subst hopen
      apply Mode.counts_concat hclose
      simp
      omega
    by_cases hshut : c = ')'
    · subst hshut
      cases nesting with
      | zero => simp [Mode.isBorder] at hborder
      | succ n =>
        apply Mode.counts_concat hclose
        simp
        omega
    · simp only [Mode.next, hopen, hshut, if_false]
      apply Mode.counts_concat hclose
      simp [List.count_append, hopen, hshut]
      omega

/-- **The groups of a level** close nothing they did not open.  They are balanced, except for the
last one if the text ends while parentheses are open in it. -/
theorem regions_groups {mode : Mode} {held text inner : List Char}
    (hheld : mode.Counts held.reverse) (h : .group inner ∈ regions mode held text) :
    ClosesWithin inner ∧
      ((∀ n, text.foldl Mode.next mode ≠ .group (n + 1)) → Balanced inner) := by
  induction text generalizing mode held with
  | nil =>
    cases mode with
    | group nesting =>
      obtain rfl : inner = held.reverse := by simpa [regions, Mode.piece] using h
      obtain ⟨hclose, hcount⟩ := hheld
      refine ⟨hclose, fun hend => ⟨hclose, ?_⟩⟩
      cases nesting with
      | zero => omega
      | succ n => exact absurd rfl (hend n)
    | _ => simp [regions, Mode.piece] at h
  | cons c rest ih =>
    by_cases hborder : mode.isBorder c = true
    · rw [regions_border hborder] at h
      obtain hpiece | hrest := List.mem_cons.1 h
      · -- the border ends a group in which nothing else is open
        cases mode with
        | group nesting =>
          obtain ⟨rfl, -⟩ : nesting = 0 ∧ c = ')' := by simpa [Mode.isBorder] using hborder
          obtain rfl := Piece.group.inj hpiece
          obtain ⟨hclose, hcount⟩ := hheld
          exact ⟨hclose, fun _ => ⟨hclose, by omega⟩⟩
        | _ => cases hpiece
      · have hnone : (mode.next c).Counts ([] : List Char).reverse := Mode.counts_of_border hborder
        exact ih hnone hrest
    · have hborder : mode.isBorder c = false := eq_false_of_ne_true hborder
      rw [regions_cons hborder] at h
      refine ih ?_ h
      rw [List.reverse_cons]
      exact Mode.counts_step hborder hheld

/-- A group that is open at the end was opened somewhere in bare text, and what follows is counted
as the state says. -/
theorem exists_of_modeAfter_group {text : List Char} {n : Nat} (h : modeAfter text = .group n) :
    ∃ front inside, text = front ++ '(' :: inside ∧ modeAfter front = .bare ∧
      (Mode.group n).Counts inside := by
  induction text using List.reverseRecOn generalizing n with
  | nil => cases h
  | append_singleton text c ih =>
    have hnext : (modeAfter text).next c = .group n := by simpa [modeAfter] using h
    cases hmode : modeAfter text with
    | bare =>
      rw [hmode, Mode.next] at hnext
      split at hnext
      · cases hnext
      split at hnext
      · rename_i hc
        obtain rfl : 0 = n := by simpa using hnext
        exact ⟨text, [], by rw [hc], hmode, ClosesWithin.nil, rfl⟩
      · cases hnext
    | phrase =>
      rw [hmode, Mode.next] at hnext
      split at hnext <;> cases hnext
    | group m =>
      obtain ⟨front, inside, rfl, hfront, hcounts⟩ := ih hmode
      rw [hmode] at hnext
      -- the border of the group would lead back to bare text
      have hborder : (Mode.group m).isBorder c = false := by
        by_contra hborder
        obtain ⟨rfl, rfl⟩ : m = 0 ∧ c = ')' := by simpa [Mode.isBorder] using hborder
        cases hnext
      refine ⟨front, inside ++ [c], by simp, hfront, ?_⟩
      rw [← hnext]
      exact Mode.counts_step hborder hcounts

/-- A balanced text leaves no group open: the parentheses behind the last opening one would have to
close more than they open. -/
theorem modeAfter_ne_group {text : List Char} (h : Balanced text) (n : Nat) :
    modeAfter text ≠ .group n := by
  intro hmode
  obtain ⟨front, inside, rfl, -, -, hcount⟩ := exists_of_modeAfter_group hmode
  have hfront := h.fronts front (List.prefix_append _ _)
  have htotal := h.total
  simp [List.count_append] at htotal
  omega

end BooleanSearch
