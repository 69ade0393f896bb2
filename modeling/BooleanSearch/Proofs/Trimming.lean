import BooleanSearch.Text.Character
import Mathlib.Data.List.DropRight

/-!
# Trimming

What trimming does to text, for the proofs about reading and writing.  First for any class of
characters:

* `exists_trimBy_eq` — text is its trimmed form between two ends of the class;
* `trimBy_lead`, `trimBy_trail` — what such an end holds does not matter;
* `trimBy_eq_self` — text with no character of the class at its ends is trimmed already.

Then for delimiters, in terms of blank text:

* `head?_trim`, `getLast?_trim` — trimmed text has no delimiter at its ends, so `trim_trim`;
* `trim_eq_nil_iff`, `isBlank_trim` — exactly blank text trims to nothing;
* `exists_append_blank`, `trim_eq_dropWhile` — text is a part that ends in no delimiter and a blank
  end, and of the first part trimming takes the front only.
-/

namespace BooleanSearch

/-! ## Any class of characters -/

section Classes

variable {inClass : Char → Bool}

/-- Trimming drops characters of the class on the left and then on the right. -/
theorem trimBy_eq_rdropWhile (inClass : Char → Bool) (text : List Char) :
    trimBy inClass text = (text.dropWhile inClass).rdropWhile inClass := rfl

/-- **Text is its trimmed form** between two ends that hold nothing but characters of the class. -/
theorem exists_trimBy_eq (inClass : Char → Bool) (text : List Char) :
    ∃ lead trail, lead.all inClass = true ∧ trail.all inClass = true ∧
      text = lead ++ trimBy inClass text ++ trail := by
  refine ⟨text.takeWhile inClass, (text.dropWhile inClass).rtakeWhile inClass,
    List.all_takeWhile, ?_, ?_⟩
  · exact List.all_eq_true.2 fun c hc => List.mem_rtakeWhile_imp hc
  · rw [List.append_assoc, trimBy_eq_rdropWhile, List.rdropWhile_append_rtakeWhile,
      List.takeWhile_append_dropWhile]

theorem trimBy_lead {lead : List Char} (h : lead.all inClass = true) (text : List Char) :
    trimBy inClass (lead ++ text) = trimBy inClass text := by
  rw [trimBy, trimBy, List.dropWhile_append_of_pos (List.all_eq_true.1 h)]

theorem trimBy_trail {trail : List Char} (h : trail.all inClass = true) (text : List Char) :
    trimBy inClass (text ++ trail) = trimBy inClass text := by
  have hend : ∀ c ∈ trail.reverse, inClass c = true := by
    intro c hc
    exact List.all_eq_true.1 h c (List.mem_reverse.1 hc)
  rw [trimBy, trimBy, List.dropWhile_append]
  split
  · -- nothing but characters of the class in front of the end either
    rename_i hempty
    rw [List.dropWhile_eq_nil_iff.2 (List.all_eq_true.1 h), List.isEmpty_iff.1 hempty]
  · rw [List.reverse_append, List.dropWhile_append_of_pos hend]

/-- Text with no character of the class at its ends is trimmed already. -/
theorem trimBy_eq_self {text : List Char} (hhead : text.head?.any inClass = false)
    (hlast : text.getLast?.any inClass = false) : trimBy inClass text = text := by
  have hleft : text.dropWhile inClass = text := by
    cases text with
    | nil => rfl
    | cons c rest => exact List.dropWhile_cons_of_neg (Bool.eq_false_iff.1 hhead)
  rw [trimBy_eq_rdropWhile, hleft, List.rdropWhile_eq_self_iff]
  intro hne
  rw [List.getLast?_eq_some_getLast hne] at hlast
  exact Bool.eq_false_iff.1 hlast

theorem trimBy_of_forall {text : List Char} (h : ∀ c ∈ text, inClass c = false) :
    trimBy inClass text = text := by
  apply trimBy_eq_self
  · cases text with
    | nil => rfl
    | cons c rest => exact h c List.mem_cons_self
  · cases hlast : text.getLast? with
    | none => rfl
    | some c => exact h c (List.mem_of_getLast? hlast)

end Classes

/-! ## Blank text -/

theorem isBlank_reverse (xs : List Char) : isBlank xs.reverse = isBlank xs := by
  rw [isBlank, List.all_reverse]
  rfl

/-- A delimiter is neither a quote nor a parenthesis. -/
theorem isDelimiter_ne {c : Char} (h : isDelimiter c = true) : c ≠ '"' ∧ c ≠ '(' ∧ c ≠ ')' := by
  have hne : ∀ d, isDelimiter d = false → c ≠ d := by
    intro d hd heq
    rw [← heq, h] at hd
    cases hd
  exact ⟨hne '"' rfl, hne '(' rfl, hne ')' rfl⟩

/-! ## Trimmed text -/

theorem exists_trim_eq (text : List Char) :
    ∃ lead trail, isBlank lead = true ∧ isBlank trail = true ∧ text = lead ++ trim text ++ trail :=
  exists_trimBy_eq isDelimiter text

theorem trim_blank_append {lead : List Char} (h : isBlank lead = true) (text : List Char) :
    trim (lead ++ text) = trim text :=
  trimBy_lead h text

theorem trim_append_blank {trail : List Char} (h : isBlank trail = true) (text : List Char) :
    trim (text ++ trail) = trim text :=
  trimBy_trail h text

theorem trim_eq_self {text : List Char} (hhead : text.head?.any isDelimiter = false)
    (hlast : text.getLast?.any isDelimiter = false) : trim text = text :=
  trimBy_eq_self hhead hlast

/-- The first character of trimmed text is no delimiter. -/
theorem head?_trim (text : List Char) : (trim text).head?.any isDelimiter = false := by
  cases htrim : trim text with
  | nil => rfl
  | cons c rest =>
    -- what stands in front after the right end is cut stood in front before
    obtain ⟨trail, htrail⟩ := List.rdropWhile_prefix isDelimiter (text.dropWhile isDelimiter)
    have hnot := List.head?_dropWhile_not isDelimiter text
    rw [← htrail, ← trimBy_eq_rdropWhile, ← trim, htrim] at hnot
    exact hnot

/-- The last character of trimmed text is no delimiter. -/
theorem getLast?_trim (text : List Char) : (trim text).getLast?.any isDelimiter = false := by
  by_cases hne : trim text = []
  · rw [hne]
    rfl
  · have hnot := List.rdropWhile_last_not isDelimiter (text.dropWhile isDelimiter) hne
    rw [List.getLast?_eq_some_getLast hne]
    exact Bool.eq_false_iff.2 hnot

theorem trim_trim (text : List Char) : trim (trim text) = trim text :=
  trim_eq_self (head?_trim text) (getLast?_trim text)

/-- Exactly blank text trims to nothing. -/
theorem trim_eq_nil_iff (text : List Char) : trim text = [] ↔ isBlank text = true := by
  constructor
  · intro h
    obtain ⟨lead, trail, hlead, htrail, heq⟩ := exists_trim_eq text
    rw [heq, h, List.append_nil, isBlank, List.all_append]
    exact Bool.and_eq_true_iff.2 ⟨hlead, htrail⟩
  · intro h
    have hnothing := trim_blank_append h []
    rw [List.append_nil] at hnothing
    exact hnothing

/-- Trimmed text is blank only if the text is. -/
theorem isBlank_trim (text : List Char) : isBlank (trim text) = isBlank text := by
  rw [Bool.eq_iff_iff, ← trim_eq_nil_iff, trim_trim, trim_eq_nil_iff]

/-! ## The blank end -/

/-- Text is a part that ends in no delimiter, and a blank end. -/
theorem exists_append_blank (text : List Char) :
    ∃ body trail, body.getLast?.any isDelimiter = false ∧ isBlank trail = true ∧
      text = body ++ trail := by
  refine ⟨text.rdropWhile isDelimiter, text.rtakeWhile isDelimiter, ?_,
    List.all_eq_true.2 fun c hc => List.mem_rtakeWhile_imp hc,
    List.rdropWhile_append_rtakeWhile.symm⟩
  by_cases hne : text.rdropWhile isDelimiter = []
  · simp [hne]
  · rw [List.getLast?_eq_some_getLast hne]
    exact Bool.eq_false_iff.2 (List.rdropWhile_last_not isDelimiter text hne)

theorem getLast?_append_any_isDelimiter {xs ys : List Char}
    (hx : xs.getLast?.any isDelimiter = false) (hy : ys.getLast?.any isDelimiter = false) :
    (xs ++ ys).getLast?.any isDelimiter = false := by
  by_cases hne : ys = []
  · rw [hne, List.append_nil]
    exact hx
  · rw [List.getLast?_append_of_ne_nil _ hne]
    exact hy

/-- Of text that ends in no delimiter trimming takes the front only. -/
theorem trim_eq_dropWhile {body : List Char} (h : body.getLast?.any isDelimiter = false) :
    trim body = body.dropWhile isDelimiter := by
  rw [trim, trimBy_eq_rdropWhile, List.rdropWhile_eq_self_iff]
  intro hne hlast
  have hsame : body.getLast? = (body.dropWhile isDelimiter).getLast? := by
    conv_lhs => rw [← List.takeWhile_append_dropWhile (p := isDelimiter) (l := body)]
    exact List.getLast?_append_of_ne_nil _ hne
  rw [hsame, List.getLast?_eq_some_getLast hne, Option.any_some, hlast] at h
  cases h

end BooleanSearch
