import BooleanSearch.Fragment.Like
import Mathlib.Data.List.Basic

/-!
# The segments of a template

A template is cut at its markers from left to right, and what is put in their place is not searched.
So the cut depends on the template and the marker alone, and it is the only one in which each marker
is the first that could be taken.

* `occursIn_iff` — a marker occurs if it is a part of the text;
* `cutMarkers_held`, `cutMarkers_marker` — what the search for markers does to text in which none
  begins, and at a marker;
* `IsSplit` — a cut in which each segment ends where the first marker begins;
* `cutMarkers_isSplit` — the search gives such a cut, whose invariant is that no marker begins in
  what is held;
* `segments_eq_iff` — and no other cut is one;
* `template_segments` — the statement for templates and every quoter.
-/

namespace BooleanSearch

/-! ## Occurrences -/

theorem occursIn_iff {marker : List Char} (text : List Char) :
    occursIn marker text = true ↔ marker <:+: text := by
  induction text with
  | nil => rw [occursIn, List.isEmpty_iff, List.infix_nil]
  | cons c rest ih =>
    rw [occursIn, Bool.or_eq_true, List.isPrefixOf_iff_prefix, ih, List.infix_cons_iff]

/-! ## The search for markers -/

/-- No marker begins in a text, also if it goes on into what follows. -/
def Unmarked (marker text rest : List Char) : Prop :=
  ∀ front back, text = front ++ back → back ≠ [] → ¬marker <+: back ++ rest

theorem Unmarked.nil (marker rest : List Char) : Unmarked marker [] rest := by
  intro front back heq hne
  exact absurd (List.append_eq_nil_iff.1 heq.symm).2 hne

theorem Unmarked.tail {marker text rest : List Char} {c : Char}
    (h : Unmarked marker (c :: text) rest) : Unmarked marker text rest :=
  fun front back heq hne => h (c :: front) back (by rw [heq]; rfl) hne

/-- A character at which no marker begins may be added. -/
theorem Unmarked.concat {marker text rest : List Char} {c : Char}
    (h : Unmarked marker text (c :: rest)) (hc : ¬marker <+: c :: rest) :
    Unmarked marker (text ++ [c]) rest := by
  intro front back heq hne
  obtain ⟨back, last, rfl⟩ := (List.eq_nil_or_concat' back).resolve_left hne
  rw [← List.append_assoc] at heq
  obtain ⟨htext, hlast⟩ := List.append_inj' heq rfl
  obtain rfl : c = last := List.head_eq_of_cons_eq hlast
  rw [List.append_assoc]
  cases back with
  | nil => exact hc
  | cons x back => exact h front (x :: back) htext (List.cons_ne_nil x back)

/-- Text in which no marker begins is held. -/
theorem cutMarkers_held {marker text rest : List Char} (h : Unmarked marker text rest)
    (held : List Char) :
    cutMarkers marker held 0 (text ++ rest) = cutMarkers marker (text.reverse ++ held) 0 rest := by
  induction text generalizing held with
  | nil => rfl
  | cons c text ih =>
    have hc : ¬marker.isPrefixOf (c :: (text ++ rest)) = true := fun hc =>
      h [] (c :: text) rfl (List.cons_ne_nil c text) (List.isPrefixOf_iff_prefix.1 hc)
    rw [List.cons_append, cutMarkers, if_neg hc, ih h.tail]
    simp

/-- The search passes over as many characters as it is told to. -/
theorem cutMarkers_pass (marker held passed rest : List Char) :
    cutMarkers marker held passed.length (passed ++ rest) = cutMarkers marker held 0 rest := by
  induction passed with
  | nil => rfl
  | cons c passed ih => exact ih

/-- A marker ends the segment before it and is passed over. -/
theorem cutMarkers_marker {marker : List Char} (hne : marker ≠ []) (held rest : List Char) :
    cutMarkers marker held 0 (marker ++ rest) = held.reverse :: cutMarkers marker [] 0 rest := by
  cases marker with
  | nil => exact absurd rfl hne
  | cons m marker =>
    have hfound : (m :: marker).isPrefixOf (m :: (marker ++ rest)) = true :=
      List.isPrefixOf_iff_prefix.2 (List.prefix_append (m :: marker) rest)
    rw [List.cons_append, cutMarkers, hfound, if_pos rfl]
    exact congrArg (held.reverse :: ·) (cutMarkers_pass (m :: marker) [] marker rest)

/-! ## Cuts at the first markers -/

/-- Behind a segment the marker stands at the very end, and nowhere before. -/
def MarkerEnds (marker segment : List Char) : Prop :=
  ∀ front back, segment ++ marker = front ++ (marker ++ back) → back = []

/-- A cut of a text at markers, in which every marker is the first one that could be taken. -/
structure IsSplit (marker text : List Char) (parts : List (List Char)) : Prop where
  joined : text = List.intercalate marker parts
  ne_nil : parts ≠ []
  ends : ∀ part ∈ parts.dropLast, MarkerEnds marker part
  last : ∀ part ∈ parts.getLast?, ¬marker <:+: part

section Cuts

variable {marker : List Char}

theorem IsSplit.singleton {part : List Char} (h : ¬marker <:+: part) :
    IsSplit marker part [part] where
  joined := by simp [List.intercalate]
  ne_nil := List.cons_ne_nil _ _
  ends := nofun
  last := by
    intro other hother
    obtain rfl : part = other := Option.some.inj hother
    exact h

theorem IsSplit.cons {part rest : List Char} {parts : List (List Char)}
    (hpart : MarkerEnds marker part) (h : IsSplit marker rest parts) :
    IsSplit marker (part ++ (marker ++ rest)) (part :: parts) := by
  cases parts with
  | nil => exact absurd rfl h.ne_nil
  | cons next parts =>
    exact
      { joined := by rw [List.intercalate_cons_cons, ← h.joined, List.append_assoc]
        ne_nil := List.cons_ne_nil _ _
        ends := by
          rw [List.dropLast_cons_cons]
          exact List.forall_mem_cons.2 ⟨hpart, h.ends⟩
        last := by
          rw [List.getLast?_cons_cons]
          exact h.last }

/-- Where no marker begins, none is part of the text. -/
theorem Unmarked.absent (hne : marker ≠ []) {text : List Char} (h : Unmarked marker text []) :
    ¬marker <:+: text := by
  rintro ⟨front, back, heq⟩
  refine h front (marker ++ back) (by rw [← heq, List.append_assoc]) ?_ ?_
  · simp [hne]
  · rw [List.append_nil]
    exact List.prefix_append marker back

theorem unmarked_of_absent {text : List Char} (h : ¬marker <:+: text) :
    Unmarked marker text [] := by
  intro front back heq _ hmarker
  rw [List.append_nil] at hmarker
  exact h (heq ▸ hmarker.isInfix.trans (List.suffix_append front back).isInfix)

/-- Text in which no marker begins, with a marker behind it, is a segment. -/
theorem Unmarked.markerEnds {text rest : List Char} (h : Unmarked marker text (marker ++ rest)) :
    MarkerEnds marker text := by
  intro front back heq
  rcases List.append_eq_append_iff.1 heq with ⟨mid, rfl, hmarker⟩ | ⟨mid, rfl, hmarker⟩
  · -- the marker begins behind the text, so there is no room for more
    have hlength := congrArg List.length hmarker
    simp only [List.length_append] at hlength
    exact List.length_eq_zero_iff.1 (by omega)
  · -- it begins inside, unless that part is empty
    cases mid with
    | nil =>
      have hlength := congrArg List.length hmarker
      simp only [List.nil_append, List.length_append] at hlength
      exact List.length_eq_zero_iff.1 (by omega)
    | cons c mid =>
      refine absurd ?_ (h front (c :: mid) rfl (List.cons_ne_nil c mid))
      rw [← List.append_assoc, ← hmarker, List.append_assoc]
      exact List.prefix_append marker _

/-- In a segment with the marker behind it, no other marker begins. -/
theorem MarkerEnds.unmarked {segment : List Char} (h : MarkerEnds marker segment)
    (rest : List Char) : Unmarked marker segment (marker ++ rest) := by
  rintro front back rfl hne ⟨behind, heq⟩
  -- the other marker ends before the one behind the segment does
  have hother : marker <+: back ++ (marker ++ rest) := ⟨behind, heq⟩
  have hsegment : back ++ marker <+: back ++ (marker ++ rest) :=
    ⟨rest, List.append_assoc back marker rest⟩
  obtain ⟨tail, htail⟩ := List.prefix_of_prefix_length_le hother hsegment (by simp)
  obtain rfl : tail = [] := h front tail (by rw [List.append_assoc, htail])
  have hlength := congrArg List.length htail
  have hpos := List.length_pos_iff.2 hne
  simp only [List.length_append, List.length_nil] at hlength
  omega

variable (hne : marker ≠ [])

include hne

/-- **The search for markers gives a cut at the first ones.**  The invariant is that no marker
begins in what is held. -/
theorem cutMarkers_isSplit {held : List Char} {passing : Nat} {text : List Char}
    (h : Unmarked marker held.reverse (text.drop passing)) :
    IsSplit marker (held.reverse ++ text.drop passing) (cutMarkers marker held passing text) := by
  fun_induction cutMarkers marker held passing text with
  | case1 held passing =>
    rw [List.drop_nil] at h ⊢
    rw [List.append_nil]
    exact IsSplit.singleton (h.absent hne)
  | case2 held passing c rest ih => exact ih h
  | case3 held c rest hfound ih =>
    obtain ⟨behind, hbehind⟩ := List.isPrefixOf_iff_prefix.1 hfound
    have hdrop : rest.drop (marker.length - 1) = behind := by
      have hrest : rest = marker.tail ++ behind := by
        rw [← List.tail_append_of_ne_nil hne, hbehind, List.tail_cons]
      rw [hrest, List.drop_left' (List.length_tail)]
    rw [List.drop_zero, ← hbehind] at h ⊢
    rw [hdrop] at ih
    exact IsSplit.cons h.markerEnds (ih (Unmarked.nil marker behind))
  | case4 held c rest hfound ih =>
    rw [List.drop_zero] at h ⊢
    have hc : ¬marker <+: c :: rest := fun hc => hfound (List.isPrefixOf_iff_prefix.2 hc)
    have hheld := h.concat hc
    rw [List.drop_zero, List.reverse_cons, List.append_assoc] at ih
    exact ih hheld

/-- **No other cut is at the first markers.** -/
theorem segments_eq_of_isSplit {text : List Char} {parts : List (List Char)}
    (h : IsSplit marker text parts) : segments marker text = parts := by
  rw [h.joined, segments]
  induction parts generalizing text with
  | nil => exact absurd rfl h.ne_nil
  | cons part parts ih =>
    cases parts with
    | nil =>
      have hlast : ¬marker <:+: part := h.last part rfl
      have hheld := cutMarkers_held (unmarked_of_absent hlast) []
      rw [List.append_nil] at hheld
      rw [show List.intercalate marker [part] = part by simp [List.intercalate], hheld, cutMarkers]
      simp
    | cons next parts =>
      have hpart : MarkerEnds marker part := h.ends part List.mem_cons_self
      have hrest : IsSplit marker (List.intercalate marker (next :: parts)) (next :: parts) :=
        { joined := rfl
          ne_nil := List.cons_ne_nil next parts
          ends := fun other hother => h.ends other (List.mem_cons_of_mem part hother)
          last := h.last }
      rw [List.intercalate_cons_cons, List.append_assoc, cutMarkers_held (hpart.unmarked _),
        cutMarkers_marker hne, ih hrest, List.append_nil, List.reverse_reverse]

/-- **The segments of a text** are its one cut at the first markers. -/
theorem segments_eq_iff {text : List Char} {parts : List (List Char)} :
    segments marker text = parts ↔ IsSplit marker text parts := by
  constructor
  · rintro rfl
    have hnothing : Unmarked marker ([] : List Char).reverse (text.drop 0) := Unmarked.nil marker _
    exact cutMarkers_isSplit hne hnothing
  · exact segments_eq_of_isSplit hne

end Cuts

/-! ## Templates -/

/-- A template is accepted exactly if its marker is not empty and occurs in it. -/
theorem Template.parse_eq_ok_iff (text marker : String) :
    (∃ t, Template.parse text marker = .ok t) ↔
      marker ≠ "" ∧ marker.toList <:+: text.toList := by
  rw [← occursIn_iff, Template.parse]
  split
  · simp_all
  · split <;> simp_all

/-- What is accepted has the text and the marker that were given. -/
theorem Template.eq_of_parse {text marker : String} {t : Template}
    (h : Template.parse text marker = .ok t) : t.text = text ∧ t.marker = marker := by
  rw [Template.parse] at h
  split at h
  · cases h
  · split at h
    · obtain rfl := Except.ok.inj h
      exact ⟨rfl, rfl⟩
    · cases h

/-- A text in which the marker occurs has at least two segments. -/
theorem IsSplit.two_le_length {marker text : List Char} {parts : List (List Char)}
    (h : IsSplit marker text parts) (hoccurs : marker <:+: text) : 2 ≤ parts.length := by
  rcases parts with _ | ⟨part, _ | ⟨next, parts⟩⟩
  · exact absurd rfl h.ne_nil
  · have htext : text = part := by simpa [List.intercalate] using h.joined
    exact absurd (htext ▸ hoccurs) (h.last part rfl)
  · simp

/-- A term whose pattern is quoted gives the template with the unquoted literal in place of each
marker. -/
theorem format_template {t : Template} {quoter : Quoter} {value quoted : String} (phrase : Bool)
    (h : quoter.quote ("%" ++ value ++ "%") = .ok quoted) :
    LikeFormatter.format { source := .template t, quoter } ⟨value, phrase⟩ =
      .ok (t.fill (quoter.unquote quoted)) := by
  rw [LikeFormatter.format, likePattern, h]
  rfl

/-- **A template is cut once and for all.**  It is accepted exactly if its marker is not empty and
occurs in it.  Then it has one cut at the first markers, in two segments at least; and whatever the
quoter and the term, a fragment is those segments with the unquoted literal between them, also if
the literal holds the marker. -/
theorem template_segments (text marker : String) :
    ((∃ t, Template.parse text marker = .ok t) ↔
        marker ≠ "" ∧ marker.toList <:+: text.toList) ∧
      ∀ t, Template.parse text marker = .ok t →
        ∃ parts, 2 ≤ parts.length ∧ IsSplit marker.toList text.toList parts ∧
          (∀ parts', IsSplit marker.toList text.toList parts' → parts' = parts) ∧
          ∀ (quoter : Quoter) (value : String) (phrase : Bool) (quoted : String),
            quoter.quote ("%" ++ value ++ "%") = .ok quoted →
              LikeFormatter.format { source := .template t, quoter } ⟨value, phrase⟩ =
                .ok (String.ofList (List.intercalate (quoter.unquote quoted).toList parts)) := by
  refine ⟨Template.parse_eq_ok_iff text marker, fun t ht => ?_⟩
  obtain ⟨hne, hoccurs⟩ := (Template.parse_eq_ok_iff text marker).1 ⟨t, ht⟩
  have hmarker : marker.toList ≠ [] := by simpa using hne
  have hsplit : IsSplit marker.toList text.toList (segments marker.toList text.toList) :=
    (segments_eq_iff hmarker).1 rfl
  refine ⟨_, hsplit.two_le_length hoccurs, hsplit, fun parts' h => ?_, ?_⟩
  · exact ((segments_eq_iff hmarker).2 h).symm
  · intro quoter value phrase quoted hquoted
    obtain ⟨rfl, rfl⟩ := Template.eq_of_parse ht
    exact format_template phrase hquoted

/-- A marker that overlaps itself in the template, in a term that holds it. -/
theorem template_segments_overlapping :
    ∃ t, Template.parse "aaabaa" "aa" = .ok t ∧
      IsSplit "aa".toList "aaabaa".toList ["".toList, "ab".toList, "".toList] ∧
      Quoter.ansi.quote ("%" ++ "'aa" ++ "%") = .ok "'%''aa%'" ∧
      LikeFormatter.format { source := .template t, quoter := .ansi } ⟨"'aa", false⟩ =
        .ok "%''aa%ab%''aa%" := by
  have hquoted : Quoter.ansi.quote ("%" ++ "'aa" ++ "%") = .ok "'%''aa%'" := rfl
  have hsplit : IsSplit "aa".toList "aaabaa".toList ["".toList, "ab".toList, "".toList] :=
    (segments_eq_iff (by decide)).1 (by decide +kernel)
  obtain ⟨t, ht⟩ := (template_segments "aaabaa" "aa").1.2 ⟨by decide, ⟨[], "abaa".toList, rfl⟩⟩
  obtain ⟨parts, -, -, hunique, hformat⟩ := (template_segments "aaabaa" "aa").2 t ht
  refine ⟨t, ht, hsplit, hquoted, ?_⟩
  rw [hformat .ansi "'aa" false _ hquoted, ← hunique _ hsplit]
  rfl

end BooleanSearch
