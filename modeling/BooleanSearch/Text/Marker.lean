/-!
# Markers in a text

A marker is a text that stands for another one inside a template.  Occurrences are found from
left to right and do not overlap.

* `occursIn` — the marker stands somewhere in the text;
* `segments` — the stretches of text between the markers;
* `replaceMarker` — the segments joined by another text, which is not searched again.
-/

namespace BooleanSearch

/-- Does the marker stand somewhere in the text? -/
def occursIn (marker : List Char) : List Char → Bool
  | [] => marker.isEmpty
  | c :: rest => marker.isPrefixOf (c :: rest) || occursIn marker rest

/-- Cuts text at each marker.  `held` is the text since the last marker, latest character first,
and `passing` counts the characters of that marker that are still to be passed over. -/
def cutMarkers (marker held : List Char) : (passing : Nat) → List Char → List (List Char)
  | _, [] => [held.reverse]
  | passing + 1, _ :: rest => cutMarkers marker held passing rest
  | 0, c :: rest =>
    if marker.isPrefixOf (c :: rest) then
      held.reverse :: cutMarkers marker [] (marker.length - 1) rest
    else cutMarkers marker (c :: held) 0 rest

/-- The stretches of text between the markers, one more than there are markers.  The marker is
not empty. -/
def segments (marker text : List Char) : List (List Char) :=
  cutMarkers marker [] 0 text

/-- The text with another text in place of each marker. -/
def replaceMarker (marker replacement text : List Char) : List Char :=
  List.intercalate replacement (segments marker text)

end BooleanSearch
