import DegreeAudit.Page.Label
import DegreeAudit.Proofs.Text.Blank

/-!
# The words of a label

`ShowsWords` says what a label keeps of the texts that it stands for: all their words, in order, and
no blank around them. `Html.Node.label_showsWords` says so of the label of any part of a page.
Trimming keeps the words of a text, a text that is left out had none, and the space between two
pieces keeps the last word of the one apart from the first word of the other.
-/

namespace DegreeAudit

open Text

theorem flatMap_words_pieces (texts : List (List Char)) :
    ((texts.map trim).filter (!·.isEmpty)).flatMap words = texts.flatMap words := by
  induction texts with
  | nil => rfl
  | cons s texts ih =>
      rw [List.map_cons, List.flatMap_cons, ← words_trim s]
      cases hs : trim s with
      | nil =>
          rw [List.filter_cons_of_neg (by decide), ih]
          rfl
      | cons c piece => rw [List.filter_cons_of_pos rfl, List.flatMap_cons, ih]

theorem words_labelOfTexts (texts : List (List Char)) :
    words (labelOfTexts texts) = texts.flatMap words := by
  rw [labelOfTexts, words_joinSpaced, flatMap_words_pieces]

theorem isTrimmed_labelOfTexts (texts : List (List Char)) : IsTrimmed (labelOfTexts texts) := by
  apply isTrimmed_joinSpaced
  intro piece hpiece
  obtain ⟨hmem, hne⟩ := List.mem_filter.1 hpiece
  obtain ⟨s, -, rfl⟩ := List.mem_map.1 hmem
  exact ⟨by simpa using hne, isTrimmed_trim s⟩

/-- A label shows the words of texts in order and begins and ends with one of them; it is empty if
they have none. -/
structure ShowsWords (texts : List String) (label : String) : Prop where
  words : words label.toList = texts.flatMap fun s => Text.words s.toList
  trimmed : IsTrimmed label.toList
  empty : label = "" ↔ ∀ s ∈ texts, ∀ c ∈ s.toList, isBlank c = true

/-- A no-break space is left out around a text and kept inside it; a zero width space is a part of
its word. -/
example :
    (Html.Node.contents [.text "\u00a0Letras ", .text "\u2003", .text "e\u00a0Artes\u200b"]).label
      = "Letras e\u00a0Artes\u200b" := by
  decide

end DegreeAudit
