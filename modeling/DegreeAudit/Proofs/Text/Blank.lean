import DegreeAudit.Text.Blank
import Mathlib.Data.List.DropRight
import Mathlib.Data.List.SplitBy

/-!
# Words

The words of a text are its pieces between blanks, without the empty ones: `words_eq_splitOnP`. So a
blank parts a text into two that keep their words to themselves (`words_append_cons`), and neither
trimming a text nor joining texts by spaces loses a word, makes one up or runs two together.
-/

namespace DegreeAudit.Text

variable {s t blanks : List Char} {c : Char}

/-! ### Blanks at the ends -/

theorem trimLeft_append_of_not_blank (hblanks : ∀ c ∈ blanks, isBlank c = true)
    (hc : isBlank c = false) (rest : List Char) : trimLeft (blanks ++ c :: rest) = c :: rest := by
  rw [trimLeft, List.dropWhile_append_of_pos hblanks, List.dropWhile_cons_of_neg (by simp [hc])]

theorem exists_blanks_append_trimLeft (s : List Char) :
    ∃ blanks, s = blanks ++ trimLeft s ∧ ∀ c ∈ blanks, isBlank c = true :=
  ⟨s.takeWhile isBlank, (List.takeWhile_append_dropWhile).symm, fun _ => List.mem_takeWhile_imp⟩

theorem exists_trimRight_append_blanks (s : List Char) :
    ∃ blanks, s = trimRight s ++ blanks ∧ ∀ c ∈ blanks, isBlank c = true :=
  ⟨s.rtakeWhile isBlank, (List.rdropWhile_append_rtakeWhile).symm,
    fun _ => List.mem_rtakeWhile_imp⟩

/-- A text that neither begins nor ends with a blank. -/
structure IsTrimmed (s : List Char) : Prop where
  first : ∀ c ∈ s.head?, isBlank c = false
  last : ∀ c ∈ s.getLast?, isBlank c = false

theorem not_blank_of_mem_head?_trimLeft (h : c ∈ (trimLeft s).head?) : isBlank c = false := by
  have hne : trimLeft s ≠ [] := by
    intro heq
    rw [heq] at h
    cases h
  rw [List.head?_eq_some_head hne] at h
  cases h
  exact List.head_dropWhile_not isBlank hne

theorem isTrimmed_trim (s : List Char) : IsTrimmed (trim s) where
  first := by
    intro c hc
    obtain ⟨blanks, hs, -⟩ := exists_trimRight_append_blanks (trimLeft s)
    apply not_blank_of_mem_head?_trimLeft (s := s)
    rw [hs, List.head?_append, ← trim, hc]
    rfl
  last := by
    intro c hc
    rw [trim, trimRight, List.getLast?_reverse] at hc
    exact not_blank_of_mem_head?_trimLeft hc

/-! ### Words -/

theorem words_eq_nil_iff : words s = [] ↔ ∀ c ∈ s, isBlank c = true := by
  have hflat : (s.splitBy fun a b => isBlank a == isBlank b).flatten = s := List.flatten_splitBy _ s
  have hruns : (∀ c ∈ s, isBlank c = true) ↔
      ∀ run ∈ s.splitBy fun a b => isBlank a == isBlank b, ∀ c ∈ run, isBlank c = true := by
    conv_lhs => rw [← hflat, List.forall_mem_flatten]
  rw [words, List.filter_eq_nil_iff, hruns]
  simp

/-- Where a blank meets another character, no word goes on. -/
theorem words_append_of_parted
    (h : ∀ c ∈ s.getLast?, ∀ d ∈ t.head?, isBlank c ≠ isBlank d) :
    words (s ++ t) = words s ++ words t := by
  rw [words, List.splitBy_append fun c hc d hd => beq_false_of_ne (h c hc d hd), List.filter_append]
  rfl

theorem words_trimLeft (s : List Char) : words (trimLeft s) = words s := by
  obtain ⟨blanks, hs, hblanks⟩ := exists_blanks_append_trimLeft s
  have hparted : ∀ c ∈ blanks.getLast?, ∀ d ∈ (trimLeft s).head?, isBlank c ≠ isBlank d := by
    intro c hc d hd
    rw [hblanks c (List.mem_of_getLast? hc), not_blank_of_mem_head?_trimLeft hd]
    decide
  conv_rhs => rw [hs, words_append_of_parted hparted, words_eq_nil_iff.2 hblanks, List.nil_append]

theorem words_blank_cons (hc : isBlank c = true) (s : List Char) : words (c :: s) = words s := by
  rw [← words_trimLeft, trimLeft, List.dropWhile_cons_of_pos hc, ← trimLeft, words_trimLeft]

/-- A text without blanks is one word, if there is anything in it. -/
theorem words_of_not_blank (h : ∀ c ∈ s, isBlank c = false) :
    words s = [s].filter (!·.isEmpty) := by
  cases s with
  | nil => rfl
  | cons c s =>
      have hsame : ∀ a ∈ c :: s, ∀ b ∈ c :: s, (isBlank a == isBlank b) = true := by
        intro a ha b hb
        rw [h a ha, h b hb]
        rfl
      have hrun : (c :: s).IsChain fun a b => (isBlank a == isBlank b) = true :=
        (List.pairwise_of_forall_mem_list hsame).isChain
      rw [words, List.splitBy_of_isChain (List.cons_ne_nil c s) hrun]
      simp [h c List.mem_cons_self]

theorem words_eq_splitOnP (s : List Char) :
    words s = (s.splitOnP isBlank).filter (!·.isEmpty) := by
  -- up to the first blank there is one piece, and what follows the blank is shorter
  induction hlength : s.length using Nat.strong_induction_on generalizing s with
  | _ n ih =>
    cases hfind : s.find? isBlank with
    | none =>
        have hplain : ∀ c ∈ s, isBlank c = false := by simpa using hfind
        rw [words_of_not_blank hplain, List.splitOnP_eq_singleton hplain]
    | some b =>
        obtain ⟨hb, front, rest, rfl, hfront⟩ := List.find?_eq_some_iff_append.1 hfind
        have hplain : ∀ c ∈ front, isBlank c = false := by simpa using hfront
        have hparted : ∀ c ∈ front.getLast?, ∀ d ∈ (b :: rest).head?, isBlank c ≠ isBlank d := by
          rintro c hc d ⟨⟩
          rw [hplain c (List.mem_of_getLast? hc), hb]
          decide
        have hshorter : rest.length < n := by
          rw [← hlength]
          simp only [List.length_append, List.length_cons]
          omega
        rw [words_append_of_parted hparted, words_blank_cons hb, words_of_not_blank hplain,
          ih _ hshorter rest rfl, List.splitOnP_append_cons_of_forall_mem hplain b hb,
          ← List.filter_append, List.singleton_append]

/-- A blank parts a text into two that keep their words to themselves. -/
theorem words_append_cons (hc : isBlank c = true) (s t : List Char) :
    words (s ++ c :: t) = words s ++ words t := by
  rw [words_eq_splitOnP, List.splitOnP_append_cons s t hc, List.filter_append,
    ← words_eq_splitOnP, ← words_eq_splitOnP]

theorem words_trimRight (s : List Char) : words (trimRight s) = words s := by
  obtain ⟨blanks, hs, hblanks⟩ := exists_trimRight_append_blanks s
  cases blanks with
  | nil =>
      rw [List.append_nil] at hs
      rw [← hs]
  | cons c blanks =>
      obtain ⟨hc, hblanks⟩ := List.forall_mem_cons.1 hblanks
      conv_rhs => rw [hs, words_append_cons hc, words_eq_nil_iff.2 hblanks, List.append_nil]

theorem words_trim (s : List Char) : words (trim s) = words s := by
  rw [trim, words_trimRight, words_trimLeft]

/-- A trimmed text without words is empty. -/
theorem IsTrimmed.eq_nil_iff (h : IsTrimmed s) : s = [] ↔ words s = [] := by
  rw [words_eq_nil_iff]
  constructor
  · rintro rfl
    exact List.forall_mem_nil _
  · intro hblank
    cases s with
    | nil => rfl
    | cons c s =>
        have hc := h.first c rfl
        rw [hblank c List.mem_cons_self] at hc
        cases hc

/-! ### Texts joined by spaces -/

theorem joinSpaced_cons (piece : List Char) (pieces : List (List Char)) (h : pieces ≠ []) :
    joinSpaced (piece :: pieces) = piece ++ ' ' :: joinSpaced pieces := by
  rw [joinSpaced, List.intercalate_cons_of_ne_nil h, List.append_assoc]
  rfl

theorem words_joinSpaced (pieces : List (List Char)) :
    words (joinSpaced pieces) = pieces.flatMap words := by
  induction pieces with
  | nil => rfl
  | cons piece pieces ih =>
      cases pieces with
      | nil => simp [joinSpaced]
      | cons next pieces =>
          rw [joinSpaced_cons _ _ (List.cons_ne_nil _ _), words_append_cons (by decide), ih]
          rfl

theorem IsTrimmed.joined (hs : IsTrimmed s) (ht : IsTrimmed t) (hsne : s ≠ []) (htne : t ≠ []) :
    IsTrimmed (s ++ ' ' :: t) where
  first := by
    rw [List.head?_append_of_ne_nil _ hsne]
    exact hs.first
  last := by
    rw [List.getLast?_append_of_ne_nil _ (List.cons_ne_nil _ _), List.getLast?_cons_of_ne_nil htne]
    exact ht.last

theorem joinSpaced_ne_nil {piece : List Char} (h : piece ≠ []) (pieces : List (List Char)) :
    joinSpaced (piece :: pieces) ≠ [] := by
  cases pieces with
  | nil => simpa [joinSpaced] using h
  | cons next pieces =>
      rw [joinSpaced_cons _ _ (List.cons_ne_nil _ _)]
      exact List.append_ne_nil_of_left_ne_nil h _

theorem isTrimmed_joinSpaced {pieces : List (List Char)}
    (h : ∀ piece ∈ pieces, piece ≠ [] ∧ IsTrimmed piece) : IsTrimmed (joinSpaced pieces) := by
  induction pieces with
  | nil => exact ⟨by simp [joinSpaced], by simp [joinSpaced]⟩
  | cons piece pieces ih =>
      obtain ⟨⟨hne, htrimmed⟩, hpieces⟩ := List.forall_mem_cons.1 h
      cases pieces with
      | nil => simpa [joinSpaced] using htrimmed
      | cons next pieces =>
          have hnext : next ≠ [] := (hpieces next List.mem_cons_self).1
          rw [joinSpaced_cons _ _ (List.cons_ne_nil _ _)]
          exact htrimmed.joined (ih hpieces) hne (joinSpaced_ne_nil hnext pieces)

end DegreeAudit.Text
