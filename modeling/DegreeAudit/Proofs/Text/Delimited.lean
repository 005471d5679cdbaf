import DegreeAudit.Text.Delimited

/-!
# Reading back tab-separated text

Whatever stands in the fields, the usual reading rules give back the records that were written:
`readRecords_writeRecords`. A field is read up to a place at which it can end (`EndsField`), and
what follows it there, a separator or the end of the line, ends it; so a record is read field by
field, and the only record whose text begins like an empty line is the one that is written as a pair
of quotes. A writer that refuses uneven records refuses none that are even: `writeEven_eq_ok`.
-/

namespace DegreeAudit.Text.Delimited

variable {field rest : List Char} {fields : List (List Char)}

/-! ### One field -/

/-- The places at which a field can end, each with the characters read of it, in reverse. -/
inductive EndsField : Place → List Char → Prop where
  | fieldStart : EndsField .fieldStart []
  | unquoted (field : List Char) : EndsField .unquoted field
  | afterQuote (field : List Char) : EndsField .afterQuote field

theorem readFrom_separator {place : Place} (h : EndsField place field)
    (fields : List (List Char)) (rest : List Char) :
    readFrom place field fields (separator :: rest)
      = readFrom .fieldStart [] (field.reverse :: fields) rest := by
  cases h <;> simp [readFrom, separator]

theorem readFrom_newline {place : Place} (h : EndsField place field)
    (fields : List (List Char)) (rest : List Char) :
    readFrom place field fields ('\n' :: rest)
      = (field.reverse :: fields).reverse :: readFrom .recordStart [] [] rest := by
  cases h <;> simp [readFrom, separator, isLineEnd]

/-- A character that needs no quotes is none that the reader minds. -/
theorem ne_of_not_isSpecial {c : Char} (h : isSpecial c = false) :
    c ≠ separator ∧ c ≠ '"' ∧ isLineEnd c = false := by
  simp only [isSpecial, Bool.or_eq_false_iff, beq_eq_false_iff_ne] at h
  obtain ⟨⟨⟨hseparator, hquote⟩, hreturn⟩, hfeed⟩ := h
  exact ⟨hseparator, hquote, by simp [isLineEnd, hreturn, hfeed]⟩

theorem readFrom_unquoted_append (hplain : ∀ c ∈ field, isSpecial c = false) (read : List Char)
    (fields : List (List Char)) (rest : List Char) :
    readFrom .unquoted read fields (field ++ rest)
      = readFrom .unquoted (field.reverse ++ read) fields rest := by
  induction field generalizing read with
  | nil => rfl
  | cons c field ih =>
      obtain ⟨hc, hplain⟩ := List.forall_mem_cons.1 hplain
      obtain ⟨hseparator, -, hend⟩ := ne_of_not_isSpecial hc
      rw [List.cons_append, readFrom, if_neg hseparator, if_neg (by simp [hend]), ih hplain,
        List.reverse_cons, List.append_assoc, List.singleton_append]

/-- Between quotes every character belongs to the field, a doubled quote as one. -/
theorem readFrom_quoted_append (field read : List Char) (fields : List (List Char))
    (rest : List Char) :
    readFrom .quoted read fields
        (field.flatMap (fun c => if c = '"' then ['"', '"'] else [c]) ++ rest)
      = readFrom .quoted (field.reverse ++ read) fields rest := by
  induction field generalizing read with
  | nil => rfl
  | cons c field ih =>
      rw [List.flatMap_cons, List.append_assoc, List.reverse_cons, List.append_assoc,
        List.singleton_append, ← ih]
      split
      · next hquote =>
          subst hquote
          simp [readFrom]
      · next hquote => simp [readFrom, hquote]

theorem readFrom_quoteField (field : List Char) (fields : List (List Char)) (rest : List Char) :
    readFrom .fieldStart [] fields (quoteField field ++ rest)
      = readFrom .afterQuote field.reverse fields rest := by
  rw [quoteField, List.cons_append, List.cons_append, List.append_assoc, readFrom, if_pos rfl,
    readFrom_quoted_append, List.append_nil, List.singleton_append, readFrom, if_pos rfl]

/-- A written field is read, in front of any text, up to a place at which it can end. -/
theorem exists_endsField_of_writeField (field : List Char) :
    ∃ place, EndsField place field.reverse ∧ ∀ fields rest,
      readFrom .fieldStart [] fields (writeField field ++ rest)
        = readFrom place field.reverse fields rest := by
  unfold writeField
  split
  · exact ⟨.afterQuote, .afterQuote _, readFrom_quoteField field⟩
  · next hspecial =>
      have hplain : ∀ c ∈ field, isSpecial c = false := by
        simpa using hspecial
      -- an empty field is written as nothing, so the reader has not left the start of the field
      cases field with
      | nil => exact ⟨.fieldStart, .fieldStart, fun _ _ => rfl⟩
      | cons c field =>
          obtain ⟨hc, hplain⟩ := List.forall_mem_cons.1 hplain
          obtain ⟨hseparator, hquote, hend⟩ := ne_of_not_isSpecial hc
          refine ⟨.unquoted, .unquoted _, fun fields rest => ?_⟩
          rw [List.cons_append, readFrom, if_neg hquote, if_neg hseparator,
            if_neg (by simp [hend]), readFrom_unquoted_append hplain, List.reverse_cons]

/-! ### One record -/

theorem readFrom_intercalate (first : List Char) (more fields : List (List Char))
    (rest : List Char) :
    readFrom .fieldStart [] fields
        ([separator].intercalate ((first :: more).map writeField) ++ '\n' :: rest)
      = (fields.reverse ++ first :: more) :: readFrom .recordStart [] [] rest := by
  induction more generalizing first fields with
  | nil =>
      obtain ⟨place, hends, hread⟩ := exists_endsField_of_writeField first
      rw [List.map_singleton, List.intercalate_singleton, hread, readFrom_newline hends,
        List.reverse_reverse, List.reverse_cons]
  | cons second more ih =>
      obtain ⟨place, hends, hread⟩ := exists_endsField_of_writeField first
      have hcons : [separator].intercalate ((first :: second :: more).map writeField)
          = writeField first ++
              separator :: [separator].intercalate ((second :: more).map writeField) := by
        rw [List.map_cons, List.map_cons, List.intercalate_cons_cons, List.append_assoc,
          List.singleton_append]
      rw [hcons, List.append_assoc, List.cons_append, hread, readFrom_separator hends, ih,
        List.reverse_reverse, List.reverse_cons, List.append_assoc, List.singleton_append]

/-- Only a line end is read otherwise at the start of a record than at the start of a field. -/
theorem readFrom_recordStart {c : Char} (h : isLineEnd c = false) (rest : List Char) :
    readFrom .recordStart [] [] (c :: rest) = readFrom .fieldStart [] [] (c :: rest) := by
  simp [readFrom, h]

/-- The text of a field that is not empty begins with no line end. -/
theorem exists_writeField_eq_cons (hfield : field ≠ []) :
    ∃ c chars, writeField field = c :: chars ∧ isLineEnd c = false := by
  obtain ⟨c, chars, rfl⟩ := List.exists_cons_of_ne_nil hfield
  unfold writeField
  split
  · exact ⟨_, _, rfl, rfl⟩
  · next hspecial =>
      have hplain : ∀ c' ∈ c :: chars, isSpecial c' = false := by simpa using hspecial
      exact ⟨c, chars, rfl, (ne_of_not_isSpecial (hplain c List.mem_cons_self)).2.2⟩

/-- The text of a record begins with no line end, except that of a single empty field. -/
theorem exists_intercalate_eq_cons {first : List Char} {more : List (List Char)}
    (h : first :: more ≠ [[]]) :
    ∃ c chars, [separator].intercalate ((first :: more).map writeField) = c :: chars ∧
      isLineEnd c = false := by
  by_cases hfirst : first = []
  · subst hfirst
    have hmore : more ≠ [] := fun hmore => h (by rw [hmore])
    obtain ⟨second, more, rfl⟩ := List.exists_cons_of_ne_nil hmore
    exact ⟨separator, _, rfl, by decide⟩
  · obtain ⟨c, chars, hchars, hc⟩ := exists_writeField_eq_cons hfirst
    cases more with
    | nil => exact ⟨c, chars, by rw [List.map_singleton, List.intercalate_singleton, hchars], hc⟩
    | cons second more =>
        rw [List.map_cons, List.map_cons, List.intercalate_cons_cons, hchars]
        exact ⟨c, _, rfl, hc⟩

theorem readFrom_writeRecord (hfields : fields ≠ []) (rest : List Char) :
    readFrom .recordStart [] [] (writeRecord fields ++ rest)
      = fields :: readFrom .recordStart [] [] rest := by
  unfold writeRecord
  split
  · next hempty =>
      subst hempty
      simp [readFrom, separator, isLineEnd]
  · next hempty =>
      obtain ⟨first, more, rfl⟩ := List.exists_cons_of_ne_nil hfields
      have hread := readFrom_intercalate first more [] rest
      obtain ⟨c, chars, hchars, hc⟩ := exists_intercalate_eq_cons hempty
      rw [hchars] at hread ⊢
      rw [List.append_assoc, List.singleton_append, List.cons_append, readFrom_recordStart hc]
      exact hread

/-! ### All records -/

/-- Records that have fields are read back. -/
theorem readRecords_writeRecords {records : List (List (List Char))}
    (h : ∀ fields ∈ records, fields ≠ []) : readRecords (writeRecords records) = records := by
  unfold readRecords writeRecords
  induction records with
  | nil => rfl
  | cons fields records ih =>
      obtain ⟨hfields, h⟩ := List.forall_mem_cons.1 h
      rw [List.flatMap_cons, readFrom_writeRecord hfields, ih h]

/-! ### Even records -/

theorem writeAll_eq_ok {expected : Nat} {records : List (List (List Char))}
    (h : ∀ fields ∈ records, fields.length = expected) :
    writeAll expected records = .ok (writeRecords records) := by
  induction records with
  | nil => rfl
  | cons fields records ih =>
      obtain ⟨hfields, h⟩ := List.forall_mem_cons.1 h
      rw [writeAll, if_pos hfields, ih h]
      rfl

/-- Records that all have as many fields are written. -/
theorem writeEven_eq_ok {expected : Nat} {records : List (List (List Char))}
    (h : ∀ fields ∈ records, fields.length = expected) :
    writeEven records = .ok (writeRecords records) := by
  cases records with
  | nil => rfl
  | cons first records =>
      rw [writeEven, h first List.mem_cons_self]
      exact writeAll_eq_ok h

end DegreeAudit.Text.Delimited
