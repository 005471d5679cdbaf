import DegreeAudit.Http.FormBody
import DegreeAudit.Proofs.Text.Utf8

/-!
# Reading back a form body

`decode_encode`: the fields that were encoded are found again, names and values as they were, in the
same order and as often. It takes three facts, one for each layer of the encoding. A character that
was encoded is read as its UTF-8 bytes, whatever stands beside it; neither separator occurs in an
encoded name or value; and so the body falls apart again where its parts were joined.
-/

namespace DegreeAudit

open Text

namespace Url.Percent

theorem hexValue?_upperHexDigit {n : Nat} (h : n < 16) : hexValue? (upperHexDigit n) = some n := by
  have hall : ∀ n < 16, hexValue? (upperHexDigit n) = some n := by decide
  exact hall n h

/-- A byte that was encoded is read as itself. -/
theorem decode_encodeByte (b : UInt8) (rest : List Char) :
    decode (encodeByte b ++ rest) = b :: decode rest := by
  have hb : b.toNat < 256 := UInt8.toNat_lt b
  have hhigh := hexValue?_upperHexDigit (n := b.toNat / 16) (by omega)
  have hlow := hexValue?_upperHexDigit (n := b.toNat % 16) (by omega)
  have hvalue : 16 * (b.toNat / 16) + b.toNat % 16 = b.toNat := by omega
  rw [encodeByte]
  simp only [List.cons_append, List.nil_append]
  rw [decode]
  simp only [hhigh, hlow, hvalue, UInt8.ofNat_toNat]

theorem decode_flatMap_encodeByte (bytes : List UInt8) (rest : List Char) :
    decode (bytes.flatMap encodeByte ++ rest) = bytes ++ decode rest := by
  induction bytes with
  | nil => rfl
  | cons b bytes ih =>
      rw [List.flatMap_cons, List.append_assoc, decode_encodeByte, ih, List.cons_append]

/-- A character other than the percent sign is read as its bytes. -/
theorem decode_cons_of_ne {c : Char} (h : c ≠ '%') (rest : List Char) :
    decode (c :: rest) = Utf8.encodeChar c ++ decode rest := by
  rw [decode]
  intro a b more heq
  exact absurd heq h

end Url.Percent

namespace FormBody

open Url.Percent

/-- What percent decoding sees of a character: a plus is a space by then. -/
private def unplus (c : Char) : Char := if c = '+' then ' ' else c

private theorem unplus_of_ne {c : Char} (h : c ≠ '+') : unplus c = c := if_neg h

private theorem upperHexDigit_ne {n : Nat} (h : n < 16) :
    upperHexDigit n ≠ '+' ∧ upperHexDigit n ≠ '&' ∧ upperHexDigit n ≠ '=' := by
  have hall : ∀ n < 16, upperHexDigit n ≠ '+' ∧ upperHexDigit n ≠ '&' ∧ upperHexDigit n ≠ '=' := by
    decide
  exact hall n h

private theorem ne_of_mem_encodeByte {b : UInt8} {c : Char} (h : c ∈ encodeByte b) :
    c ≠ '+' ∧ c ≠ '&' ∧ c ≠ '=' := by
  have hb : b.toNat < 256 := UInt8.toNat_lt b
  simp only [encodeByte, List.mem_cons, List.not_mem_nil, or_false] at h
  rcases h with rfl | rfl | rfl
  · decide
  · exact upperHexDigit_ne (by omega)
  · exact upperHexDigit_ne (by omega)

/-- Neither separator occurs in an encoded character. -/
theorem ne_of_mem_encodeChar {c d : Char} (h : d ∈ encodeChar c) : d ≠ '&' ∧ d ≠ '=' := by
  unfold encodeChar at h
  split at h
  · rw [List.mem_singleton] at h
    subst h
    decide
  · split at h
    · next hplain =>
      rw [List.mem_singleton] at h
      subst h
      constructor
      · rintro rfl
        exact absurd hplain (by decide)
      · rintro rfl
        exact absurd hplain (by decide)
    · obtain ⟨b, -, hd⟩ := List.mem_flatMap.1 h
      exact (ne_of_mem_encodeByte hd).2

/-- An encoded character is read as its bytes, whatever follows it. -/
theorem decode_unplus_encodeChar (c : Char) (rest : List Char) :
    Url.Percent.decode ((encodeChar c).map unplus ++ rest)
      = Utf8.encodeChar c ++ Url.Percent.decode rest := by
  unfold encodeChar
  split
  · next h =>
    subst h
    exact decode_cons_of_ne (by decide) rest
  · split
    · next hplain =>
      have hplus : c ≠ '+' := by
        rintro rfl
        exact absurd hplain (by decide)
      have hpercent : c ≠ '%' := by
        rintro rfl
        exact absurd hplain (by decide)
      rw [List.map_singleton, unplus_of_ne hplus, List.singleton_append,
        decode_cons_of_ne hpercent]
    · have hmap : ((Utf8.encodeChar c).flatMap encodeByte).map unplus
          = (Utf8.encodeChar c).flatMap encodeByte := by
        refine (List.map_congr_left fun d hd => ?_).trans (List.map_id _)
        obtain ⟨b, -, hd⟩ := List.mem_flatMap.1 hd
        exact unplus_of_ne (ne_of_mem_encodeByte hd).1
      rw [hmap, decode_flatMap_encodeByte]

private theorem decode_unplus_encodeText (s : List Char) :
    Url.Percent.decode ((encodeText s).map unplus) = Utf8.encode s := by
  induction s with
  | nil =>
      rw [encodeText, List.flatMap_nil, List.map_nil, Url.Percent.decode]
      rfl
  | cons c s ih =>
      rw [encodeText, List.flatMap_cons, List.map_append, decode_unplus_encodeChar]
      exact congrArg (Utf8.encodeChar c ++ ·) ih

/-- A name or a value is read as it was. -/
theorem decodeText_encodeText (s : List Char) : decodeText (encodeText s) = s := by
  have hread : decodeText (encodeText s)
      = Utf8.decode (Url.Percent.decode ((encodeText s).map unplus)) := rfl
  rw [hread, decode_unplus_encodeText, Utf8.decode_encode]

private theorem ne_of_mem_encodeText {s : List Char} {d : Char} (h : d ∈ encodeText s) :
    d ≠ '&' ∧ d ≠ '=' := by
  obtain ⟨c, -, hd⟩ := List.mem_flatMap.1 h
  exact ne_of_mem_encodeChar hd

private theorem not_mem_encodeField (field : String × String) : '&' ∉ encodeField field := by
  intro h
  rcases List.mem_append.1 h with h | h
  · exact (ne_of_mem_encodeText h).1 rfl
  · rcases List.mem_cons.1 h with h | h
    · exact absurd h (by decide)
    · exact (ne_of_mem_encodeText h).1 rfl

/-- A field is read as it was. -/
theorem decodeField_encodeField (field : String × String) :
    decodeField (encodeField field) = field := by
  have hname : ∀ d ∈ encodeText field.1.toList, (d != '=') = true := fun d hd =>
    bne_iff_ne.2 (ne_of_mem_encodeText hd).2
  rw [decodeField, encodeField, List.takeWhile_append_of_pos hname,
    List.dropWhile_append_of_pos hname, List.takeWhile_cons_of_neg (by decide),
    List.dropWhile_cons_of_neg (by decide), List.append_nil, List.tail_cons,
    decodeText_encodeText, decodeText_encodeText, String.ofList_toList, String.ofList_toList]

/-- A body falls apart where its fields were joined. -/
theorem splitOn_encode {fields : Fields} (hfields : fields ≠ []) :
    (encode fields).toList.splitOn '&' = fields.map encodeField := by
  have hparts : ∀ part ∈ fields.map encodeField, '&' ∉ part := by
    intro part hpart
    obtain ⟨field, -, rfl⟩ := List.mem_map.1 hpart
    exact not_mem_encodeField field
  rw [encode, String.toList_ofList, encodeChars]
  exact List.splitOn_intercalate '&' hparts (by simpa using hfields)

theorem map_decodeField_encodeField (fields : Fields) :
    (fields.map encodeField).map decodeField = fields := by
  rw [List.map_map]
  exact (List.map_congr_left fun field _ => decodeField_encodeField field).trans (List.map_id _)

/-- The fields that a body was made of are read back from it. -/
theorem decode_encode (fields : Fields) : decode (encode fields) = fields := by
  by_cases hfields : fields = []
  · subst hfields
    rfl
  · have hkeep : (fields.map encodeField).filter (!·.isEmpty) = fields.map encodeField := by
      refine List.filter_eq_self.2 fun part hpart => ?_
      obtain ⟨field, -, rfl⟩ := List.mem_map.1 hpart
      simp [encodeField]
    rw [decode, splitOn_encode hfields, hkeep, map_decodeField_encodeField]

end FormBody

end DegreeAudit
