import DegreeAudit.Text.Quoted

/-!
# Reading back quoted text

A quoted text is read back in front of whatever follows it: `unquote_quoteChars`. So no quoted text
is the beginning of another one (`quote_append_inj`), and quoted texts in brackets part in one way
only (`quoteList_append_inj`), although commas, brackets and quotes may stand in the texts
themselves. What is written has no hidden character, whatever it quotes.
-/

namespace DegreeAudit.Text

variable {rest more : List Char}

/-! ### Escapes by number -/

theorem hexValue?_digitChar {d : Nat} (h : d < 16) : hexValue? (Nat.digitChar d) = some d := by
  have hall : ∀ d < 16, hexValue? (Nat.digitChar d) = some d := by decide
  exact hall d h

theorem unquoteCode_digitChar {d : Nat} (h : d < 16) (code : Nat) (rest : List Char) :
    unquoteCode code (Nat.digitChar d :: rest) = unquoteCode (16 * code + d) rest := by
  have hbrace : ∀ d < 16, Nat.digitChar d ≠ '\x7d' := by decide
  rw [unquoteCode, if_neg (hbrace d h), hexValue?_digitChar h]
  rfl

theorem unquoteCode_hexDigits (n : Nat) (rest : List Char) :
    unquoteCode 0 (hexDigits n ++ rest) = unquoteCode n rest := by
  unfold hexDigits
  induction n using Nat.base_induction 16 (by decide) generalizing rest with
  | single d hd =>
      rw [Nat.toDigits_of_lt_base hd, List.singleton_append, unquoteCode_digitChar hd,
        Nat.mul_zero, Nat.zero_add]
  | digit n d hd hn ih =>
      rw [← Nat.toDigits_append_toDigits (by decide) hn hd, List.append_assoc, ih,
        Nat.toDigits_of_lt_base hd, List.singleton_append, unquoteCode_digitChar hd]

/-! ### One character -/

theorem unquoteRest_quote (rest : List Char) : unquoteRest ('"' :: rest) = some ([], rest) := by
  rw [unquoteRest]

theorem unquoteRest_plain {c : Char} (hquote : c ≠ '"') (hslash : c ≠ '\\') (rest : List Char) :
    unquoteRest (c :: rest) = (unquoteRest rest).map fun r => (c :: r.1, r.2) := by
  -- every pattern above this one begins with a quote or a backslash
  rw [unquoteRest] <;> simp_all

theorem unquoteRest_code (c : Char) (rest : List Char) :
    unquoteRest ('\\' :: 'u' :: '\x7b' :: (hexDigits c.toNat ++ '\x7d' :: rest))
      = (unquoteRest rest).map fun r => (c :: r.1, r.2) := by
  have hcode : unquoteCode 0 (hexDigits c.toNat ++ '\x7d' :: rest) = some (c.toNat, rest) := by
    rw [unquoteCode_hexDigits, unquoteCode, if_pos rfl]
  rw [unquoteRest]
  split
  · next heq => simp [hcode] at heq
  · next heq =>
      rw [hcode] at heq
      cases heq
      rw [Char.ofNat_toNat]

/-- What a character is written as is read as that character. -/
theorem unquoteRest_quoteChar (c : Char) (rest : List Char) :
    unquoteRest (quoteChar c ++ rest) = (unquoteRest rest).map fun r => (c :: r.1, r.2) := by
  unfold quoteChar
  split
  case h_7 hquote hslash _ _ _ _ =>
    split
    · simpa using unquoteRest_code c rest
    · exact unquoteRest_plain hquote hslash rest
  -- the six characters with an escape of their own
  all_goals rw [List.cons_append, List.singleton_append, unquoteRest]

/-! ### Quoted texts -/

theorem unquoteRest_flatMap_quoteChar (s rest : List Char) :
    unquoteRest (s.flatMap quoteChar ++ '"' :: rest) = some (s, rest) := by
  induction s with
  | nil => exact unquoteRest_quote rest
  | cons c s ih =>
      rw [List.flatMap_cons, List.append_assoc, unquoteRest_quoteChar, ih]
      rfl

/-- A quoted text is read back in front of any text. -/
theorem unquote_quoteChars (s rest : List Char) :
    unquote (quoteChars s ++ rest) = some (s, rest) := by
  rw [quoteChars, List.append_assoc, List.cons_append, List.singleton_append, unquote]
  exact unquoteRest_flatMap_quoteChar s rest

theorem toList_quote (s : String) : (quote s).toList = quoteChars s.toList := String.toList_ofList

/-- No quoted text is the beginning of another one. -/
theorem quote_append_inj {s t : String}
    (h : (quote s).toList ++ rest = (quote t).toList ++ more) : s = t ∧ rest = more := by
  have hread := unquote_quoteChars s.toList rest
  rw [← toList_quote, h, toList_quote, unquote_quoteChars] at hread
  obtain ⟨htext, hrest⟩ := Prod.mk.inj (Option.some.inj hread)
  exact ⟨String.toList_inj.1 htext.symm, hrest.symm⟩

/-! ### Quoted texts in brackets -/

/-- The quoted texts behind the first, each after a comma and a space. -/
private def following (items : List String) : List Char :=
  items.flatMap fun s => ',' :: ' ' :: (quote s).toList

private theorem toList_quoteList_nil : (quoteList []).toList = ['[', ']'] := rfl

private theorem toList_quoteList_cons (s : String) (items : List String) :
    (quoteList (s :: items)).toList
      = '[' :: ((quote s).toList ++ (following items ++ [']'])) := by
  have hparted : (", ".intercalate ((s :: items).map quote)).toList
      = (quote s).toList ++ following items := by
    induction items generalizing s with
    | nil => simp [following]
    | cons t items ih =>
        rw [List.map_cons, List.map_cons, String.intercalate_cons_cons, ← List.map_cons,
          String.toList_append, ih]
        simp [following]
  simp [quoteList, -List.map_cons, hparted]

private theorem following_append_inj {items others : List String}
    (h : following items ++ ']' :: rest = following others ++ ']' :: more) :
    items = others ∧ rest = more := by
  induction items generalizing others with
  | nil =>
      cases others with
      | nil => exact ⟨rfl, (List.cons.inj h).2⟩
      | cons t others => cases h
  | cons s items ih =>
      cases others with
      | nil => cases h
      | cons t others =>
          simp only [following, List.flatMap_cons, List.cons_append, List.append_assoc,
            List.cons.injEq, true_and] at h
          obtain ⟨rfl, htail⟩ := quote_append_inj h
          obtain ⟨rfl, hrest⟩ := ih htail
          exact ⟨rfl, hrest⟩

/-- No list of quoted texts is the beginning of another one. -/
theorem quoteList_append_inj {items others : List String}
    (h : (quoteList items).toList ++ rest = (quoteList others).toList ++ more) :
    items = others ∧ rest = more := by
  cases items with
  | nil =>
      cases others with
      | nil => exact ⟨rfl, by simpa [toList_quoteList_nil] using h⟩
      | cons t others =>
          simp [toList_quoteList_nil, toList_quoteList_cons, toList_quote, quoteChars] at h
  | cons s items =>
      cases others with
      | nil => simp [toList_quoteList_nil, toList_quoteList_cons, toList_quote, quoteChars] at h
      | cons t others =>
          simp only [toList_quoteList_cons, List.cons_append, List.append_assoc, List.nil_append,
            List.cons.injEq, true_and] at h
          obtain ⟨rfl, htail⟩ := quote_append_inj h
          obtain ⟨rfl, hrest⟩ := following_append_inj htail
          exact ⟨rfl, hrest⟩

/-! ### Hidden characters -/

theorem isHidden_of_ascii {c : Char} (hlow : 0x20 ≤ c.toNat) (hhigh : c.toNat < 0x7F) :
    isHidden c = false := by
  rw [isHidden, if_neg (by omega), if_pos hhigh]

theorem le_toNat_of_isHidden {c : Char} (h : isHidden c = false) : 0x20 ≤ c.toNat := by
  apply Nat.le_of_not_lt
  intro hlow
  rw [isHidden, if_pos hlow] at h
  cases h

/-- A text none of whose characters is hidden. -/
def IsShown (s : List Char) : Prop := ∀ c ∈ s, isHidden c = false

instance (s : List Char) : Decidable (IsShown s) :=
  List.decidableBAll (fun c => isHidden c = false) s

theorem isShown_append {s t : List Char} : IsShown (s ++ t) ↔ IsShown s ∧ IsShown t :=
  List.forall_mem_append

theorem isShown_cons {c : Char} {s : List Char} :
    IsShown (c :: s) ↔ isHidden c = false ∧ IsShown s :=
  List.forall_mem_cons

theorem isShown_flatMap {α : Type} {items : List α} {f : α → List Char}
    (h : ∀ a ∈ items, IsShown (f a)) : IsShown (items.flatMap f) := by
  intro c hc
  obtain ⟨a, ha, hmem⟩ := List.mem_flatMap.1 hc
  exact h a ha c hmem

theorem isShown_digitChar {d : Nat} (h : d < 16) : IsShown [Nat.digitChar d] := by
  have hall : ∀ d < 16, 0x20 ≤ (Nat.digitChar d).toNat ∧ (Nat.digitChar d).toNat < 0x7F := by
    decide
  obtain ⟨hlow, hhigh⟩ := hall d h
  exact List.forall_mem_singleton.2 (isHidden_of_ascii hlow hhigh)

theorem isShown_toDigits {base : Nat} (hlow : 1 < base) (hhigh : base ≤ 16) (n : Nat) :
    IsShown (Nat.toDigits base n) := by
  induction n using Nat.base_induction base hlow with
  | single d hd =>
      rw [Nat.toDigits_of_lt_base hd]
      exact isShown_digitChar (by omega)
  | digit n d hd hn ih =>
      rw [← Nat.toDigits_append_toDigits hlow hn hd, Nat.toDigits_of_lt_base hd]
      exact isShown_append.2 ⟨ih, isShown_digitChar (by omega)⟩

theorem isShown_quoteChar (c : Char) : IsShown (quoteChar c) := by
  unfold quoteChar
  split
  case h_7 =>
    split
    · have hdigits : IsShown (hexDigits c.toNat) := isShown_toDigits (by decide) (by decide) _
      exact isShown_append.2 ⟨isShown_append.2 ⟨by decide, hdigits⟩, by decide⟩
    · next hshown => exact List.forall_mem_singleton.2 (Bool.not_eq_true _ ▸ hshown)
  -- the six characters with an escape of their own
  all_goals decide

theorem isShown_quote (s : String) : IsShown (quote s).toList := by
  rw [toList_quote, quoteChars, List.cons_append, isShown_cons, isShown_append]
  exact ⟨by decide, isShown_flatMap fun c _ => isShown_quoteChar c, by decide⟩

theorem isShown_quoteList (items : List String) : IsShown (quoteList items).toList := by
  cases items with
  | nil =>
      rw [toList_quoteList_nil]
      decide
  | cons s items =>
      rw [toList_quoteList_cons, isShown_cons, isShown_append, isShown_append]
      refine ⟨by decide, isShown_quote s, isShown_flatMap fun t _ => ?_, by decide⟩
      rw [isShown_cons, isShown_cons]
      exact ⟨by decide, by decide, isShown_quote t⟩

end DegreeAudit.Text
