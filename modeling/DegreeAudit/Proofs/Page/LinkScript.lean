import DegreeAudit.Page.AffiliationForm
import DegreeAudit.Proofs.Text.Blank
import Mathlib.Data.List.TakeWhile

/-!
# Reading the script of a link

`Finds` and `FindsForm` say what is searched for in a script, and how: from left to right, each pair
where it begins first and the next one behind it, and the first look-up of a form. `pairs` and
`formId?` are these searches.

A script that was written by `LinkScript.write` is read back: its fields in order, the form that it
names, and, if one of its fields is the affiliation, what the link offers. The search for pairs
looks at every quote of the script, those included that end a quoted text or stand in the fixed
words around the fields. Seen from such a quote, what stands between two quoted texts seems to be a
key, and the quoted text behind it would have to be a colon with blanks around it. That is why the
form and the first key must not be one; the later keys may be, because the quotes before them belong
to pairs that were found already. This rests on one equation, `pairs_quoted`: a quoted text that no
colon follows is passed over up to the quote that ends it.
-/

namespace DegreeAudit.LinkScript

open Text Html AffiliationPage

variable {s gap text : List Char} {c : Char}

/-! ### The parts of a pair -/

theorem upToQuote_append (h : '\'' ∉ text) (rest : List Char) :
    upToQuote (text ++ '\'' :: rest) = some (text, rest) := by
  have hne : ∀ c ∈ text, (c != '\'') = true := fun c hc => bne_iff_ne.2 fun heq => h (heq ▸ hc)
  rw [upToQuote, List.dropWhile_append_of_pos hne, List.dropWhile_cons_of_neg (by decide),
    List.takeWhile_append_of_pos hne, List.takeWhile_cons_of_neg (by decide), List.append_nil]

theorem upToQuote_of_not_mem (h : '\'' ∉ s) : upToQuote s = none := by
  have hne : ∀ c ∈ s, (c != '\'') = true := fun c hc => bne_iff_ne.2 fun heq => h (heq ▸ hc)
  rw [upToQuote, List.dropWhile_eq_nil_iff.2 hne]

theorem upToQuote_eq_some_iff {rest : List Char} :
    upToQuote s = some (text, rest) ↔ s = text ++ '\'' :: rest ∧ '\'' ∉ text := by
  refine ⟨fun h => ?_, fun ⟨hs, htext⟩ => hs ▸ upToQuote_append htext rest⟩
  by_cases hquote : '\'' ∈ s
  · obtain ⟨before, after, rfl, hbefore⟩ := List.eq_append_cons_of_mem hquote
    rw [upToQuote_append hbefore] at h
    cases h
    exact ⟨rfl, hbefore⟩
  · rw [upToQuote_of_not_mem hquote] at h
    cases h

theorem colonQuote?_eq_some_iff {rest : List Char} :
    colonQuote? s = some rest ↔
      ∃ before after, s = before ++ ':' :: (after ++ '\'' :: rest) ∧
        ∀ c ∈ before ++ after, isBlank c = true := by
  constructor
  · intro h
    obtain ⟨before, hs, hbefore⟩ := exists_blanks_append_trimLeft s
    unfold colonQuote? at h
    split at h
    · next behind hcolon =>
        obtain ⟨after, hbehind, hafter⟩ := exists_blanks_append_trimLeft behind
        split at h
        · next hquote =>
            cases h
            refine ⟨before, after, ?_, List.forall_mem_append.2 ⟨hbefore, hafter⟩⟩
            rw [← hquote, ← hbehind, ← hcolon, ← hs]
        · cases h
    · cases h
  · rintro ⟨before, after, rfl, hblank⟩
    obtain ⟨hbefore, hafter⟩ := List.forall_mem_append.1 hblank
    have hcolon : isBlank ':' = false := by decide
    have hquote : isBlank '\'' = false := by decide
    simp only [colonQuote?, trimLeft_append_of_not_blank hbefore hcolon,
      trimLeft_append_of_not_blank hafter hquote]

/-! ### Searching for pairs -/

/-- A text begins with a pair: a quoted key that is not empty, a colon among blanks, and a quoted
value. -/
inductive BeginsPair : List Char → String × String → List Char → Prop where
  | intro {key value before after : List Char} (rest : List Char) (hne : key ≠ [])
      (hkey : '\'' ∉ key) (hvalue : '\'' ∉ value)
      (hblank : ∀ c ∈ before ++ after, isBlank c = true) :
      BeginsPair ('\'' :: (key ++ '\'' :: (before ++ ':' :: (after ++ '\'' ::
        (value ++ '\'' :: rest))))) (String.ofList key, String.ofList value) rest

/-- What a search from left to right finds: each pair where it begins first, and the next behind
it. -/
inductive Finds : List Char → Fields → Prop where
  | ended : Finds [] []
  | skip {c : Char} {s : List Char} {fields : Fields}
      (hnone : ∀ pair rest, ¬BeginsPair (c :: s) pair rest) (h : Finds s fields) :
      Finds (c :: s) fields
  | found {s rest : List Char} {pair : String × String} {fields : Fields}
      (hpair : BeginsPair s pair rest) (h : Finds rest fields) : Finds s (pair :: fields)

theorem BeginsPair.exists_eq_quote_cons {pair : String × String} {rest : List Char}
    (h : BeginsPair s pair rest) : ∃ tail, s = '\'' :: tail := by
  cases h
  exact ⟨_, rfl⟩

/-- Whether a quoted text is the key of a pair depends on what follows it. -/
theorem pairAt?_quoted (hgap : '\'' ∉ gap) (rest : List Char) :
    pairAt? ('\'' :: (gap ++ '\'' :: rest)) =
      if gap.isEmpty then none
      else (colonQuote? rest).bind fun s =>
        (upToQuote s).map fun (value, s) => ((String.ofList gap, String.ofList value), s) := by
  rw [pairAt?, upToQuote_append hgap]
  rfl

theorem pairAt?_eq_some_iff {pair : String × String} {rest : List Char} :
    pairAt? s = some (pair, rest) ↔ BeginsPair s pair rest := by
  constructor
  · intro h
    unfold pairAt? at h
    split at h
    · obtain ⟨⟨key, behindKey⟩, hkey, h⟩ := Option.bind_eq_some_iff.1 h
      obtain ⟨hs, hkeyfree⟩ := upToQuote_eq_some_iff.1 hkey
      dsimp only at h
      split at h
      · cases h
      · next hne =>
          obtain ⟨behindColon, hcolon, h⟩ := Option.bind_eq_some_iff.1 h
          obtain ⟨before, after, hbehindKey, hblank⟩ := colonQuote?_eq_some_iff.1 hcolon
          obtain ⟨⟨value, behindValue⟩, hvalue, h⟩ := Option.map_eq_some_iff.1 h
          obtain ⟨hbehindColon, hvaluefree⟩ := upToQuote_eq_some_iff.1 hvalue
          cases h
          rw [hs, hbehindKey, hbehindColon]
          exact .intro behindValue (by simpa using hne) hkeyfree hvaluefree hblank
    · cases h
  · rintro ⟨rest, hne, hkey, hvalue, hblank⟩
    rw [pairAt?_quoted hkey, if_neg (by simpa using hne),
      colonQuote?_eq_some_iff.2 ⟨_, _, rfl, hblank⟩, Option.bind_some, upToQuote_append hvalue,
      Option.map_some]

theorem pairAt?_eq_none_iff : pairAt? s = none ↔ ∀ pair rest, ¬BeginsPair s pair rest := by
  rw [Option.eq_none_iff_forall_ne_some, Prod.forall]
  exact forall_congr' fun pair => forall_congr' fun rest => not_congr pairAt?_eq_some_iff

theorem pairs_of_pairAt? {pair : String × String} {rest : List Char}
    (h : pairAt? s = some (pair, rest)) : pairs s = pair :: pairs rest := by
  cases s with
  | nil => cases h
  | cons c tail =>
      rw [pairs]
      split
      · next h' =>
          rw [h] at h'
          cases h'
          rfl
      · next h' =>
          rw [h] at h'
          cases h'

theorem pairs_cons_of_none (h : pairAt? (c :: s) = none) : pairs (c :: s) = pairs s := by
  rw [pairs]
  split
  · next h' =>
      rw [h] at h'
      cases h'
  · rfl

/-- `pairs` is this search. -/
theorem finds_iff {fields : Fields} : Finds s fields ↔ pairs s = fields := by
  constructor
  · intro h
    induction h with
    | ended => rw [pairs]
    | skip hnone _ ih => rw [pairs_cons_of_none (pairAt?_eq_none_iff.2 hnone), ih]
    | found hpair _ ih => rw [pairs_of_pairAt? (pairAt?_eq_some_iff.2 hpair), ih]
  · rintro rfl
    fun_induction pairs s with
    | case1 => exact .ended
    | case2 c tail pair rest hpair _ ih => exact .found (pairAt?_eq_some_iff.1 hpair) ih
    | case3 c tail hnone ih => exact .skip (pairAt?_eq_none_iff.1 hnone) ih

/-- Text without quotes holds no pair. -/
theorem pairs_append_of_not_mem (h : '\'' ∉ gap) (rest : List Char) :
    pairs (gap ++ rest) = pairs rest := by
  induction gap with
  | nil => rfl
  | cons c gap ih =>
      have hc : c ≠ '\'' := fun heq => h (heq ▸ List.mem_cons_self)
      have hgap : '\'' ∉ gap := fun hmem => h (List.mem_cons_of_mem c hmem)
      have hnone : pairAt? (c :: (gap ++ rest)) = none := by
        rw [pairAt?_eq_none_iff]
        intro pair behind hpair
        obtain ⟨tail, htail⟩ := hpair.exists_eq_quote_cons
        exact hc (List.cons.inj htail).1
      rw [List.cons_append, pairs_cons_of_none hnone, ih hgap]

theorem pairs_of_not_mem (h : '\'' ∉ s) : pairs s = [] := by
  rw [← List.append_nil s, pairs_append_of_not_mem h, pairs]

/-- A quoted text that no colon follows is passed over up to the quote that ends it. -/
theorem pairs_quoted (hgap : '\'' ∉ gap) {rest : List Char} (hrest : colonQuote? rest = none) :
    pairs ('\'' :: (gap ++ '\'' :: rest)) = pairs ('\'' :: rest) := by
  have hnone : pairAt? ('\'' :: (gap ++ '\'' :: rest)) = none := by
    rw [pairAt?_quoted hgap, hrest]
    split <;> rfl
  rw [pairs_cons_of_none hnone, pairs_append_of_not_mem hgap]

/-- The last quote begins no pair. -/
theorem pairs_quote_of_not_mem (h : '\'' ∉ s) : pairs ('\'' :: s) = [] := by
  have hnone : pairAt? ('\'' :: s) = none := by
    rw [pairAt?, upToQuote_of_not_mem h]
    rfl
  rw [pairs_cons_of_none hnone, pairs_of_not_mem h]

/-! ### Colons between blanks -/

def IsColon (text : List Char) : Prop := text.filter (!isBlank ·) = [':']

instance (text : List Char) : Decidable (IsColon text) := inferInstanceAs (Decidable (_ = _))

/-- Where a colon and a quote follow, what stands in front of the next quote is that colon. -/
theorem colonQuote?_of_not_isColon (htext : '\'' ∉ text) (h : ¬IsColon text)
    (rest : List Char) : colonQuote? (text ++ '\'' :: rest) = none := by
  rw [Option.eq_none_iff_forall_ne_some]
  intro behind hcolon
  obtain ⟨before, after, heq, hblank⟩ := colonQuote?_eq_some_iff.1 hcolon
  have hfree : '\'' ∉ before ++ ':' :: after := by
    intro hmem
    have hquote : isBlank '\'' = true := hblank _ (by simpa using hmem)
    cases hquote
  have htext' : text = before ++ ':' :: after := by
    have hsame := upToQuote_append htext rest
    rw [heq, ← List.cons_append, ← List.append_assoc, upToQuote_append hfree] at hsame
    exact (congrArg Prod.fst (Option.some.inj hsame)).symm
  have hblanks (blanks : List Char) (hsub : blanks ⊆ before ++ after) :
      blanks.filter (!isBlank ·) = [] :=
    List.filter_eq_nil_iff.2 fun c hc => by simp [hblank c (hsub hc)]
  apply h
  rw [IsColon, htext', List.filter_append, List.filter_cons_of_pos (by decide),
    hblanks before (List.subset_append_left _ _), hblanks after (List.subset_append_right _ _),
    List.nil_append]

/-! ### Written scripts -/

/-- What can be written as the script of a link and read back: texts without quotes, of which the
form and the keys are not empty, and neither the form nor the first key is a colon. -/
structure Readable (form : String) (fields : Fields) (target : String) : Prop where
  form_free : '\'' ∉ form.toList
  fields_free : ∀ field ∈ fields, '\'' ∉ field.1.toList ∧ '\'' ∉ field.2.toList
  target_free : '\'' ∉ target.toList
  form_ne : form ≠ ""
  fields_ne : fields ≠ []
  keys_ne : ∀ field ∈ fields, field.1 ≠ ""
  form_not_colon : ¬IsColon form.toList
  first_not_colon : ∀ field ∈ fields.head?, ¬IsColon field.1.toList

theorem pairs_quoted_field {key value : String} (hkey : '\'' ∉ key.toList) (hne : key ≠ "")
    (hvalue : '\'' ∉ value.toList) (rest : List Char) :
    pairs (quoted key ++ ':' :: quoted value ++ rest) = (key, value) :: pairs rest := by
  have hne' : key.toList ≠ [] := fun hnil => hne (String.toList_eq_nil_iff.1 hnil)
  have htext : quoted key ++ ':' :: quoted value ++ rest = '\'' :: (key.toList ++ '\'' ::
      ([] ++ ':' :: ([] ++ '\'' :: (value.toList ++ '\'' :: rest)))) := by
    simp [quoted]
  have hblank : ∀ c ∈ ([] : List Char) ++ [], isBlank c = true := List.forall_mem_nil _
  have hpair := BeginsPair.intro rest hne' hkey hvalue hblank
  rw [htext, pairs_of_pairAt? (pairAt?_eq_some_iff.2 hpair), String.ofList_toList,
    String.ofList_toList]

theorem writePairs_cons (key value : String) (fields : Fields) :
    writePairs ((key, value) :: fields) = quoted key ++ ':' :: quoted value ++
      if fields.isEmpty then [] else ',' :: writePairs fields := by
  cases fields with
  | nil => simp [writePairs]
  | cons next fields => simp [writePairs]

/-- Written fields are found in order, whatever comes behind them. -/
theorem pairs_writePairs_append {fields : Fields}
    (hfree : ∀ field ∈ fields, '\'' ∉ field.1.toList ∧ '\'' ∉ field.2.toList)
    (hne : ∀ field ∈ fields, field.1 ≠ "") (rest : List Char) :
    pairs (writePairs fields ++ rest) = fields ++ pairs rest := by
  induction fields with
  | nil => rfl
  | cons field fields ih =>
      obtain ⟨⟨hkey, hvalue⟩, hfree⟩ := List.forall_mem_cons.1 hfree
      obtain ⟨hkeyne, hne⟩ := List.forall_mem_cons.1 hne
      have hcomma : pairs ((if fields.isEmpty then [] else ',' :: writePairs fields) ++ rest) =
          fields ++ pairs rest := by
        cases fields with
        | nil => rfl
        | cons next fields =>
            rw [← ih hfree hne]
            exact pairs_append_of_not_mem (show '\'' ∉ [','] by decide) _
      rw [writePairs_cons, List.append_assoc, pairs_quoted_field hkey hkeyne hvalue, hcomma,
        List.cons_append]

/-- The quotes of a written script: around a word, the form, the fields and the target. -/
theorem write_eq_quotes (form : String) (fields : Fields) (target : String) :
    write form fields target =
      "if(typeof jsfcljs == ".toList ++ '\'' :: ("function".toList ++ '\'' ::
        (")\x7bjsfcljs(document.getElementById(".toList ++ '\'' :: (form.toList ++ '\'' ::
          ("),\x7b".toList ++ (writePairs fields ++ ("\x7d,".toList ++ '\'' ::
            (target.toList ++ '\'' :: ");\x7dreturn false".toList))))))) := by
  have hstart : "if(typeof jsfcljs == 'function')\x7bjsfcljs(document.getElementById(".toList =
      "if(typeof jsfcljs == ".toList ++ '\'' :: ("function".toList ++ '\'' ::
        ")\x7bjsfcljs(document.getElementById(".toList) := by
    decide +kernel
  unfold write quoted
  rw [hstart]
  simp only [List.append_assoc, List.cons_append, List.nil_append]

example : write "f" [("a", "b"), ("vinculo", "1")] "t" =
    ("if(typeof jsfcljs == 'function')\x7bjsfcljs(document.getElementById('f')," ++
      "\x7b'a':'b','vinculo':'1'\x7d,'t');\x7dreturn false").toList := by
  decide +kernel

/-- The written fields begin with the first key in quotes. -/
theorem exists_writePairs_eq_quoted {fields : Fields} (hne : fields ≠ []) :
    ∃ field ∈ fields.head?, ∃ rest,
      writePairs fields = '\'' :: (field.1.toList ++ '\'' :: rest) := by
  obtain ⟨⟨key, value⟩, fields, rfl⟩ := List.exists_cons_of_ne_nil hne
  refine ⟨(key, value), rfl, ?_⟩
  rw [writePairs_cons]
  simp only [quoted, List.append_assoc, List.cons_append, List.nil_append, List.cons.injEq,
    List.append_cancel_left_eq, true_and, exists_eq']

theorem pairs_write {form target : String} {fields : Fields} (h : Readable form fields target) :
    pairs (write form fields target) = fields := by
  obtain ⟨first, hfirst, more, hmore⟩ := exists_writePairs_eq_quoted h.fields_ne
  obtain ⟨hkey, -⟩ := h.fields_free first (List.mem_of_mem_head? hfirst)
  -- no quote in front of the fields begins a pair: behind the text up to the next quote stand fixed
  -- words, the form or the first key
  have hword (rest : List Char) :
      colonQuote? (")\x7bjsfcljs(document.getElementById(".toList ++ rest) = none := rfl
  have hform (rest : List Char) : colonQuote? (form.toList ++ '\'' :: rest) = none :=
    colonQuote?_of_not_isColon h.form_free h.form_not_colon rest
  have hgap (rest : List Char) : colonQuote? ("),\x7b".toList ++ rest) = none := rfl
  have hfields (rest : List Char) : colonQuote? (first.1.toList ++ '\'' :: rest) = none :=
    colonQuote?_of_not_isColon hkey (h.first_not_colon first hfirst) rest
  have hopening (rest : List Char) :
      pairs ('\'' :: ("),\x7b".toList ++ (writePairs fields ++ rest))) =
        pairs (writePairs fields ++ rest) := by
    rw [hmore, List.cons_append, List.append_assoc, List.cons_append]
    exact pairs_quoted (by decide) (hfields _)
  -- nor does a quote behind them
  have hend : colonQuote? ");\x7dreturn false".toList = none := rfl
  have hclosing : pairs ("\x7d,".toList ++ '\'' ::
      (target.toList ++ '\'' :: ");\x7dreturn false".toList)) = [] := by
    rw [pairs_append_of_not_mem (by decide), pairs_quoted h.target_free hend,
      pairs_quote_of_not_mem (by decide)]
  rw [write_eq_quotes, pairs_append_of_not_mem (by decide), pairs_quoted (by decide) (hword _),
    pairs_quoted (by decide) (hform _), pairs_quoted h.form_free (hgap _), hopening,
    pairs_writePairs_append h.fields_free h.keys_ne, hclosing, List.append_nil]

/-! ### The form that is named -/

/-- A text begins with the look-up of a form by an id that is not empty. -/
def BeginsLookup (s : List Char) (id : String) : Prop :=
  id ≠ "" ∧ '\'' ∉ id.toList ∧ ∃ rest, s = lookup ++ (id.toList ++ '\'' :: ')' :: rest)

/-- The first look-up of a text is that of the id. -/
inductive FindsForm : List Char → String → Prop where
  | here {s : List Char} {id : String} (h : BeginsLookup s id) : FindsForm s id
  | later {c : Char} {s : List Char} {id : String} (hnone : ∀ other, ¬BeginsLookup (c :: s) other)
      (h : FindsForm s id) : FindsForm (c :: s) id

theorem formIdAt?_eq_some_iff {id : String} : formIdAt? s = some id ↔ BeginsLookup s id := by
  constructor
  · intro h
    unfold formIdAt? at h
    split at h
    · next hlookup =>
        obtain ⟨behind, rfl⟩ := List.isPrefixOf_iff_prefix.1 hlookup
        rw [List.drop_left] at h
        obtain ⟨⟨text, rest⟩, htext, h⟩ := Option.bind_eq_some_iff.1 h
        obtain ⟨hbehind, hfree⟩ := upToQuote_eq_some_iff.1 htext
        obtain ⟨⟨hne, hclose⟩, heq⟩ := Option.ite_none_right_eq_some.1 h
        obtain ⟨more, rfl⟩ := List.head?_eq_some_iff.1 hclose
        obtain rfl := Option.some.inj heq
        refine ⟨?_, ?_, more, ?_⟩
        · simpa using hne
        · rwa [String.toList_ofList]
        · rw [String.toList_ofList, hbehind]
    · cases h
  · rintro ⟨hne, hfree, rest, rfl⟩
    have hlookup : lookup.isPrefixOf (lookup ++ (id.toList ++ '\'' :: ')' :: rest)) = true :=
      List.isPrefixOf_iff_prefix.2 (List.prefix_append _ _)
    have hne' : id.toList ≠ [] := fun hnil => hne (String.toList_eq_nil_iff.1 hnil)
    rw [formIdAt?, if_pos hlookup, List.drop_left, upToQuote_append hfree, Option.bind_some]
    simp [hne']

theorem formIdAt?_eq_none_iff : formIdAt? s = none ↔ ∀ id, ¬BeginsLookup s id := by
  rw [Option.eq_none_iff_forall_ne_some]
  exact forall_congr' fun id => not_congr formIdAt?_eq_some_iff

/-- `formId?` finds the first look-up. -/
theorem formId?_eq_some_iff {id : String} : formId? s = some id ↔ FindsForm s id := by
  constructor
  · intro h
    induction s with
    | nil => cases h
    | cons c tail ih =>
        rw [formId?, Option.or_eq_some_iff] at h
        rcases h with hhere | ⟨hnone, hlater⟩
        · exact .here (formIdAt?_eq_some_iff.1 hhere)
        · exact .later (formIdAt?_eq_none_iff.1 hnone) (ih hlater)
  · intro h
    induction h with
    | @here s id hbegins =>
        have hhere := formIdAt?_eq_some_iff.2 hbegins
        cases s with
        | nil => cases hhere
        | cons c tail => rw [formId?, hhere, Option.some_or]
    | later hnone _ ih => rw [formId?, formIdAt?_eq_none_iff.2 hnone, Option.none_or, ih]

/-- A text in which the first letter of a look-up does not come is passed over. -/
theorem FindsForm.append_of_not_mem {id : String} {rest : List Char} (h : FindsForm rest id)
    (hgap : 'g' ∉ gap) : FindsForm (gap ++ rest) id := by
  induction gap with
  | nil => exact h
  | cons c gap ih =>
      refine .later ?_ (ih fun hmem => hgap (List.mem_cons_of_mem c hmem))
      rintro other ⟨-, -, more, hmore⟩
      have hlookup : lookup = 'g' :: "etElementById('".toList := by decide +kernel
      rw [hlookup, List.cons_append] at hmore
      exact hgap ((List.cons.inj hmore).1 ▸ List.mem_cons_self)

/-- The look-up in a written script. -/
theorem exists_write_eq_lookup (form : String) (fields : Fields) (target : String) :
    ∃ rest, write form fields target =
      "if(typeof jsfcljs == 'function')\x7bjsfcljs(document.".toList ++
        (lookup ++ (form.toList ++ '\'' :: ')' :: rest)) := by
  have hstart : "if(typeof jsfcljs == 'function')\x7bjsfcljs(document.getElementById(".toList ++
      ['\''] = "if(typeof jsfcljs == 'function')\x7bjsfcljs(document.".toList ++ lookup := by
    decide +kernel
  have hgap : "),\x7b".toList = ')' :: ",\x7b".toList := rfl
  refine ⟨",\x7b".toList ++ writePairs fields ++ "\x7d,".toList ++ quoted target ++
    ");\x7dreturn false".toList, ?_⟩
  rw [← List.append_assoc, ← hstart]
  unfold write quoted
  rw [hgap]
  simp only [List.append_assoc, List.cons_append, List.nil_append]

theorem findsForm_write {form target : String} {fields : Fields}
    (h : Readable form fields target) : FindsForm (write form fields target) form := by
  obtain ⟨rest, hwrite⟩ := exists_write_eq_lookup form fields target
  have hlookup : BeginsLookup (lookup ++ (form.toList ++ '\'' :: ')' :: rest)) form :=
    ⟨h.form_ne, h.form_free, rest, rfl⟩
  rw [hwrite]
  exact (FindsForm.here hlookup).append_of_not_mem (by decide)

/-! ### Reading back -/

/-- What is read of the script of a link. -/
structure ReadsBack (script : List Char) (form : String) (fields : Fields) : Prop where
  /-- The search for pairs finds the fields, -/
  finds : Finds script fields ∧ pairs script = fields
  /-- and the search for look-ups the form. -/
  names : FindsForm script form ∧ formId? script = some form
  /-- A link with a field of the affiliation offers its first value, with the other fields. -/
  offers : ∀ l : Located, l.name = "a" → l.attribute? "onclick" = some (String.ofList script) →
    (∃ field ∈ fields, field.1 = Fields.affiliation) →
    ∃ before value after, fields = before ++ (Fields.affiliation, value) :: after ∧
      (∀ field ∈ before, field.1 ≠ Fields.affiliation) ∧
      linkOffer? l = some ⟨value, linkLabel l, before ++ after⟩

/-- The first field of a name among those in which it comes. -/
theorem exists_first_field {fields : Fields} {name : String}
    (h : ∃ field ∈ fields, field.1 = name) : ∃ before value after,
      fields = before ++ (name, value) :: after ∧ ∀ field ∈ before, field.1 ≠ name := by
  have hsome : (fields.find? (·.1 == name)).isSome = true := by simpa using h
  obtain ⟨field, hfield⟩ := Option.isSome_iff_exists.1 hsome
  obtain ⟨hname, before, after, hfields, hbefore⟩ := List.find?_eq_some_iff_append.1 hfield
  refine ⟨before, field.2, after, ?_, by simpa using hbefore⟩
  rw [hfields, ← beq_iff_eq.1 hname]

theorem linkOffer?_of_script {l : Located} (hname : l.name = "a")
    (hscript : l.attribute? "onclick" = some (String.ofList s)) {before after : Fields}
    {value : String} (hpairs : pairs s = before ++ (Fields.affiliation, value) :: after)
    (hbefore : ∀ field ∈ before, field.1 ≠ Fields.affiliation) :
    linkOffer? l = some ⟨value, linkLabel l, before ++ after⟩ := by
  rw [linkOffer?, script?, if_pos hname, hscript, Option.map_some, String.toList_ofList,
    Option.bind_some, hpairs, Fields.takeOut?_append hbefore, Option.map_some]

/-- What was written as the script of a link is read back. -/
theorem write_readsBack {form target : String} {fields : Fields}
    (h : Readable form fields target) : ReadsBack (write form fields target) form fields where
  finds := ⟨finds_iff.2 (pairs_write h), pairs_write h⟩
  names := ⟨findsForm_write h, formId?_eq_some_iff.2 (findsForm_write h)⟩
  offers l hname hscript hfield := by
    obtain ⟨before, value, after, hfields, hbefore⟩ := exists_first_field hfield
    refine ⟨before, value, after, hfields, hbefore, ?_⟩
    exact linkOffer?_of_script hname hscript ((pairs_write h).trans hfields) hbefore

/-- Keys behind the first and the target may well be colons, and values hold what they like. -/
theorem write_readsBack_of_colons :
    let fields : Fields := [("a b", " : "), (" : ", "\x7d,"), ("vinculo", "é🎓"), ("vinculo", "2")]
    Readable "form:1" fields ":" ∧ ReadsBack (write "form:1" fields ":") "form:1" fields := by
  intro fields
  have h : Readable "form:1" fields ":" :=
    ⟨by decide, by decide, by decide, by decide, by decide, by decide, by decide, by decide⟩
  exact ⟨h, write_readsBack h⟩

end DegreeAudit.LinkScript
