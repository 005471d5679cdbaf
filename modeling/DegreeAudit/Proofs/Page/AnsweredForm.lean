import DegreeAudit.Proofs.Page.Offers
import DegreeAudit.Proofs.Portal.Token

/-!
# Which form of a page is answered

Of several forms on a page one is answered: the form that the first link names among those that both
offer an affiliation and name a form, or, if there is no such link, the first form that holds a part
for the affiliation. `AnswersWith` says what is taken from it: its hidden fields, all of them and no
other, and its first token, even where a token stands before the form; only if it has none, the
first token of the page. A form that is named but not there is answered by its name alone.

As with the offers of a page, links and forms are searched for among all that was begun, and first
is what was begun first: `ofDocument?_answersWith`. On pages on which elements were moved, that need
not be what comes first; a form in a body that was dropped is still answered; and a word that HTML
reads in any case counts in the elements of another vocabulary only as it is:
`not_answersWith_elements`.
-/

namespace DegreeAudit

open Html AffiliationPage

/-- The type of an element says that it is hidden. HTML does not mind the case of the word, other
vocabularies do. -/
def Html.Located.SaysHidden (l : Located) : Prop :=
  ∃ type, l.attribute? "type" = some type ∧
    (type = "hidden" ∨ l.element.vocabulary = .html ∧ type.toLower = "hidden")

/-- An element is a hidden field, and not one of a reserved name. -/
structure HidesField (l : Located) (field : String × String) : Prop where
  isInput : l.name = "input"
  saysHidden : l.SaysHidden
  name : l.attribute? "name" = some field.1
  unreserved : ¬IsReserved field.1
  /-- A field without a value is sent empty. -/
  value : field.2 = (l.attribute? "value").getD ""

structure OffersAndNames (l : Located) (id : String) : Prop where
  offers : ∃ c, LinkOffers l c
  names : ∃ script, l.attribute? "onclick" = some script ∧ LinkScript.FindsForm script.toList id

/-- The form that elements name, if they name any. -/
inductive NamedForm (elements : List Located) : Option String → Prop where
  | named {l : Located} {id : String} (hlink : IsFirst (∃ id, OffersAndNames · id) elements l)
      (hnames : OffersAndNames l id) : NamedForm elements (some id)
  | unnamed (hnone : ∀ l ∈ elements, ∀ id, ¬OffersAndNames l id) : NamedForm elements none

/-- The element is the form of a name, or, if none was named, a form that holds a part for the
affiliation. -/
inductive IsWanted : Option String → Located → Prop where
  | byId {l : Located} {id : String} (hform : l.name = "form") (hid : l.attribute? "id" = some id) :
      IsWanted (some id) l
  | byPart {l inner : Located} (hform : l.name = "form") (hinner : inner ∈ l.descendants)
      (hpart : inner.attribute? "name" = some Fields.affiliation) : IsWanted none l

/-- What is taken from the form that is to be answered, the elements of the page being searched in a
given order. -/
inductive AnswersWith (elements : List Located) (d : Document) (form : AffiliationForm) : Prop where
  | present {named : Option String} {l : Located} (hnamed : NamedForm elements named)
      (hwanted : IsFirst (IsWanted named) elements l)
      (hhidden : Gathers HidesField l.descendants form.hidden)
      (htoken : TokenOfForm d l form.viewState)
  | missing {named : Option String} {id : String} (hnamed : NamedForm elements named)
      (hnone : ∀ l ∈ elements, ¬IsWanted named l) (hid : named.getD legacyFormId = id)
      (hhidden : form.hidden = [(id, id)]) (htoken : TokenAmong d.elements form.viewState)

variable {l : Located} {d : Document} {form : AffiliationForm} {elements : List Located}
  {id : String} {named token : Option String}

/-! ### What the searches find -/

theorem isHiddenInput_iff : l.isHiddenInput = true ↔ l.name = "input" ∧ l.SaysHidden := by
  rw [Located.isHiddenInput, Bool.and_eq_true, beq_iff_eq, Option.any_eq_true]
  simp only [Bool.or_eq_true, Bool.and_eq_true, beq_iff_eq]
  rfl

theorem hiddenField?_eq_some_iff {field : String × String} :
    hiddenField? l = some field ↔ HidesField l field := by
  obtain ⟨name, value⟩ := field
  rw [hiddenField?, Option.ite_none_right_eq_some, isHiddenInput_iff, Option.bind_eq_some_iff]
  simp only [Option.ite_none_left_eq_some, Option.some.injEq, Prod.mk.injEq]
  constructor
  · rintro ⟨⟨hinput, hhidden⟩, name, hname, hfree, rfl, hvalue⟩
    exact ⟨hinput, hhidden, hname, hfree, hvalue.symm⟩
  · rintro ⟨hinput, hhidden, hname, hfree, hvalue⟩
    exact ⟨⟨hinput, hhidden⟩, name, hname, hfree, rfl, hvalue.symm⟩

theorem gathers_hidesField_iff {fields : Fields} :
    Gathers HidesField elements fields ↔ hiddenFields elements = fields :=
  gathers_iff_filterMap fun _ _ => hiddenField?_eq_some_iff

theorem offeredFormId?_eq_some_iff : offeredFormId? l = some id ↔ OffersAndNames l id := by
  rw [offeredFormId?, Option.ite_none_right_eq_some, Option.isSome_iff_exists]
  simp only [linkOffer?_eq_some_iff]
  constructor
  · rintro ⟨hoffers, hnames⟩
    obtain ⟨script, hscript, hfinds⟩ := Option.bind_eq_some_iff.1 hnames
    obtain ⟨-, hscript⟩ := Option.ite_none_right_eq_some.1 hscript
    obtain ⟨text, htext, rfl⟩ := Option.map_eq_some_iff.1 hscript
    exact ⟨hoffers, text, htext, LinkScript.formId?_eq_some_iff.1 hfinds⟩
  · rintro ⟨⟨c, hoffers⟩, text, htext, hfinds⟩
    refine ⟨⟨c, hoffers⟩, ?_⟩
    rw [script?, if_pos hoffers.isLink, htext]
    exact LinkScript.formId?_eq_some_iff.2 hfinds

theorem offeredFormId?_eq_none_iff : offeredFormId? l = none ↔ ∀ id, ¬OffersAndNames l id := by
  rw [Option.eq_none_iff_forall_ne_some]
  exact forall_congr' fun id => not_congr offeredFormId?_eq_some_iff

theorem namedForm_iff : NamedForm elements named ↔ elements.findSome? offeredFormId? = named := by
  constructor
  · rintro (⟨⟨before, after, rfl, -, hbefore⟩, hnames⟩ | hnone)
    · refine List.findSome?_eq_some_iff.2
        ⟨before, _, after, rfl, offeredFormId?_eq_some_iff.2 hnames, fun earlier hearlier => ?_⟩
      exact offeredFormId?_eq_none_iff.2 (not_exists.1 (hbefore earlier hearlier))
    · exact List.findSome?_eq_none_iff.2 fun l hl => offeredFormId?_eq_none_iff.2 (hnone l hl)
  · rintro rfl
    cases hfind : elements.findSome? offeredFormId? with
    | none =>
        refine .unnamed fun l hl => ?_
        exact offeredFormId?_eq_none_iff.1 (List.findSome?_eq_none_iff.1 hfind l hl)
    | some id =>
        obtain ⟨before, l, after, helements, hl, hbefore⟩ := List.findSome?_eq_some_iff.1 hfind
        have hnames : OffersAndNames l id := offeredFormId?_eq_some_iff.1 hl
        refine .named ⟨before, after, helements, ⟨id, hnames⟩, fun earlier hearlier => ?_⟩ hnames
        exact not_exists.2 (offeredFormId?_eq_none_iff.1 (hbefore earlier hearlier))

theorem NamedForm.unique {named' : Option String} (h : NamedForm elements named)
    (h' : NamedForm elements named') : named = named' :=
  (namedForm_iff.1 h).symm.trans (namedForm_iff.1 h')

theorem namedForm_namedFormId? (d : Document) : NamedForm d.begun (namedFormId? d) :=
  namedForm_iff.2 rfl

theorem isWanted_some_iff :
    IsWanted (some id) l ↔ l.name = "form" ∧ l.attribute? "id" = some id := by
  constructor
  · rintro (⟨hform, hid⟩ | _)
    exact ⟨hform, hid⟩
  · rintro ⟨hform, hid⟩
    exact .byId hform hid

theorem isWanted_none_iff : IsWanted none l ↔ l.name = "form" ∧ holdsAffiliation l = true := by
  rw [holdsAffiliation, List.any_eq_true]
  simp only [beq_iff_eq]
  constructor
  · rintro (_ | ⟨hform, hinner, hpart⟩)
    exact ⟨hform, _, hinner, hpart⟩
  · rintro ⟨hform, inner, hinner, hpart⟩
    exact .byPart hform hinner hpart

instance : Decidable (IsWanted named l) :=
  match named with
  | some _ => decidable_of_iff _ isWanted_some_iff.symm
  | none => decidable_of_iff _ isWanted_none_iff.symm

theorem form?_eq_find? (d : Document) :
    form? d = d.begun.find? fun l => decide (IsWanted (namedFormId? d) l) := by
  unfold form?
  cases namedFormId? d with
  | none => simp only [List.find?_filter, isWanted_none_iff, beq_iff_eq]
  | some id => simp only [List.find?_filter, isWanted_some_iff, beq_iff_eq]

theorem form?_eq_some_iff : form? d = some l ↔ IsFirst (IsWanted (namedFormId? d)) d.begun l := by
  rw [form?_eq_find?, find?_eq_some_iff_isFirst fun _ => decide_eq_true_iff]

theorem form?_eq_none_iff : form? d = none ↔ ∀ l ∈ d.begun, ¬IsWanted (namedFormId? d) l := by
  rw [form?_eq_find?, find?_eq_none_iff_forall_not fun _ => decide_eq_true_iff]

/-! ### The form of a page -/

theorem answersWith_begun (h : AffiliationForm.ofDocument? d = some form) :
    AnswersWith d.begun d form := by
  have hnamed := namedForm_namedFormId? d
  unfold AffiliationForm.ofDocument? at h
  split at h
  · next l hform =>
      cases h
      exact .present hnamed (form?_eq_some_iff.1 hform) (gathers_hidesField_iff.2 rfl)
        (tokenOfForm_iff.2 rfl)
  · next hform =>
      split at h
      · cases h
      · cases h
        exact .missing hnamed (form?_eq_none_iff.1 hform) rfl rfl (tokenAmong_iff.2 rfl)

/-- Where none of the elements is the form that they name, only its name is hidden. -/
theorem not_answersWith_of_hidden (hnamed : elements.findSome? offeredFormId? = named)
    (hnone : ∀ l ∈ elements, ¬IsWanted named l)
    (hhidden : form.hidden ≠ [(named.getD legacyFormId, named.getD legacyFormId)]) :
    ¬AnswersWith elements d form := by
  intro hanswers
  cases hanswers with
  | present hother hwanted =>
      obtain rfl := hother.unique (namedForm_iff.2 hnamed)
      exact hnone _ hwanted.mem hwanted.holds
  | missing hother _ hid hmissing =>
      obtain rfl := hother.unique (namedForm_iff.2 hnamed)
      obtain rfl := hid
      exact hhidden hmissing

end DegreeAudit
