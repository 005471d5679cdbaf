import DegreeAudit.Proofs.Order.Gathering
import DegreeAudit.Proofs.Page.LinkScript
import DegreeAudit.Proofs.Page.Payload

/-!
# What a page offers

`LinkOffers` and `FieldOffers` say what an element offers, `OffersAmong` what elements offer in
order, and `ChoosesAmong` that the choices of a form are the offers, each value where it comes
first. The choices of a page are those among all elements that were begun, in the order in which
they were: `choices_chooseAmong`. On a page on which nothing was dropped and nothing moved these are
its elements in document order. But a link that is misplaced in a table is moved in front of the
table, and what it offers still comes after what the table offered before; and a link in a body that
was dropped for a frameset still offers what it did: `not_choosesAmong_elements`.
-/

namespace DegreeAudit

open Html AffiliationPage

/-! ### The offers of an element -/

def Html.Node.IsElement (node : Node) : Prop :=
  ∃ number e children, node = .element number e children

def Html.Node.IsNamed (name : String) (node : Node) : Prop :=
  ∃ number e children, node = .element number e children ∧ e.name = name

/-- The label of a link: that of the nearest row around it, or its own if there is none. -/
inductive LinkLabel (l : Located) : String → Prop where
  | row {row : Node} (hrow : IsFirst (·.IsNamed "tr") l.around row) : LinkLabel l row.label
  | own (hnone : ∀ node ∈ l.around, ¬node.IsNamed "tr") : LinkLabel l l.node.label

/-- A link offers the first affiliation that its script sets, with all other fields that it sets. -/
structure LinkOffers (l : Located) (c : Affiliation) : Prop where
  isLink : l.name = "a"
  script : ∃ script before after, l.attribute? "onclick" = some script ∧
    LinkScript.Finds script.toList (before ++ (Fields.affiliation, c.value) :: after) ∧
    (∀ pair ∈ before, pair.1 ≠ Fields.affiliation) ∧ c.parameters = before ++ after
  label : LinkLabel l c.label

/-- The label of an input field: that of the element that holds it, or its own if none does. -/
inductive InputLabel (l : Located) : String → Prop where
  | holder {holder : Node} (haround : l.around.head? = some holder) (hholder : holder.IsElement) :
      InputLabel l holder.label
  | own (hnone : ∀ holder ∈ l.around.head?, ¬holder.IsElement) : InputLabel l l.node.label

/-- An input field of the affiliation and an option of a selection of the affiliation offer their
values. -/
inductive FieldOffers (l : Located) : Affiliation → Prop where
  | input {value label : String} (hname : l.name = "input")
      (hfield : l.attribute? "name" = some Fields.affiliation)
      (hvalue : l.attribute? "value" = some value) (hlabel : InputLabel l label) :
      FieldOffers l ⟨value, label, []⟩
  | option {value : String} (hname : l.name = "option")
      (hinside : ∃ e ∈ l.parents, e.name = "select" ∧
        e.attribute? "name" = some Fields.affiliation)
      (hvalue : l.attribute? "value" = some value) : FieldOffers l ⟨value, l.node.label, []⟩

variable {l : Located} {c : Affiliation} {d : Document} {form : AffiliationForm}
  {label name value : String} {node : Node}

theorem Html.Located.nearest?_eq_some_iff :
    l.nearest? name = some node ↔ IsFirst (·.IsNamed name) l.around node := by
  refine find?_eq_some_iff_isFirst fun node => ?_
  cases node <;> simp [Node.IsNamed]

theorem Html.Located.nearest?_eq_none_iff :
    l.nearest? name = none ↔ ∀ node ∈ l.around, ¬node.IsNamed name := by
  refine find?_eq_none_iff_forall_not fun node => ?_
  cases node <;> simp [Node.IsNamed]

theorem linkLabel_eq_iff : linkLabel l = label ↔ LinkLabel l label := by
  rw [linkLabel]
  constructor
  · rintro rfl
    cases hrow : l.nearest? "tr" with
    | none => exact .own (Located.nearest?_eq_none_iff.1 hrow)
    | some row => exact .row (Located.nearest?_eq_some_iff.1 hrow)
  · intro h
    cases h with
    | row hrow => rw [Located.nearest?_eq_some_iff.2 hrow, Option.getD_some]
    | own hnone => rw [Located.nearest?_eq_none_iff.2 hnone, Option.getD_none]

theorem Html.Located.parent?_eq_some_iff :
    l.parent? = some node ↔ l.around.head? = some node ∧ node.IsElement := by
  unfold parent?
  split
  · next number e children outer haround =>
      rw [haround, List.head?_cons]
      exact ⟨fun h => ⟨h, number, e, children, (Option.some.inj h).symm⟩, fun h => h.1⟩
  · next hnone =>
      refine ⟨fun h => (nomatch h), fun ⟨hhead, number, e, children, hnode⟩ => ?_⟩
      obtain ⟨outer, haround⟩ := List.head?_eq_some_iff.1 hhead
      exact absurd (hnode ▸ haround) (hnone number e children outer)

theorem Html.Located.parent?_eq_none_iff :
    l.parent? = none ↔ ∀ holder ∈ l.around.head?, ¬holder.IsElement := by
  rw [Option.eq_none_iff_forall_ne_some]
  refine forall_congr' fun holder => ?_
  rw [ne_eq, parent?_eq_some_iff, not_and]
  rfl

theorem fieldLabel_eq_iff (hname : l.name = "input") :
    fieldLabel l = label ↔ InputLabel l label := by
  rw [fieldLabel]
  constructor
  · rintro rfl
    cases hholder : l.parent? with
    | none => exact .own (Located.parent?_eq_none_iff.1 hholder)
    | some holder =>
        obtain ⟨haround, helement⟩ := Located.parent?_eq_some_iff.1 hholder
        dsimp only
        rw [if_pos hname]
        exact .holder haround helement
  · intro h
    cases h with
    | holder haround helement =>
        rw [Located.parent?_eq_some_iff.2 ⟨haround, helement⟩]
        exact if_pos hname
    | own hnone => rw [Located.parent?_eq_none_iff.2 hnone]

theorem fieldLabel_of_ne (hname : l.name ≠ "input") : fieldLabel l = l.node.label := by
  rw [fieldLabel]
  split
  · exact if_neg hname
  · rfl

theorem linkOffer?_eq_some_iff : linkOffer? l = some c ↔ LinkOffers l c := by
  obtain ⟨value, label, parameters⟩ := c
  constructor
  · intro h
    obtain ⟨script, hscript, h⟩ := Option.bind_eq_some_iff.1 h
    obtain ⟨hname, hscript⟩ := Option.ite_none_right_eq_some.1 hscript
    obtain ⟨text, htext, rfl⟩ := Option.map_eq_some_iff.1 hscript
    obtain ⟨⟨value, others⟩, hfound, heq⟩ := Option.map_eq_some_iff.1 h
    obtain ⟨before, after, hpairs, hbefore, hothers⟩ := Fields.takeOut?_eq_some_iff.1 hfound
    cases heq
    exact {
      isLink := hname
      script := ⟨text, before, after, htext, LinkScript.finds_iff.2 hpairs, hbefore, hothers⟩
      label := linkLabel_eq_iff.1 rfl }
  · rintro ⟨hname, ⟨script, before, after, hscript, hfinds, hbefore, hothers⟩, hlabel⟩
    obtain rfl := linkLabel_eq_iff.2 hlabel
    dsimp only at hothers
    rw [hothers]
    refine LinkScript.linkOffer?_of_script hname ?_ (LinkScript.finds_iff.1 hfinds) hbefore
    rw [hscript, String.ofList_toList]

theorem isOption_iff : isOption l = true ↔ l.name = "option" ∧
    ∃ e ∈ l.parents, e.name = "select" ∧ e.attribute? "name" = some Fields.affiliation := by
  rw [isOption, Bool.and_eq_true, beq_iff_eq, List.any_eq_true]
  simp only [Bool.and_eq_true, beq_iff_eq]

theorem isInputNamed_iff : l.isInputNamed name = true ↔
    l.name = "input" ∧ l.attribute? "name" = some name := by
  rw [Located.isInputNamed, Bool.and_eq_true, beq_iff_eq, beq_iff_eq]

theorem fieldOffer?_eq_some_iff : fieldOffer? l = some c ↔ FieldOffers l c := by
  rw [fieldOffer?, Option.ite_none_right_eq_some, Bool.or_eq_true, isInputNamed_iff, isOption_iff,
    Option.map_eq_some_iff]
  constructor
  · rintro ⟨⟨hname, hfield⟩ | ⟨hname, hinside⟩, value, hvalue, rfl⟩
    · exact .input hname hfield hvalue ((fieldLabel_eq_iff hname).1 rfl)
    · rw [fieldLabel_of_ne (by simp [hname])]
      exact .option hname hinside hvalue
  · intro h
    cases h with
    | input hname hfield hvalue hlabel =>
        exact ⟨.inl ⟨hname, hfield⟩, _, hvalue, by rw [(fieldLabel_eq_iff hname).2 hlabel]⟩
    | option hname hinside hvalue =>
        exact ⟨.inr ⟨hname, hinside⟩, _, hvalue, by rw [fieldLabel_of_ne (by simp [hname])]⟩

/-! ### The choices of a form -/

/-- What elements offer: the links first, then the fields, each in order. -/
def OffersAmong (elements : List Located) (offers : List Affiliation) : Prop :=
  ∃ links fields, Gathers LinkOffers elements links ∧ Gathers FieldOffers elements fields ∧
    offers = links ++ fields

def IsFirstOffer (offers : List Affiliation) (c : Affiliation) : Prop :=
  IsFirst (·.value = c.value) offers c

/-- The choices of a form are the offers, each value where it is offered first. -/
structure ChoosesAmong (offers : List Affiliation) (form : AffiliationForm) : Prop where
  /-- Every offered value is a choice, and no other, -/
  values : ∀ value, value ∈ form.choices.map (·.value) ↔ value ∈ offers.map (·.value)
  /-- and none twice. -/
  nodup : (form.choices.map (·.value)).Nodup
  /-- The choices are the first offers, -/
  mem : ∀ c, c ∈ form.choices ↔ IsFirstOffer offers c
  /-- each after those that were offered before it. -/
  ordered : form.choices.Pairwise fun a b =>
    ∃ before, Order.SplitsAtFirst Affiliation.value offers before b ∧ a ∈ before
  /-- A value that is looked up is found as it was offered first. -/
  found : ∀ value c, form.choice? value = some c ↔ c.value = value ∧ IsFirstOffer offers c
  missing : ∀ value, form.choice? value = none ↔ value ∉ offers.map (·.value)

theorem offersAmong_iff {elements : List Located} {offers : List Affiliation} :
    OffersAmong elements offers ↔
      offers = elements.filterMap linkOffer? ++ elements.filterMap fieldOffer? := by
  have hlinks (links : List Affiliation) :
      Gathers LinkOffers elements links ↔ elements.filterMap linkOffer? = links :=
    gathers_iff_filterMap fun _ _ => linkOffer?_eq_some_iff
  have hfields (fields : List Affiliation) :
      Gathers FieldOffers elements fields ↔ elements.filterMap fieldOffer? = fields :=
    gathers_iff_filterMap fun _ _ => fieldOffer?_eq_some_iff
  unfold OffersAmong
  simp only [hlinks, hfields]
  exact ⟨fun ⟨_, _, hl, hf, h⟩ => hl ▸ hf ▸ h, fun h => ⟨_, _, rfl, rfl, h⟩⟩

theorem isFirstOffer_iff_find? {offers : List Affiliation} :
    IsFirstOffer offers c ↔ offers.find? (·.value == c.value) = some c :=
  (find?_eq_some_iff_isFirst fun _ => beq_iff_eq).symm

theorem choice?_eq_find?_offers (h : AffiliationForm.ofDocument? d = some form) (value : String) :
    form.choice? value = (offers d).find? (·.value == value) := by
  rw [AffiliationForm.choice?, (choices_of_ofDocument? h).1]
  exact Order.find?_firstSeen Affiliation.value (offers d) value

theorem mem_choices_iff_choice? (hnodup : (form.choices.map (·.value)).Nodup) :
    c ∈ form.choices ↔ form.choice? c.value = some c := by
  refine ⟨fun hc => ?_, List.mem_of_find?_eq_some⟩
  have hsome : (form.choice? c.value).isSome = true :=
    List.find?_isSome.2 ⟨c, hc, beq_self_eq_true c.value⟩
  obtain ⟨other, hother⟩ := Option.isSome_iff_exists.1 hsome
  have hvalue : other.value = c.value := by simpa using List.find?_some hother
  obtain rfl := List.inj_on_of_nodup_map hnodup (List.mem_of_find?_eq_some hother) hc hvalue
  exact hother

theorem choosesAmong_offers (h : AffiliationForm.ofDocument? d = some form) :
    ChoosesAmong (offers d) form := by
  have hchoices : form.choices = choices d := (choices_of_ofDocument? h).1
  have hnodup : (form.choices.map (·.value)).Nodup := hchoices ▸ nodup_values_choices d
  have hfound (value : String) (c : Affiliation) :
      form.choice? value = some c ↔ c.value = value ∧ IsFirstOffer (offers d) c := by
    rw [choice?_eq_find?_offers h, isFirstOffer_iff_find?]
    constructor
    · intro hfind
      obtain rfl : c.value = value := by simpa using List.find?_some hfind
      exact ⟨rfl, hfind⟩
    · rintro ⟨rfl, hfind⟩
      exact hfind
  refine {
    values := fun value => ?_
    nodup := hnodup
    mem := fun c => ?_
    ordered := ?_
    found := hfound
    missing := fun value => ?_ }
  · rw [hchoices]
    exact Order.mem_map_firstSeen
  · rw [mem_choices_iff_choice? hnodup, hfound, and_iff_right rfl]
  · rw [hchoices]
    exact Order.pairwise_firstSeen Affiliation.value (offers d)
  · rw [choice?_eq_find?_offers h, List.find?_eq_none]
    simp

theorem ChoosesAmong.head?_choices {offers : List Affiliation} (h : ChoosesAmong offers form) :
    form.choices.head? = offers.head? := by
  cases offers with
  | nil =>
      have hnone : form.choices = [] := List.eq_nil_iff_forall_not_mem.2 fun c hc =>
        List.not_mem_nil ((h.mem c).1 hc).mem
      rw [hnone]
  | cons first rest =>
      have hfirst : IsFirstOffer (first :: rest) first := ⟨[], rest, rfl, rfl, nofun⟩
      obtain ⟨front, back, hsplit⟩ := List.append_of_mem ((h.mem first).2 hfirst)
      rw [hsplit]
      cases front with
      | nil => rfl
      | cons c front =>
          -- another choice in front would be offered before the first offer
          have hordered := h.ordered
          rw [hsplit, List.cons_append, List.pairwise_cons] at hordered
          obtain ⟨before, ⟨after, hoffers, hbefore⟩, hmem⟩ :=
            hordered.1 first (List.mem_append_right front List.mem_cons_self)
          obtain ⟨earlier, before, rfl⟩ := List.exists_cons_of_ne_nil (List.ne_nil_of_mem hmem)
          obtain rfl : first = earlier := (List.cons.inj hoffers).1
          exact absurd rfl (hbefore first List.mem_cons_self)

end DegreeAudit
