import DegreeAudit.Proofs.Html.Document
import DegreeAudit.Proofs.Portal.Decision
import Mathlib.Data.List.Nodup

/-!
# What an affiliation form posts

The fields that choose an affiliation end with the chosen value and hold the token right after the
hidden fields. Whether each of these two reserved names comes only once depends on what else the
page adds: `payload_unambiguous_iff`. Hidden fields of a form never bear a reserved name. But a page
can name a form that is not there by a reserved name, which is then sent as a field of its own; and
the script of a link can set a reserved name among the fields that are taken over from it, since
only the first setting of the affiliation is taken out: `not_unambiguous_of_repeated_parameter`.
-/

namespace DegreeAudit

open Html AffiliationPage

/-- A name that the answer itself sets. -/
def IsReserved (name : String) : Prop := name = Fields.viewState ∨ name = Fields.affiliation

instance (name : String) : Decidable (IsReserved name) := instDecidableOr

/-- The fields choose the value: the affiliation comes once, at the end and with the value, and the
token once. -/
structure Unambiguous (fields : Fields) (value : String) : Prop where
  last : fields.getLast? = some (Fields.affiliation, value)
  affiliation : fields.countP (·.1 = Fields.affiliation) = 1
  token : fields.countP (·.1 = Fields.viewState) = 1

instance (fields : Fields) (value : String) : Decidable (Unambiguous fields value) :=
  decidable_of_iff
    (fields.getLast? = some (Fields.affiliation, value) ∧
      fields.countP (·.1 = Fields.affiliation) = 1 ∧ fields.countP (·.1 = Fields.viewState) = 1)
    ⟨fun ⟨last, affiliation, token⟩ => ⟨last, affiliation, token⟩,
      fun ⟨last, affiliation, token⟩ => ⟨last, affiliation, token⟩⟩

namespace AffiliationForm

/-- The fields that are sent between the token and the value. -/
def added (form : AffiliationForm) (value : String) : Fields :=
  (form.choice? value).elim form.extra Affiliation.parameters

theorem payload_eq (form : AffiliationForm) (value : String) :
    form.payload value =
      form.hidden ++ (Fields.viewState, form.viewState.getD fallbackViewState) ::
        (form.added value ++ [(Fields.affiliation, value)]) :=
  rfl

/-- A reserved name comes once more than the other fields bear it. -/
theorem countP_payload (form : AffiliationForm) (value : String) {name : String}
    (hname : IsReserved name) :
    (form.payload value).countP (·.1 = name) =
      (form.hidden ++ form.added value).countP (·.1 = name) + 1 := by
  rw [payload_eq]
  rcases hname with rfl | rfl <;> simp [Fields.viewState, Fields.affiliation, Nat.add_assoc]

theorem countP_payload_eq_one_iff {form : AffiliationForm} {value name : String}
    (hname : IsReserved name) :
    (form.payload value).countP (·.1 = name) = 1 ↔
      ∀ field ∈ form.hidden ++ form.added value, field.1 ≠ name := by
  rw [countP_payload form value hname, Nat.add_eq_right, List.countP_eq_zero]
  simp only [decide_eq_true_eq, ne_eq]

theorem getLast?_payload (form : AffiliationForm) (value : String) :
    (form.payload value).getLast? = some (Fields.affiliation, value) := by
  rw [payload_eq, List.append_cons, ← List.append_assoc]
  exact List.getLast?_concat

/-- The answer is unambiguous as long as nothing else bears a reserved name. -/
theorem unambiguous_payload_iff {form : AffiliationForm} {value : String} :
    Unambiguous (form.payload value) value ↔
      ∀ field ∈ form.hidden ++ form.added value, ¬IsReserved field.1 := by
  constructor
  · rintro ⟨-, haffiliation, htoken⟩ field hfield (hreserved | hreserved)
    · exact (countP_payload_eq_one_iff (.inl rfl)).1 htoken field hfield hreserved
    · exact (countP_payload_eq_one_iff (.inr rfl)).1 haffiliation field hfield hreserved
  · intro h
    refine ⟨getLast?_payload form value, (countP_payload_eq_one_iff (.inr rfl)).2 ?_,
      (countP_payload_eq_one_iff (.inl rfl)).2 ?_⟩
    · exact fun field hfield heq => h field hfield (.inr heq)
    · exact fun field hfield heq => h field hfield (.inl heq)

end AffiliationForm

/-! ### What a page adds -/

/-- No hidden field of a form bears a reserved name. -/
theorem not_isReserved_of_mem_hiddenFields {elements : List Located} {field : String × String}
    (h : field ∈ hiddenFields elements) : ¬IsReserved field.1 := by
  obtain ⟨l, -, hfield⟩ := List.mem_filterMap.1 h
  unfold hiddenField? at hfield
  split at hfield
  · obtain ⟨name, -, hname⟩ := Option.bind_eq_some_iff.1 hfield
    split at hname
    · cases hname
    · next hreserved =>
        cases hname
        exact hreserved
  · cases hfield

/-- The page names a form that is not there, by a reserved name. -/
def NamesReserved (d : Document) : Prop :=
  form? d = none ∧ ∃ id, namedFormId? d = some id ∧ IsReserved id

/-- The offer of a value comes with a field of a reserved name. -/
def AddsReserved (d : Document) (value : String) : Prop :=
  ∃ c ∈ choices d, c.value = value ∧ ∃ field ∈ c.parameters, IsReserved field.1

instance (d : Document) : Decidable (NamesReserved d) :=
  decidable_of_iff ((form? d).isNone ∧ ∃ id ∈ namedFormId? d, IsReserved id)
    (and_congr_left' Option.isNone_iff_eq_none)

instance (d : Document) (value : String) : Decidable (AddsReserved d value) :=
  List.decidableBEx _ _

variable {d : Document} {form : AffiliationForm} {value : String}

theorem exists_isReserved_hidden_iff (h : AffiliationForm.ofDocument? d = some form) :
    (∃ field ∈ form.hidden, IsReserved field.1) ↔ NamesReserved d := by
  unfold AffiliationForm.ofDocument? at h
  unfold NamesReserved
  split at h
  · next l hform =>
      cases h
      rw [hform]
      -- the form is there: its hidden fields were taken without reserved names
      refine ⟨fun ⟨field, hfield, hreserved⟩ => ?_, fun ⟨hnone, _⟩ => nomatch hnone⟩
      exact absurd hreserved (not_isReserved_of_mem_hiddenFields hfield)
  · next hform =>
      split at h
      · cases h
      · -- the form is missing: its name is sent as it stands in the script
        cases h
        rw [and_iff_right hform]
        cases hid : namedFormId? d with
        | none =>
            have hlegacy : ¬IsReserved legacyFormId := by decide
            simp [hlegacy]
        | some id => simp

theorem choices_of_ofDocument? (h : AffiliationForm.ofDocument? d = some form) :
    form.choices = choices d ∧ form.extra = [] := by
  unfold AffiliationForm.ofDocument? at h
  split at h
  · cases h
    exact ⟨rfl, rfl⟩
  · split at h
    · cases h
    · cases h
      exact ⟨rfl, rfl⟩

theorem exists_isReserved_added_iff (h : AffiliationForm.ofDocument? d = some form) :
    (∃ field ∈ form.added value, IsReserved field.1) ↔ AddsReserved d value := by
  obtain ⟨hchoices, hextra⟩ := choices_of_ofDocument? h
  unfold AffiliationForm.added AffiliationForm.choice? AddsReserved
  rw [hchoices, hextra]
  cases hfind : (choices d).find? (·.value == value) with
  | none =>
      refine ⟨fun ⟨field, hfield, _⟩ => (nomatch hfield), fun ⟨c, hc, hvalue, _⟩ => ?_⟩
      exact absurd (beq_iff_eq.2 hvalue) (List.find?_eq_none.1 hfind c hc)
  | some c =>
      have hc := List.mem_of_find?_eq_some hfind
      have hvalue : c.value = value := by simpa using List.find?_some hfind
      refine ⟨fun hreserved => ⟨c, hc, hvalue, hreserved⟩, ?_⟩
      rintro ⟨other, hother, heq, hreserved⟩
      -- no affiliation is offered twice
      have hsame : other = c := List.inj_on_of_nodup_map (nodup_values_choices d) hother hc
        (heq.trans hvalue.symm)
      exact hsame ▸ hreserved

/-! ### The answer -/

/-- The form of a page is answered unambiguously, unless the page names a form that is not there by
a reserved name, or its offer of the value brings a reserved name with it. The fixed form always
is. -/
theorem payload_unambiguous_iff (form : AffiliationForm) (value : String) :
    (∀ d, AffiliationForm.ofDocument? d = some form →
      (Unambiguous (form.payload value) value ↔ ¬NamesReserved d ∧ ¬AddsReserved d value)) ∧
    ∀ token, form = AffiliationForm.legacy token → Unambiguous (form.payload value) value := by
  rw [AffiliationForm.unambiguous_payload_iff]
  constructor
  · intro d h
    rw [← exists_isReserved_hidden_iff h, ← exists_isReserved_added_iff h, List.forall_mem_append]
    simp only [not_exists, not_and]
  · rintro token rfl
    show ∀ field ∈ [(legacyFormId, legacyFormId), (legacyLinkId, legacyLinkId)],
      ¬IsReserved field.1
    decide

/-- A form that hides a field of a reserved name, answered with an offer of its own. -/
theorem payload_unambiguous_of_hidden :
    let page := Document.ofText
      "<form id=f><input type=hidden name=vinculo><input name=vinculo value=2></form>"
    ∃ form, AffiliationForm.ofDocument? page = some form ∧ Unambiguous (form.payload "2") "2" := by
  intro page
  have hpage : (AffiliationForm.ofDocument? page).isSome = true ∧ ¬NamesReserved page ∧
      ¬AddsReserved page "2" := by
    unfold page
    rw [Document.ofText_eq]
    decide +kernel
  obtain ⟨form, hform⟩ := Option.isSome_iff_exists.1 hpage.1
  exact ⟨form, hform, ((payload_unambiguous_iff form "2").1 page hform).2 hpage.2⟩

/-- A link whose script sets the affiliation twice: the second setting is sent as well. -/
theorem not_unambiguous_of_repeated_parameter :
    let page := Document.ofText
      "<a onclick=\"post(\x7b'vinculo':'1','vinculo':'2'\x7d)\">Graduação</a>"
    ∃ form, AffiliationForm.ofDocument? page = some form ∧
      ¬Unambiguous (form.payload "1") "1" := by
  intro page
  have hpage : (AffiliationForm.ofDocument? page).any
      (fun form => ¬Unambiguous (form.payload "1") "1") = true := by
    unfold page
    rw [Document.ofText_eq]
    decide +kernel
  obtain ⟨form, hform, hpayload⟩ := (Option.any_eq_true _ _).1 hpage
  exact ⟨form, hform, of_decide_eq_true hpayload⟩

end DegreeAudit
