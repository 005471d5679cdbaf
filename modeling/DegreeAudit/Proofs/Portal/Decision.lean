import DegreeAudit.Proofs.Html.Document
import DegreeAudit.Proofs.Portal.LoginCourse

/-!
# What a login decides

Once the credentials are answered with a page, the page and the address where it was found decide
how the login ends: it is refused because the page asks for the password again, it is done because
no affiliation is called for, it is refused because the page offers affiliations and the wanted one
is not among them, or an affiliation is chosen. The conditions are stated here without the order in
which they are looked at; `verdict_decision` says that they are the branches of the verdict, and
`login_decides` that the login follows the verdict.
-/

namespace DegreeAudit

open Html Http

/-! ### The conditions -/

/-- An input field asks for the password, be it on the page or inside what was dropped from it. -/
def AsksForPassword (d : Document) : Prop :=
  ∃ l ∈ d.begun, l.name = "input" ∧ l.attribute? "name" = some passwordField

/-- The path of the address ends like that of the affiliation page. -/
def EndsInAffiliations (url : Url) : Prop :=
  Endpoints.affiliationsPath.toList <:+ url.path.toText.toList

namespace Portal

/-- No affiliation is called for: none ever is, or neither page nor address speaks of any. -/
def NeedsNoChoice (p : Portal) (url : Url) (d : Document) : Prop :=
  p.mode = .never ∨
    (p.mode = .auto ∧ AffiliationForm.ofDocument? d = none ∧ ¬EndsInAffiliations url)

/-- The page offers affiliations, but not the wanted one. -/
def OffersOnlyOthers (p : Portal) (d : Document) : Prop :=
  AffiliationPage.choices d ≠ [] ∧ ∀ c ∈ AffiliationPage.choices d, c.value ≠ p.affiliation

instance (p : Portal) (d : Document) : Decidable (p.OffersOnlyOthers d) := instDecidableAnd

end Portal

/-- The form by which an affiliation is chosen on a page, a fixed one if the page could not be read.
-/
def formOn (d : Document) : AffiliationForm :=
  (AffiliationForm.ofDocument? d).getD (.legacy d.viewState?)

/-- What a page decides, by the conditions that it meets. -/
inductive Decision (p : Portal) (url : Url) (d : Document) :
    Except Refusal (Option AffiliationForm) → Prop where
  | rejected (hasks : AsksForPassword d) : Decision p url d (.error .loginRejected)
  | unneeded (hasks : ¬AsksForPassword d) (hneeds : p.NeedsNoChoice url d) :
      Decision p url d (.ok none)
  | unknown (hasks : ¬AsksForPassword d) (hneeds : ¬p.NeedsNoChoice url d)
      (hoffers : p.OffersOnlyOthers d) :
      Decision p url d (.error
        (.unknownAffiliation p.affiliation ((AffiliationPage.choices d).map (·.value))))
  | chosen (hasks : ¬AsksForPassword d) (hneeds : ¬p.NeedsNoChoice url d)
      (hoffers : ¬p.OffersOnlyOthers d) : Decision p url d (.ok (some (formOn d)))

/-! ### The verdict -/

theorem isLoginForm_iff (d : Document) : d.isLoginForm = true ↔ AsksForPassword d := by
  rw [Document.isLoginForm, List.any_eq_true]
  refine exists_congr fun l => and_congr_right fun _ => ?_
  rw [Located.isInputNamed, Bool.and_eq_true, beq_iff_eq, beq_iff_eq]

instance (d : Document) : Decidable (AsksForPassword d) :=
  decidable_of_iff _ (isLoginForm_iff d)

theorem isAffiliationsPage_iff (url : Url) :
    Portal.isAffiliationsPage url = true ↔ EndsInAffiliations url := by
  rw [Portal.isAffiliationsPage, List.isSuffixOf_iff_suffix]
  rfl

/-- A page that is no affiliation page offers nothing, so the form offers what the page does. -/
theorem choices_formOn (d : Document) : (formOn d).choices = AffiliationPage.choices d := by
  unfold formOn AffiliationForm.ofDocument?
  split
  · rfl
  · split
    · next hempty => exact (List.isEmpty_iff.1 hempty).symm
    · rfl

instance (url : Url) : Decidable (EndsInAffiliations url) :=
  decidable_of_iff _ (isAffiliationsPage_iff url)

namespace Portal

variable {p : Portal} {url : Url} {d : Document}

instance : Decidable (p.NeedsNoChoice url d) := instDecidableOr

theorem wantsChoice_iff :
    wantsChoice p.mode url (AffiliationForm.ofDocument? d) = true ↔ ¬p.NeedsNoChoice url d := by
  unfold wantsChoice NeedsNoChoice
  cases hmode : p.mode with
  | auto =>
      rw [Bool.or_eq_true, isAffiliationsPage_iff, Option.isSome_iff_ne_none]
      simp only [reduceCtorEq, false_or, true_and, not_and_or, not_not]
  | always => simp
  | never => simp

theorem offers_iff :
    ((formOn d).choices.isEmpty ∨ ((formOn d).choice? p.affiliation).isSome) ↔
      ¬p.OffersOnlyOthers d := by
  rw [AffiliationForm.choice?, choices_formOn, List.isEmpty_iff, List.find?_isSome]
  unfold OffersOnlyOthers
  rw [not_and_or, not_not]
  simp only [beq_iff_eq, ne_eq, not_forall, not_not, exists_prop]

/-- The verdict takes the branch whose condition the page meets. -/
theorem verdict_decision (p : Portal) (url : Url) (d : Document) :
    Decision p url d (p.verdict url d) := by
  unfold verdict
  by_cases hasks : AsksForPassword d
  · rw [if_pos ((isLoginForm_iff d).2 hasks)]
    exact .rejected hasks
  rw [if_neg (mt (isLoginForm_iff d).1 hasks)]
  dsimp only
  by_cases hneeds : p.NeedsNoChoice url d
  · rw [if_neg fun hwants => wantsChoice_iff.1 hwants hneeds]
    exact .unneeded hasks hneeds
  rw [if_pos (wantsChoice_iff.2 hneeds), ← formOn]
  by_cases hoffers : p.OffersOnlyOthers d
  · rw [if_neg fun hmay => offers_iff.1 hmay hoffers, choices_formOn]
    exact .unknown hasks hneeds hoffers
  · rw [if_pos (offers_iff.2 hoffers)]
    exact .chosen hasks hneeds hoffers

theorem verdict_of_chosen (hasks : ¬AsksForPassword d) (hneeds : ¬p.NeedsNoChoice url d)
    (hoffers : ¬p.OffersOnlyOthers d) :
    p.verdict url d = .ok (some (formOn d)) := by
  have hdecision := p.verdict_decision url d
  generalize p.verdict url d = verdict at hdecision
  cases hdecision with
  | rejected hasks' => exact absurd hasks' hasks
  | unneeded _ hneeds' => exact absurd hneeds' hneeds
  | unknown _ _ hoffers' => exact absurd hoffers' hoffers
  | chosen => rfl

end Portal

/-! ### The login -/

/-- How a login ends that came as far as a page for its credentials. -/
structure LoginDecision (p : Portal) (net : Network) (y : Exchange) (url : Url) (d : Document)
    (t : Trace LoginOutcome) : Prop where
  rejected : t.result = .error (.refused .loginRejected) ↔ AsksForPassword d
  unneeded : ¬AsksForPassword d → (t.result = .ok ⟨false, []⟩ ↔ p.NeedsNoChoice url d)
  unknown : ¬AsksForPassword d → ¬p.NeedsNoChoice url d →
    ((∃ wanted available, t.result = .error (.refused (.unknownAffiliation wanted available))) ↔
      p.OffersOnlyOthers d)
  /-- What is told of an affiliation that is not offered. -/
  told : ∀ wanted available,
    t.result = .error (.refused (.unknownAffiliation wanted available)) →
      wanted = p.affiliation ∧ available = (AffiliationPage.choices d).map (·.value) ∧
        available ≠ [] ∧ available.Nodup ∧ wanted ∉ available
  /-- In these three cases nothing is sent after the credentials. -/
  quiet : AsksForPassword d ∨ p.NeedsNoChoice url d ∨ p.OffersOnlyOthers d →
    ∃ x, t.exchanges = [(.loginPage, x), (.login, y)]
  /-- In every other case one choice is posted, and the login ends as this post does. -/
  chosen : ¬AsksForPassword d → ¬p.NeedsNoChoice url d → ¬p.OffersOnlyOthers d →
    ∃ x line z, t.exchanges = [(.loginPage, x), (.login, y), (.choice, z)] ∧
      send net line (p.choicePost (formOn d)) = (z, t.line) ∧
      t.result = match z.ending.page with
        | .error problem => .error (.errand .choice problem)
        | .ok _ => .ok ⟨true, AffiliationPage.choices d⟩

/-- No affiliation is offered twice. -/
theorem nodup_values_choices (d : Document) :
    ((AffiliationPage.choices d).map (·.value)).Nodup :=
  Order.nodup_map_firstSeen Affiliation.value (AffiliationPage.offers d)

namespace LoginDecision

variable {p : Portal} {net : Network} {x y z : Exchange} {url : Url} {d : Document} {line : Line}
  {t : Trace LoginOutcome}

private theorem of_rejected (hasks : AsksForPassword d)
    (hexchanges : t.exchanges = [(.loginPage, x), (.login, y)])
    (hresult : t.result = .error (.refused .loginRejected)) : LoginDecision p net y url d t where
  rejected := ⟨fun _ => hasks, fun _ => hresult⟩
  unneeded hnot := absurd hasks hnot
  unknown hnot := absurd hasks hnot
  told wanted available htold := by
    rw [hresult] at htold
    cases htold
  quiet _ := ⟨x, hexchanges⟩
  chosen hnot := absurd hasks hnot

private theorem of_unneeded (hasks : ¬AsksForPassword d) (hneeds : p.NeedsNoChoice url d)
    (hexchanges : t.exchanges = [(.loginPage, x), (.login, y)])
    (hresult : t.result = .ok ⟨false, []⟩) : LoginDecision p net y url d t where
  rejected := by
    refine ⟨fun hrejected => ?_, fun h => absurd h hasks⟩
    rw [hresult] at hrejected
    cases hrejected
  unneeded _ := ⟨fun _ => hneeds, fun _ => hresult⟩
  unknown _ hnot := absurd hneeds hnot
  told wanted available htold := by
    rw [hresult] at htold
    cases htold
  quiet _ := ⟨x, hexchanges⟩
  chosen _ hnot := absurd hneeds hnot

private theorem of_unknown (hasks : ¬AsksForPassword d) (hneeds : ¬p.NeedsNoChoice url d)
    (hoffers : p.OffersOnlyOthers d)
    (hexchanges : t.exchanges = [(.loginPage, x), (.login, y)])
    (hresult : t.result = .error (.refused
      (.unknownAffiliation p.affiliation ((AffiliationPage.choices d).map (·.value))))) :
    LoginDecision p net y url d t where
  rejected := by
    refine ⟨fun hrejected => ?_, fun h => absurd h hasks⟩
    rw [hresult] at hrejected
    cases hrejected
  unneeded _ := by
    refine ⟨fun hdone => ?_, fun h => absurd h hneeds⟩
    rw [hresult] at hdone
    cases hdone
  unknown _ _ := ⟨fun _ => hoffers, fun _ => ⟨_, _, hresult⟩⟩
  told wanted available htold := by
    rw [hresult] at htold
    cases htold
    refine ⟨rfl, rfl, ?_, nodup_values_choices d, ?_⟩
    · rw [ne_eq, List.map_eq_nil_iff]
      exact hoffers.1
    · intro hmem
      obtain ⟨c, hc, hvalue⟩ := List.mem_map.1 hmem
      exact hoffers.2 c hc hvalue
  quiet _ := ⟨x, hexchanges⟩
  chosen _ _ hnot := absurd hoffers hnot

private theorem of_chosen (hasks : ¬AsksForPassword d) (hneeds : ¬p.NeedsNoChoice url d)
    (hoffers : ¬p.OffersOnlyOthers d)
    (hexchanges : t.exchanges = [(.loginPage, x), (.login, y), (.choice, z)])
    (hsent : send net line (p.choicePost (formOn d)) = (z, t.line))
    (hresult : t.result = match z.ending.page with
      | .error problem => .error (.errand .choice problem)
      | .ok _ => .ok ⟨true, AffiliationPage.choices d⟩) : LoginDecision p net y url d t where
  rejected := by
    refine ⟨fun hrejected => ?_, fun h => absurd h hasks⟩
    rw [hresult] at hrejected
    split at hrejected <;> cases hrejected
  unneeded _ := by
    refine ⟨fun hdone => ?_, fun h => absurd h hneeds⟩
    rw [hresult] at hdone
    split at hdone <;> cases hdone
  unknown _ _ := by
    refine ⟨fun ⟨wanted, available, hunknown⟩ => ?_, fun h => absurd h hoffers⟩
    rw [hresult] at hunknown
    split at hunknown <;> cases hunknown
  told wanted available htold := by
    rw [hresult] at htold
    split at htold <;> cases htold
  quiet hquiet := by
    rcases hquiet with h | h | h
    · exact absurd h hasks
    · exact absurd h hneeds
    · exact absurd h hoffers
  chosen _ _ _ := ⟨x, line, z, hexchanges, hsent, hresult⟩

end LoginDecision

/-- A login whose credentials were answered with a page goes on by the verdict on it. -/
private theorem LoginCourse.verdict_cases {p : Portal} {net : Network} {line : Line}
    {t : Trace LoginOutcome} (h : LoginCourse p net line t) {y : Exchange} {page : Page}
    (hy : (.login, y) ∈ t.exchanges) (hpage : y.ending.page = .ok page) :
    ∃ x,
      (∃ refusal, p.verdict page.url page.document = .error refusal ∧
        t.exchanges = [(.loginPage, x), (.login, y)] ∧
        t.result = .error (.refused refusal)) ∨
      (p.verdict page.url page.document = .ok none ∧
        t.exchanges = [(.loginPage, x), (.login, y)] ∧ t.result = .ok ⟨false, []⟩) ∨
      ∃ form middle z, p.verdict page.url page.document = .ok (some form) ∧
        t.exchanges = [(.loginPage, x), (.login, y), (.choice, z)] ∧
        send net middle (p.choicePost form) = (z, t.line) ∧
        t.result = match z.ending.page with
          | .error problem => .error (.errand .choice problem)
          | .ok _ => .ok ⟨true, form.choices⟩ := by
  -- each course with a second exchange has it as its login
  cases h with
  | noLoginPage hopen => simp at hy
  | noAnswer hopen hpost =>
      obtain rfl : y = _ := by simpa using hy
      rw [hpost.ended] at hpage
      cases hpage
  | @refused x _ _ _ _ _ refusal hopen hpost hverdict =>
      obtain rfl : y = _ := by simpa using hy
      obtain rfl := Except.ok.inj (hpost.ended.symm.trans hpage)
      exact ⟨x, .inl ⟨refusal, hverdict, rfl, rfl⟩⟩
  | @unneeded x _ _ _ _ _ hopen hpost hverdict =>
      obtain rfl : y = _ := by simpa using hy
      obtain rfl := Except.ok.inj (hpost.ended.symm.trans hpage)
      exact ⟨x, .inr (.inl ⟨hverdict, rfl, rfl⟩)⟩
  | @choiceFailed x _ _ _ middle _ form z _ _ hopen hpost hverdict hchoice =>
      obtain rfl : y = _ := by simpa using hy
      obtain rfl := Except.ok.inj (hpost.ended.symm.trans hpage)
      refine ⟨x, .inr (.inr ⟨form, middle, z, hverdict, rfl, hchoice.sent, ?_⟩)⟩
      rw [hchoice.ended]
  | @chosen x _ _ _ middle _ form z _ _ hopen hpost hverdict hchoice =>
      obtain rfl : y = _ := by simpa using hy
      obtain rfl := Except.ok.inj (hpost.ended.symm.trans hpage)
      refine ⟨x, .inr (.inr ⟨form, middle, z, hverdict, rfl, hchoice.sent, ?_⟩)⟩
      rw [hchoice.ended]

private theorem login_decides_of_page (p : Portal) (net : Network) (line : Line) {y : Exchange}
    {page : Page} (hy : (.login, y) ∈ (p.login net line).exchanges)
    (hpage : y.ending.page = .ok page) :
    LoginDecision p net y page.url page.document (p.login net line) := by
  have hdecision := p.verdict_decision page.url page.document
  obtain ⟨x, ⟨refusal, hverdict, hexchanges, hresult⟩ | ⟨hverdict, hexchanges, hresult⟩ |
    ⟨form, middle, z, hverdict, hexchanges, hsent, hresult⟩⟩ :=
    (login_course p net line).verdict_cases hy hpage
  · rw [hverdict] at hdecision
    cases hdecision with
    | rejected hasks => exact .of_rejected hasks hexchanges hresult
    | unknown hasks hneeds hoffers => exact .of_unknown hasks hneeds hoffers hexchanges hresult
  · rw [hverdict] at hdecision
    cases hdecision with
    | unneeded hasks hneeds => exact .of_unneeded hasks hneeds hexchanges hresult
  · rw [hverdict] at hdecision
    cases hdecision with
    | chosen hasks hneeds hoffers =>
        rw [choices_formOn] at hresult
        exact .of_chosen hasks hneeds hoffers hexchanges hsent hresult

/-- Where the credentials are answered with a page, the login goes on as the conditions on the page
and its address say, whatever happened before. -/
theorem login_decides (p : Portal) (net : Network) (line : Line) {y : Exchange} {url : Url}
    {answer : Response} (hy : (.login, y) ∈ (p.login net line).exchanges)
    (hended : y.ending = .answered url answer) (hstatus : answer.status.isError = false) :
    LoginDecision p net y url (Document.ofText answer.text) (p.login net line) := by
  have hpage : y.ending.page = .ok ⟨url, answer.text⟩ := by
    rw [hended, Ending.page, hstatus]
    rfl
  exact login_decides_of_page p net line hy hpage

/-- A portal where an account wants its first affiliation. -/
def campus : Portal where
  credentials := ⟨"ana", "segredo"⟩
  endpoints :=
    let under (page : String) : Url := ⟨"campus", none, .segments [page], none, none⟩
    ⟨under "index.jsf", under "vinculos.jsf", under "integralizacao", under "dados"⟩
  affiliation := "1"
  mode := .auto

/-- A page that asks for the password in a body that was dropped for a frameset, and a page that
offers another affiliation than the wanted one. -/
theorem login_decides_of_password_and_of_other_offer :
    let asking : Response := .ofPage "<input type=hidden name=form:senha><frameset>"
    let offering : Response := .ofPage "<a onclick=\"'vinculo':'2'\">Mestrado</a>"
    let login (answer : Response) : Trace LoginOutcome :=
      campus.login .everywhere (.fresh [.response (.ofPage ""), .response answer])
    (∃ y, (.login, y) ∈ (login asking).exchanges ∧
      y.ending = .answered campus.endpoints.login asking ∧ asking.status.isError = false ∧
      LoginDecision campus .everywhere y campus.endpoints.login (Document.ofText asking.text)
        (login asking) ∧
      (login asking).result = .error (.refused .loginRejected)) ∧
    ∃ y, (.login, y) ∈ (login offering).exchanges ∧
      y.ending = .answered campus.endpoints.login offering ∧ offering.status.isError = false ∧
      LoginDecision campus .everywhere y campus.endpoints.login (Document.ofText offering.text)
        (login offering) ∧
      (login offering).result = .error (.refused (.unknownAffiliation "1" ["2"])) := by
  intro asking offering login
  constructor
  · obtain ⟨x, y, hended, hexchanges⟩ := campus.exchanges_login_of_pages ""
      "<input type=hidden name=form:senha><frameset>" []
    have hy : (.login, y) ∈ (login asking).exchanges := by simp [login, asking, hexchanges]
    have hdecision := login_decides campus .everywhere _ hy hended rfl
    have hasks : AsksForPassword (Document.ofText asking.text) := by
      rw [Document.ofText_eq]
      decide +kernel
    exact ⟨y, hy, hended, rfl, hdecision, hdecision.rejected.2 hasks⟩
  · obtain ⟨x, y, hended, hexchanges⟩ := campus.exchanges_login_of_pages ""
      "<a onclick=\"'vinculo':'2'\">Mestrado</a>" []
    have hy : (.login, y) ∈ (login offering).exchanges := by simp [login, offering, hexchanges]
    have hdecision := login_decides campus .everywhere _ hy hended rfl
    have hpage : ¬AsksForPassword (Document.ofText offering.text) ∧
        ¬campus.NeedsNoChoice campus.endpoints.login (Document.ofText offering.text) ∧
        campus.OffersOnlyOthers (Document.ofText offering.text) ∧
        (AffiliationPage.choices (Document.ofText offering.text)).map (·.value) = ["2"] := by
      rw [Document.ofText_eq]
      decide +kernel
    obtain ⟨hasks, hneeds, hothers, hvalues⟩ := hpage
    obtain ⟨wanted, available, hresult⟩ := (hdecision.unknown hasks hneeds).2 hothers
    obtain ⟨rfl, rfl, -⟩ := hdecision.told wanted available hresult
    rw [hvalues] at hresult
    exact ⟨y, hy, hended, rfl, hdecision, hresult⟩

end DegreeAudit
