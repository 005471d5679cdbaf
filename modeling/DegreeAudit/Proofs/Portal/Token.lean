import DegreeAudit.Proofs.Html.Node
import DegreeAudit.Proofs.Portal.Decision

/-!
# Which token a login sends

A form that is posted sends back a token of the page that it answers, and of no page before it. The
credentials go with the first token of the login page. The choice of an affiliation goes with the
first token of the form that is answered on the page that came back for the credentials, or, if that
form has none or there is none, with the first token of that page; whether the form was read from
the page or is the fixed one makes no difference. Where there is no such token, and only there, the
fixed token stands for it, and as often as it does, a warning is told: `login_echoes_tokens`.

The form is searched for among all that was begun, the token of the page from its root down. As long
as nothing was dropped from the page, the form is part of it, and so the fixed token is sent only
where the page holds none. A form in a body that was dropped for a frameset can be answered with its
own token, though no token is left on the page; and a token that is left in such a body, outside the
form, does not count: `not_echoesPageToken_of_dropped_body`.
-/

namespace DegreeAudit

open Html Http

def HoldsToken (token : String) (l : Located) : Prop :=
  l.name = "input" ∧ l.attribute? "name" = some Fields.viewState ∧
    l.attribute? "value" = some token

def IsFirstToken (token : String) (elements : List Located) : Prop :=
  ∃ before l after, elements = before ++ l :: after ∧ HoldsToken token l ∧
    ∀ earlier ∈ before, ∀ other, ¬HoldsToken other earlier

def HoldNoToken (elements : List Located) : Prop := ∀ l ∈ elements, ∀ token, ¬HoldsToken token l

inductive TokenAmong (elements : List Located) : Option String → Prop where
  | first {token : String} (hfirst : IsFirstToken token elements) : TokenAmong elements (some token)
  | missing (hnone : HoldNoToken elements) : TokenAmong elements none

/-- The token of a form: its own, or that of the page if it has none. -/
inductive TokenOfForm (d : Document) (l : Located) : Option String → Prop where
  | own {token : String} (hfirst : IsFirstToken token l.descendants) : TokenOfForm d l (some token)
  | shared {token : Option String} (hnone : HoldNoToken l.descendants)
      (htoken : TokenAmong d.elements token) : TokenOfForm d l token

/-- The token of the answer to a page: that of the form that is answered, or that of the page if
there is no such form. -/
inductive TokenOfAnswer (d : Document) : Option String → Prop where
  | ofForm {form : Located} {token : Option String} (hform : AffiliationPage.form? d = some form)
      (htoken : TokenOfForm d form token) : TokenOfAnswer d token
  | ofPage {token : Option String} (hform : AffiliationPage.form? d = none)
      (htoken : TokenAmong d.elements token) : TokenOfAnswer d token

/-- The token that is found on a page for what is posted next. -/
def FindsToken (d : Document) : Errand → Option String → Prop
  | .login => TokenAmong d.elements
  | .choice => TokenOfAnswer d
  | .loginPage | .summary | .data => fun _ => False

/-- The exchange ends on a page on which no token is found for what is posted next. -/
def Http.Exchange.EndsWithoutToken (x : Exchange) (errand : Errand) : Prop :=
  ∃ page, x.ending.page = .ok page ∧ FindsToken page.document errand none

/-- The exchange is opened by the post of a form, and whatever it posts is that form. -/
structure Posts (net : Network) (url : Url) (form : Fields) (y : Exchange) : Prop where
  opened : ∃ line after, send net line (.posting url form) = (y, after)
  carried : ∀ r ∈ y.sent, r.method = .post → r.form = some form

/-! ### Tokens of a page -/

private def tokenIn? (l : Located) : Option String :=
  if l.isInputNamed Fields.viewState then l.attribute? "value" else none

private theorem tokenIn?_eq_some_iff {l : Located} {token : String} :
    tokenIn? l = some token ↔ HoldsToken token l := by
  unfold tokenIn? HoldsToken Located.isInputNamed
  rw [Option.ite_none_right_eq_some, Bool.and_eq_true, beq_iff_eq, beq_iff_eq, and_assoc]

private theorem tokenIn?_eq_none_iff {l : Located} :
    tokenIn? l = none ↔ ∀ token, ¬HoldsToken token l := by
  rw [Option.eq_none_iff_forall_ne_some]
  exact forall_congr' fun token => not_congr tokenIn?_eq_some_iff

private theorem viewStateAmong_eq_findSome? (elements : List Located) :
    viewStateAmong elements = elements.findSome? tokenIn? := by
  unfold viewStateAmong
  induction elements with
  | nil => rfl
  | cons l rest ih =>
      rw [List.filter_cons, List.findSome?_cons, tokenIn?]
      split
      · rw [List.findSome?_cons, ih]
      · exact ih

theorem viewStateAmong_eq_some_iff {elements : List Located} {token : String} :
    viewStateAmong elements = some token ↔ IsFirstToken token elements := by
  rw [viewStateAmong_eq_findSome?, List.findSome?_eq_some_iff]
  simp only [tokenIn?_eq_some_iff, tokenIn?_eq_none_iff]
  rfl

theorem viewStateAmong_eq_none_iff {elements : List Located} :
    viewStateAmong elements = none ↔ HoldNoToken elements := by
  rw [viewStateAmong_eq_findSome?, List.findSome?_eq_none_iff]
  simp only [tokenIn?_eq_none_iff]
  rfl

section

variable {d : Document} {l : Located} {elements : List Located} {token : Option String}

theorem tokenAmong_iff : TokenAmong elements token ↔ viewStateAmong elements = token := by
  constructor
  · rintro (hfirst | hnone)
    · exact viewStateAmong_eq_some_iff.2 hfirst
    · exact viewStateAmong_eq_none_iff.2 hnone
  · rintro rfl
    cases htoken : viewStateAmong elements with
    | none => exact .missing (viewStateAmong_eq_none_iff.1 htoken)
    | some token => exact .first (viewStateAmong_eq_some_iff.1 htoken)

theorem tokenOfForm_iff :
    TokenOfForm d l token ↔ (viewStateAmong l.descendants).or d.viewState? = token := by
  constructor
  · rintro (hfirst | ⟨hnone, htoken⟩)
    · rw [viewStateAmong_eq_some_iff.2 hfirst, Option.some_or]
    · rw [viewStateAmong_eq_none_iff.2 hnone, Option.none_or]
      exact tokenAmong_iff.1 htoken
  · rintro rfl
    cases htoken : viewStateAmong l.descendants with
    | none => exact .shared (viewStateAmong_eq_none_iff.1 htoken) (tokenAmong_iff.2 rfl)
    | some token => exact .own (viewStateAmong_eq_some_iff.1 htoken)

theorem viewState_formOn_of_form (h : AffiliationPage.form? d = some l) :
    (formOn d).viewState = (viewStateAmong l.descendants).or d.viewState? := by
  rw [formOn, AffiliationForm.ofDocument?, h]
  rfl

theorem viewState_formOn_of_none (h : AffiliationPage.form? d = none) :
    (formOn d).viewState = d.viewState? := by
  rw [formOn, AffiliationForm.ofDocument?, h]
  dsimp only
  split <;> rfl

theorem tokenOfAnswer_iff : TokenOfAnswer d token ↔ (formOn d).viewState = token := by
  constructor
  · rintro (⟨hform, htoken⟩ | ⟨hform, htoken⟩)
    · rw [viewState_formOn_of_form hform]
      exact tokenOfForm_iff.1 htoken
    · rw [viewState_formOn_of_none hform]
      exact tokenAmong_iff.1 htoken
  · rintro rfl
    cases hform : AffiliationPage.form? d with
    | none => exact .ofPage hform (tokenAmong_iff.2 (viewState_formOn_of_none hform).symm)
    | some form => exact .ofForm hform (tokenOfForm_iff.2 (viewState_formOn_of_form hform).symm)

instance (token : String) (l : Located) : Decidable (HoldsToken token l) := instDecidableAnd

instance (elements : List Located) : Decidable (HoldNoToken elements) :=
  decidable_of_iff _ viewStateAmong_eq_none_iff

instance (d : Document) (token : Option String) : Decidable (TokenOfAnswer d token) :=
  decidable_of_iff _ tokenOfAnswer_iff.symm

instance (d : Document) (errand : Errand) (token : Option String) :
    Decidable (FindsToken d errand token) :=
  match errand with
  | .login => decidable_of_iff (d.viewState? = token) tokenAmong_iff.symm
  | .choice => inferInstanceAs (Decidable (TokenOfAnswer d token))
  | .loginPage | .summary | .data => isFalse id

instance (x : Exchange) (errand : Errand) : Decidable (x.EndsWithoutToken errand) :=
  match h : x.ending.page with
  | .ok page => decidable_of_iff (FindsToken page.document errand none)
      (by simp [Exchange.EndsWithoutToken, h])
  | .error problem => isFalse (by simp [Exchange.EndsWithoutToken, h])

theorem IsFirstToken.exists_holdsToken {token : String} (h : IsFirstToken token elements) :
    ∃ l ∈ elements, HoldsToken token l := by
  obtain ⟨before, l, after, rfl, hl, -⟩ := h
  exact ⟨l, List.mem_append_right before List.mem_cons_self, hl⟩

/-- The form that a page wants answered is one of the elements that were begun. -/
theorem mem_begun_of_form? (h : AffiliationPage.form? d = some l) : l ∈ d.begun := by
  unfold AffiliationPage.form? at h
  dsimp only at h
  split at h <;> exact (List.mem_filter.1 (List.mem_of_find?_eq_some h)).1

/-- As long as nothing was dropped, the token of the answer is one of the page, and is missing only
where the page holds none. -/
theorem TokenOfAnswer.holdsToken (h : TokenOfAnswer d token) (hkept : d.strays = []) :
    (∃ l ∈ d.elements, HoldsToken (token.getD fallbackViewState) l) ∨
      (HoldNoToken d.elements ∧ token = none) := by
  have hpage (htoken : TokenAmong d.elements token) :
      (∃ l ∈ d.elements, HoldsToken (token.getD fallbackViewState) l) ∨
        (HoldNoToken d.elements ∧ token = none) := by
    cases htoken with
    | first hfirst => exact .inl hfirst.exists_holdsToken
    | missing hnone => exact .inr ⟨hnone, rfl⟩
  cases h with
  | ofPage hform htoken => exact hpage htoken
  | ofForm hform htoken =>
      cases htoken with
      | shared hnone htoken => exact hpage htoken
      | own hfirst =>
          -- found inside the form, whose elements are elements of the page
          obtain ⟨l, hl, htoken⟩ := hfirst.exists_holdsToken
          have hmem := Document.mem_begun.1 (mem_begun_of_form? hform)
          rw [hkept, or_iff_left List.not_mem_nil] at hmem
          exact .inl ⟨l, d.mem_elements_of_mem_descendants hmem hl, htoken⟩

end

/-! ### Posts and warnings -/

theorem Http.Yields.posts {net : Network} {line after : Line} {url : Url} {form : Fields}
    {y : Exchange} {result : Except Problem Page}
    (h : Yields net line (.posting url form) y after result) : Posts net url form y where
  opened := ⟨line, after, h.sent⟩
  carried r hr hpost := by
    have hplain : ((Request.posting url form).withCookies line.jar net.now).IsPlain := by
      unfold Request.IsPlain
      rw [Request.withCookies_method]
      exact fun hget => nomatch hget
    have hform := ((h.course.form_of_mem_sent hplain hr).2 hpost).2
    rwa [Request.withCookies_form] at hform

def warnings (events : List Event) : Nat := events.countP (·.level = .warn)

/-- How many forms are posted right after an exchange that ended on a page without a token for
them. -/
def fallbackPosts (exchanges : List (Errand × Exchange)) : Nat :=
  (exchanges.zip exchanges.tail).countP fun (before, post) => before.2.EndsWithoutToken post.1

theorem warnings_append (told more : List Event) :
    warnings (told ++ more) = warnings told + warnings more :=
  List.countP_append

/-- The warning of a missing token is told where no token is found. -/
theorem warnings_of_missing {token : Option String} {missing : Prop} [Decidable missing]
    {warning : Event} (hmissing : missing ↔ token = none) (hlevel : warning.level = .warn) :
    warnings (if token.isNone then [warning] else []) = if missing then 1 else 0 := by
  cases token with
  | none =>
      rw [if_pos (hmissing.2 rfl), if_pos Option.isNone_none, warnings,
        List.countP_singleton, if_pos (decide_eq_true hlevel)]
  | some token =>
      rw [if_neg fun h => nomatch hmissing.1 h]
      rfl

theorem Portal.warnings_eventsToLogin {p : Portal} {page : Page} :
    warnings (p.eventsToLogin page) =
      if FindsToken page.document .login none then 1 else 0 := by
  have hmissing : FindsToken page.document .login none ↔ page.document.viewState? = none :=
    tokenAmong_iff
  unfold eventsToLogin
  rw [warnings_append, warnings_append, warnings_of_missing hmissing rfl]
  exact Nat.zero_add _

theorem Portal.warnings_eventsToChoice {p : Portal} {d : Document} :
    warnings (p.eventsToChoice (formOn d)) = if FindsToken d .choice none then 1 else 0 := by
  have hmissing : FindsToken d .choice none ↔ (formOn d).viewState = none := tokenOfAnswer_iff
  unfold eventsToChoice
  rw [warnings_append, warnings_of_missing hmissing rfl]
  rfl

theorem endsWithoutToken_iff {x : Exchange} {page : Page} {errand : Errand}
    (h : x.ending.page = .ok page) :
    x.EndsWithoutToken errand ↔ FindsToken page.document errand none := by
  simp [Exchange.EndsWithoutToken, h]

theorem fallbackPosts_cons {before : Errand} {x : Exchange} {page : Page} {errand : Errand}
    {y : Exchange} {later : List (Errand × Exchange)} (hpage : x.ending.page = .ok page) :
    fallbackPosts ((before, x) :: (errand, y) :: later)
      = (if FindsToken page.document errand none then 1 else 0) +
        fallbackPosts ((errand, y) :: later) := by
  unfold fallbackPosts
  rw [List.tail_cons, List.zip_cons_cons, List.countP_cons, Nat.add_comm]
  simp only [endsWithoutToken_iff hpage, decide_eq_true_eq, List.tail_cons]

/-! ### The login -/

/-- The choice goes with a token of the page that came back for the credentials, put right after the
hidden fields, or with the fixed one if there is none; what counts as an element of the page is
given. -/
def EchoesPageToken (elements : Document → List Located) (p : Portal) (t : Trace LoginOutcome) :
    Prop :=
  ∀ z, (.choice, z) ∈ t.exchanges → ∃ x y landed token more,
    t.exchanges = [(.loginPage, x), (.login, y), (.choice, z)] ∧ y.ending.page = .ok landed ∧
      (formOn landed.document).payload p.affiliation =
        (formOn landed.document).hidden ++ (Fields.viewState, token) :: more ∧
      ((∃ l ∈ elements landed.document, HoldsToken token l) ∨
        (HoldNoToken (elements landed.document) ∧ token = fallbackViewState))

/-- Which token goes with each form that a login posts. -/
structure EchoesTokens (p : Portal) (net : Network) (t : Trace LoginOutcome) : Prop where
  /-- The credentials go with the first token of the login page, or with the fixed one if that page
  holds none. -/
  credentials : ∀ y, (.login, y) ∈ t.exchanges → ∃ x page token later,
    t.exchanges = (.loginPage, x) :: (.login, y) :: later ∧ x.ending.page = .ok page ∧
      Posts net p.endpoints.login
        (loginPayload p.credentials.username p.credentials.password
          (token.getD fallbackViewState)) y ∧
      TokenAmong page.document.elements token
  /-- The choice goes with the token of the answer to the page that came back for the credentials,
  put right after the hidden fields, or with the fixed one if there is none. -/
  choice : ∀ z, (.choice, z) ∈ t.exchanges → ∃ x y landed token more,
    t.exchanges = [(.loginPage, x), (.login, y), (.choice, z)] ∧ y.ending.page = .ok landed ∧
      Posts net p.endpoints.affiliations ((formOn landed.document).payload p.affiliation) z ∧
      (formOn landed.document).payload p.affiliation =
        (formOn landed.document).hidden ++
          (Fields.viewState, token.getD fallbackViewState) :: more ∧
      TokenOfAnswer landed.document token
  /-- If nothing was dropped from that page, this is a token of the page, and is missing only where
  the page holds none. -/
  kept : (∀ y landed, (.login, y) ∈ t.exchanges → y.ending.page = .ok landed →
    landed.document.strays = []) → EchoesPageToken Document.elements p t
  /-- A warning is told for each form that goes with the fixed token, and for nothing else. -/
  warned : warnings t.events = fallbackPosts t.exchanges

/-- A page is only ever answered with its own form. -/
theorem Portal.eq_formOn_of_verdict {p : Portal} {url : Url} {d : Document}
    {form : AffiliationForm} (h : p.verdict url d = .ok (some form)) : form = formOn d := by
  have hdecision := p.verdict_decision url d
  rw [h] at hdecision
  cases hdecision with
  | chosen => rfl

namespace LoginCourse

variable {p : Portal} {net : Network} {line : Line} {t : Trace LoginOutcome}

theorem credentials_token (h : LoginCourse p net line t) {y : Exchange}
    (hy : (.login, y) ∈ t.exchanges) : ∃ x page later,
      t.exchanges = (.loginPage, x) :: (.login, y) :: later ∧ x.ending.page = .ok page ∧
        Posts net p.endpoints.login
          (loginPayload p.credentials.username p.credentials.password (Portal.tokenOf page)) y := by
  cases h with
  | noLoginPage => simp at hy
  | noAnswer hopen hpost | refused hopen hpost _ | unneeded hopen hpost _
  | choiceFailed hopen hpost _ _ | chosen hopen hpost _ _ =>
      obtain rfl : y = _ := by simpa using hy
      exact ⟨_, _, _, rfl, hopen.ended, hpost.posts⟩

theorem choice_token (h : LoginCourse p net line t) {z : Exchange}
    (hz : (.choice, z) ∈ t.exchanges) : ∃ x y landed,
      t.exchanges = [(.loginPage, x), (.login, y), (.choice, z)] ∧ y.ending.page = .ok landed ∧
        Posts net p.endpoints.affiliations ((formOn landed.document).payload p.affiliation) z := by
  cases h with
  | noLoginPage | noAnswer | refused | unneeded => simp at hz
  | choiceFailed hopen hpost hverdict hchoice | chosen hopen hpost hverdict hchoice =>
      obtain rfl : z = _ := by simpa using hz
      obtain rfl := Portal.eq_formOn_of_verdict hverdict
      exact ⟨_, _, _, rfl, hpost.ended, hchoice.posts⟩

/-- As many warnings are told as forms go with the fixed token. -/
theorem warnings_eq_fallbackPosts (h : LoginCourse p net line t) :
    warnings t.events = fallbackPosts t.exchanges := by
  cases h with
  | noLoginPage => rfl
  | noAnswer hopen _ | refused hopen _ _ =>
      rw [fallbackPosts_cons hopen.ended, Portal.warnings_eventsToLogin]
      rfl
  | unneeded hopen _ _ =>
      rw [fallbackPosts_cons hopen.ended, warnings_append, Portal.warnings_eventsToLogin]
      rfl
  | choiceFailed hopen hpost hverdict _ | chosen hopen hpost hverdict _ =>
      obtain rfl := Portal.eq_formOn_of_verdict hverdict
      rw [fallbackPosts_cons hopen.ended, fallbackPosts_cons hpost.ended, warnings_append,
        Portal.warnings_eventsToLogin, Portal.warnings_eventsToChoice]
      rfl

end LoginCourse

/-- What a login says of the page that it lands on, as far as an affiliation is chosen there. -/
theorem EchoesPageToken.token_of_landing {elements : Document → List Located} {p : Portal}
    {second first : String} {replies : List Reply}
    (h : EchoesPageToken elements p (p.login .everywhere (.fresh
      (.response (.ofPage first) :: .response (.ofPage second) :: replies))))
    (hverdict : p.verdict (p.landing second).url (p.landing second).document =
      .ok (some (formOn (p.landing second).document))) {token : Option String}
    (htoken : TokenOfAnswer (p.landing second).document token) :
    (∃ l ∈ elements (p.landing second).document, HoldsToken (token.getD fallbackViewState) l) ∨
      HoldNoToken (elements (p.landing second).document) ∧
        token.getD fallbackViewState = fallbackViewState := by
  obtain ⟨x, y, z, hended, hexchanges⟩ := p.exchanges_login_of_form hverdict first replies
  obtain ⟨x', y', landed, sent, more, hexchanges', hpage, hpayload, hholds⟩ :=
    h z (by simp [hexchanges])
  rw [hexchanges] at hexchanges'
  obtain ⟨rfl, rfl⟩ : x = x' ∧ y = y' := by simpa using hexchanges'
  rw [hended] at hpage
  obtain rfl : p.landing second = landed := Except.ok.inj hpage
  rw [AffiliationForm.payload, List.append_cancel_left_eq, List.cons.injEq, Prod.mk.injEq,
    tokenOfAnswer_iff.1 htoken] at hpayload
  rw [hpayload.1.2]
  exact hholds

end DegreeAudit
