import DegreeAudit.Proofs.Http.FormBody
import DegreeAudit.Proofs.Portal.Fetch
import DegreeAudit.Proofs.Portal.Token

/-!
# What the portal reads

What a session posts is read by the portal as it was meant, field by field: `steps_deliver`. That
the bytes of a body give its fields back is the law of form bodies; what is added here is which
fields those are, for every post of every step, and that a post which an answer sends elsewhere
still has them. The names and values come from the account, from the settings and from the pages of
the portal, and no condition is put on any of them.
-/

namespace DegreeAudit

open Http

/-- Whoever reads the body as a form finds these fields, whether or not empty parts are passed over.
-/
structure Http.Request.Delivers (fields : Fields) (r : Request) : Prop where
  method : r.method = .post
  mediaType : r.contentType? = some "application/x-www-form-urlencoded"
  decoded : FormBody.decode r.body = fields
  parts : (r.body.toList.splitOn '&').map FormBody.decodeField = fields

structure Http.Request.DeliversNothing (r : Request) : Prop where
  method : r.method = .get
  mediaType : r.contentType? = none
  body : r.body = ""

/-- The exchange is opened by a post, and whatever it posts delivers the same fields. -/
structure Http.Exchange.Delivers (net : Network) (url : Url) (fields : Fields) (x : Exchange) :
    Prop where
  opened : net.reaches (Request.address url) = true →
    ∃ r more, x.sent = r :: more ∧ r.url = Request.address url ∧ r.Delivers fields
  each : ∀ r ∈ x.sent, r.Delivers fields ∨ r.DeliversNothing

/-- What the exchanges of one step deliver. -/
structure Portal.Delivers (p : Portal) (net : Network) (exchanges : List (Errand × Exchange)) :
    Prop where
  credentials : ∀ y, (.login, y) ∈ exchanges → ∃ x page, (.loginPage, x) ∈ exchanges ∧
    x.ending.page = .ok page ∧
      y.Delivers net p.endpoints.login
        (loginPayload p.credentials.username p.credentials.password (tokenOf page))
  choice : ∀ z, (.choice, z) ∈ exchanges → ∃ y landed, (.login, y) ∈ exchanges ∧
    y.ending.page = .ok landed ∧
      z.Delivers net p.endpoints.affiliations
        ((formOn landed.document).payload p.affiliation)
  others : ∀ errand x, (errand, x) ∈ exchanges → errand.posts = false →
    ∀ r ∈ x.sent, r.DeliversNothing

/-! ### One exchange -/

section

variable {net : Network} {line after : Line} {url : Url} {fields : Fields} {x : Exchange}
  {result : Except Problem Page} {r : Request}

theorem Http.Request.delivers_of_form (hmethod : r.method = .post) (hform : r.form = some fields)
    (hfields : fields ≠ []) : r.Delivers fields := by
  have hbody : r.body = FormBody.encode fields := by
    rw [Request.body, hform]
    rfl
  refine ⟨hmethod, ?_, ?_, ?_⟩
  · rw [Request.contentType?, hform]
    rfl
  · rw [hbody, FormBody.decode_encode]
  · rw [hbody, FormBody.splitOn_encode hfields, FormBody.map_decodeField_encodeField]

theorem Http.Request.deliversNothing_of_isPlain (hmethod : r.method = .get) (hplain : r.IsPlain) :
    r.DeliversNothing := by
  have hform := hplain hmethod
  refine ⟨hmethod, ?_, ?_⟩
  · rw [Request.contentType?, hform]
    rfl
  · rw [Request.body, hform]
    rfl

/-- Every request of an exchange repeats the post that opened it or asks for a page. -/
theorem Http.Yields.delivers (h : Yields net line (.posting url fields) x after result)
    (hfields : fields ≠ []) : x.Delivers net url fields := by
  have hplain : ((Request.posting url fields).withCookies line.jar net.now).IsPlain := by
    simp [Request.IsPlain, Request.posting]
  have heach : ∀ r ∈ x.sent, r.method = .post → r.Delivers fields := by
    intro r hr hmethod
    obtain ⟨-, hform⟩ := (h.course.form_of_mem_sent hplain hr).2 hmethod
    rw [Request.withCookies_form] at hform
    exact Request.delivers_of_form hmethod hform hfields
  constructor
  · intro hreach
    obtain ⟨more, hsent⟩ := h.course.exists_sent_eq_cons
      (by rw [Request.withCookies_url]; exact hreach)
    refine ⟨_, more, hsent, by rw [Request.withCookies_url]; rfl, ?_⟩
    exact heach _ (hsent ▸ List.mem_cons_self) (by rw [Request.withCookies_method]; rfl)
  · intro r hr
    cases hmethod : r.method with
    | get => exact .inr (Request.deliversNothing_of_isPlain hmethod
        (h.course.form_of_mem_sent hplain hr).1)
    | post => exact .inl (heach r hr hmethod)

/-- An exchange that is opened to get a page never posts. -/
theorem Http.Yields.deliversNothing (h : Yields net line (.getting url) x after result) :
    ∀ r ∈ x.sent, r.DeliversNothing := by
  intro r hr
  have hplain : ((Request.getting url).withCookies line.jar net.now).IsPlain := by
    simp [Request.IsPlain, Request.getting]
  obtain ⟨hr, hpost⟩ := h.course.form_of_mem_sent hplain hr
  cases hmethod : r.method with
  | get => exact Request.deliversNothing_of_isPlain hmethod hr
  | post =>
      have hopening := (hpost hmethod).1
      rw [Request.withCookies_method] at hopening
      cases hopening

end

/-! ### One step -/

variable {p : Portal} {net : Network} {line : Line}

theorem Posts.delivers {url : Url} {fields : Fields} {y : Exchange} (h : Posts net url fields y)
    (hfields : fields ≠ []) : y.Delivers net url fields := by
  obtain ⟨line, after, hsent⟩ := h.opened
  exact Yields.delivers ⟨hsent, rfl⟩ hfields

theorem AffiliationForm.payload_ne_nil (form : AffiliationForm) (value : String) :
    form.payload value ≠ [] := by
  simp [AffiliationForm.payload]

theorem LoginCourse.deliversNothing_of_loginPage {t : Trace LoginOutcome}
    (h : LoginCourse p net line t) {x : Exchange} (hx : (.loginPage, x) ∈ t.exchanges) :
    ∀ r ∈ x.sent, r.DeliversNothing := by
  cases h with
  | noLoginPage hopen | noAnswer hopen _ | refused hopen _ _ | unneeded hopen _ _
  | choiceFailed hopen _ _ _ | chosen hopen _ _ _ =>
      obtain rfl : x = _ := by simpa using hx
      exact hopen.deliversNothing

theorem LoginCourse.delivers {t : Trace LoginOutcome} (h : LoginCourse p net line t) :
    p.Delivers net t.exchanges where
  credentials y hy := by
    obtain ⟨x, page, later, hexchanges, hpage, hposts⟩ := h.credentials_token hy
    refine ⟨x, page, by simp [hexchanges], hpage, hposts.delivers ?_⟩
    exact List.cons_ne_nil _ _
  choice z hz := by
    obtain ⟨x, y, landed, hexchanges, hpage, hposts⟩ := h.choice_token hz
    refine ⟨y, landed, by simp [hexchanges], hpage, hposts.delivers ?_⟩
    exact AffiliationForm.payload_ne_nil _ _
  others errand x hx hgets := by
    have herrand : errand ∈ [Errand.loginPage, .login, .choice] :=
      h.order.subset (List.mem_map_of_mem hx)
    simp only [List.mem_cons, List.not_mem_nil, or_false] at herrand
    rcases herrand with rfl | rfl | rfl
    · exact h.deliversNothing_of_loginPage hx
    · cases hgets
    · cases hgets

theorem FetchCourse.delivers {t : Trace Curriculum} (h : FetchCourse p net line t) :
    p.Delivers net t.exchanges := by
  cases h with
  | noSummary hsummary =>
      refine ⟨by simp, by simp, fun errand x hx _ => ?_⟩
      obtain ⟨rfl, rfl⟩ : errand = _ ∧ x = _ := by simpa using hx
      exact hsummary.deliversNothing
  | noData hsummary hdata | unreadable hsummary hdata _ | fetched hsummary hdata _ =>
      refine ⟨by simp, by simp, fun errand x hx _ => ?_⟩
      obtain ⟨rfl, rfl⟩ | ⟨rfl, rfl⟩ : errand = _ ∧ x = _ ∨ errand = _ ∧ x = _ := by
        simpa using hx
      · exact hsummary.deliversNothing
      · exact hdata.deliversNothing

/-- A run that only names its result otherwise makes the same exchanges. -/
theorem Run.exchanges_bind_pure {α β : Type} (run : Run α) (f : α → β) (net : Network)
    (line : Line) : ((run >>= fun a => Pure.pure (f a)) net line).exchanges
      = (run net line).exchanges := by
  change (Run.bind run _ net line).exchanges = _
  unfold Run.bind
  dsimp only
  split
  · rfl
  · exact List.append_nil _

theorem Portal.step_delivers (p : Portal) (step : Step) (net : Network) (line : Line) :
    p.Delivers net (p.step step net line).exchanges := by
  cases step with
  | login =>
      rw [step, Run.exchanges_bind_pure]
      exact (login_course p net line).delivers
  | fetch =>
      rw [step, Run.exchanges_bind_pure]
      exact (fetch_course p net line).delivers

/-- In every step of every session, each post delivers to the portal the fields that it was meant
to, and nothing else delivers any. -/
theorem steps_deliver (p : Portal) (net : Network) (line : Line) (steps : List Step) :
    ∀ t ∈ p.steps net line steps, p.Delivers net t.exchanges := by
  induction steps generalizing line with
  | nil => exact fun t ht => absurd ht List.not_mem_nil
  | cons step rest ih =>
      rw [Portal.steps, List.forall_mem_cons]
      exact ⟨p.step_delivers step net line, ih _⟩

/-- A portal at one address, and an account and an affiliation full of marks. -/
private def marked : Portal :=
  let home : Url := ⟨"http", none, .segments ["sigaa", ""], none, none⟩
  ⟨⟨"ana&b=c+d", "100% çé\r\n"⟩, ⟨home, home, home, home⟩, "1&vinculo=2", .always⟩

/-- Marks in the name and value of a hidden field, in the token and in what the script of the link
sets. -/
theorem steps_deliver_of_marks :
    let loginPage := "<input name=javax.faces.ViewState value='a&#38;b=c+%26 é'>"
    let landing := "<form id=f><input type=hidden name='x&#38;y' value='1=2 +'>" ++
      "<input name=javax.faces.ViewState value='j_id1:%2B&#38;'>" ++
      "<a onclick=\"getElementById('f')'k=&#38;':'100% ç','vinculo':'1&#38;vinculo=2'\"></a>"
    ∃ t ∈ marked.steps .everywhere
        (.fresh [.response (.ofPage loginPage), .response (.ofPage landing)]) [.login, .fetch],
      marked.Delivers .everywhere t.exchanges ∧
        ∃ z r, (.choice, z) ∈ t.exchanges ∧ z.sent.head? = some r ∧
          r.Delivers [("x&y", "1=2 +"), ("javax.faces.ViewState", "j_id1:%2B&"),
            ("k=&", "100% ç"), ("vinculo", "1&vinculo=2")] := by
  intro loginPage landing
  have hpage : ¬AsksForPassword (marked.landing landing).document ∧
      ¬marked.OffersOnlyOthers (marked.landing landing).document ∧
      (formOn (marked.landing landing).document).payload "1&vinculo=2" =
        [("x&y", "1=2 +"), ("javax.faces.ViewState", "j_id1:%2B&"), ("k=&", "100% ç"),
          ("vinculo", "1&vinculo=2")] := by
    unfold landing Portal.landing Page.document
    rw [Html.Document.ofText_eq]
    decide +kernel
  obtain ⟨hasks, hoffers, hfields⟩ := hpage
  have hneeds : ¬marked.NeedsNoChoice (marked.landing landing).url
      (marked.landing landing).document := by
    rintro (hnever | ⟨hauto, -⟩)
    · cases hnever
    · cases hauto
  obtain ⟨x, y, z, hended, hexchanges⟩ := marked.exchanges_login_of_form
    (marked.verdict_of_chosen hasks hneeds hoffers) loginPage []
  have hdelivers := steps_deliver marked .everywhere
    (.fresh [.response (.ofPage loginPage), .response (.ofPage landing)]) [.login, .fetch] _
    List.mem_cons_self
  refine ⟨_, List.mem_cons_self, hdelivers, ?_⟩
  rw [Portal.step, Run.exchanges_bind_pure, hexchanges] at hdelivers ⊢
  obtain ⟨y', landed, hy', hpage, hpost⟩ := hdelivers.choice z (by simp)
  obtain rfl : y' = y := by simpa using hy'
  rw [hended] at hpage
  obtain rfl : marked.landing landing = landed := Except.ok.inj hpage
  obtain ⟨r, more, hsent, -, hr⟩ := hpost.opened rfl
  exact ⟨z, r, by simp, by rw [hsent]; rfl, hfields ▸ hr⟩

end DegreeAudit
