import DegreeAudit.Portal.Session
import DegreeAudit.Proofs.Portal.Run

/-!
# How a login goes

A login has six courses: the login page is not had, the credentials are not answered, they are
refused, no affiliation is called for, the choice of one is not answered, or it is. `LoginCourse`
says for each what was sent, what was told, and what came of it; `login_course` says that there is
no other.
-/

namespace DegreeAudit

open Http

namespace Portal

def tokenOf (page : Page) : String := page.document.viewState?.getD fallbackViewState

def credentialsPost (p : Portal) (page : Page) : Request :=
  .posting p.endpoints.login
    (loginPayload p.credentials.username p.credentials.password (tokenOf page))

def choicePost (p : Portal) (form : AffiliationForm) : Request :=
  .posting p.endpoints.affiliations (form.payload p.affiliation)

def eventsToLogin (p : Portal) (page : Page) : List Event :=
  [.openingLogin p.endpoints.login] ++
    (if page.document.viewState?.isNone then [.loginWithoutToken] else []) ++
    [.submittingCredentials p.credentials.username,
      .posting p.endpoints.login
        ((loginPayload p.credentials.username p.credentials.password (tokenOf page)).map (·.1))]

def eventsToChoice (p : Portal) (form : AffiliationForm) : List Event :=
  (if form.viewState.isNone then [.choiceWithoutToken] else []) ++
    [.choosing p.affiliation form.choices.length,
      .posting p.endpoints.affiliations ((form.payload p.affiliation).map (·.1))]

end Portal

/-- The courses of a login: what is sent, told and left, and what comes of it. -/
inductive LoginCourse (p : Portal) (net : Network) (line : Line) : Trace LoginOutcome → Prop where
  | noLoginPage {x after problem}
      (hopen : Yields net line (.getting p.endpoints.login) x after (.error problem)) :
      LoginCourse p net line
        ⟨[(.loginPage, x)], [.openingLogin p.endpoints.login], after,
          .error (.errand .loginPage problem)⟩
  | noAnswer {x next page y after problem}
      (hopen : Yields net line (.getting p.endpoints.login) x next (.ok page))
      (hpost : Yields net next (p.credentialsPost page) y after (.error problem)) :
      LoginCourse p net line
        ⟨[(.loginPage, x), (.login, y)], p.eventsToLogin page, after,
          .error (.errand .login problem)⟩
  | refused {x next page y after landed refusal}
      (hopen : Yields net line (.getting p.endpoints.login) x next (.ok page))
      (hpost : Yields net next (p.credentialsPost page) y after (.ok landed))
      (hverdict : p.verdict landed.url landed.document = .error refusal) :
      LoginCourse p net line
        ⟨[(.loginPage, x), (.login, y)], p.eventsToLogin page, after, .error (.refused refusal)⟩
  | unneeded {x next page y after landed}
      (hopen : Yields net line (.getting p.endpoints.login) x next (.ok page))
      (hpost : Yields net next (p.credentialsPost page) y after (.ok landed))
      (hverdict : p.verdict landed.url landed.document = .ok none) :
      LoginCourse p net line
        ⟨[(.loginPage, x), (.login, y)], p.eventsToLogin page ++ [.noChoiceNeeded], after,
          .ok ⟨false, []⟩⟩
  | choiceFailed {x next page y middle landed form z after problem}
      (hopen : Yields net line (.getting p.endpoints.login) x next (.ok page))
      (hpost : Yields net next (p.credentialsPost page) y middle (.ok landed))
      (hverdict : p.verdict landed.url landed.document = .ok (some form))
      (hchoice : Yields net middle (p.choicePost form) z after (.error problem)) :
      LoginCourse p net line
        ⟨[(.loginPage, x), (.login, y), (.choice, z)],
          p.eventsToLogin page ++ p.eventsToChoice form, after, .error (.errand .choice problem)⟩
  | chosen {x next page y middle landed form z after answer}
      (hopen : Yields net line (.getting p.endpoints.login) x next (.ok page))
      (hpost : Yields net next (p.credentialsPost page) y middle (.ok landed))
      (hverdict : p.verdict landed.url landed.document = .ok (some form))
      (hchoice : Yields net middle (p.choicePost form) z after (.ok answer)) :
      LoginCourse p net line
        ⟨[(.loginPage, x), (.login, y), (.choice, z)],
          p.eventsToLogin page ++ p.eventsToChoice form, after, .ok ⟨true, form.choices⟩⟩

namespace Portal

variable {p : Portal} {net : Network} {line next middle after : Line} {x y z : Exchange}
  {page landed : Page} {form : AffiliationForm}

private theorem tokenOr_apply (token : Option String) (warning : Event) (net : Network)
    (line : Line) :
    tokenOr token warning net line =
      ⟨[], if token.isNone then [warning] else [], line, .ok (token.getD fallbackViewState)⟩ := by
  cases token <;> rfl

private theorem openLogin_of_page
    (h : Yields net line (.getting p.endpoints.login) x next (.ok page)) :
    p.openLogin net line =
      ⟨[(.loginPage, x)],
        [.openingLogin p.endpoints.login] ++
          (if page.document.viewState?.isNone then [.loginWithoutToken] else []),
        next, .ok (tokenOf page)⟩ := by
  rw [openLogin, Run.bind_of_ok (Run.tell_apply _ net line), Run.get,
    Run.bind_of_ok (Run.ask_of_page .loginPage h), tokenOr_apply]
  rfl

private theorem openLogin_of_problem {problem : Problem}
    (h : Yields net line (.getting p.endpoints.login) x after (.error problem)) :
    p.openLogin net line =
      ⟨[(.loginPage, x)], [.openingLogin p.endpoints.login], after,
        .error (.errand .loginPage problem)⟩ := by
  rw [openLogin, Run.bind_of_ok (Run.tell_apply _ net line), Run.get,
    Run.bind_of_error (Run.ask_of_problem .loginPage h)]
  rfl

private theorem submit_of_page (h : Yields net next (p.credentialsPost page) y after (.ok landed)) :
    p.submit (tokenOf page) net next =
      ⟨[(.login, y)],
        [.submittingCredentials p.credentials.username,
          .posting p.endpoints.login
            ((loginPayload p.credentials.username p.credentials.password (tokenOf page)).map
              (·.1))],
        after, .ok landed⟩ := by
  rw [submit, Run.bind_of_ok (Run.tell_apply _ net next), Run.post_of_page .login h]
  rfl

private theorem submit_of_problem {problem : Problem}
    (h : Yields net next (p.credentialsPost page) y after (.error problem)) :
    p.submit (tokenOf page) net next =
      ⟨[(.login, y)],
        [.submittingCredentials p.credentials.username,
          .posting p.endpoints.login
            ((loginPayload p.credentials.username p.credentials.password (tokenOf page)).map
              (·.1))],
        after, .error (.errand .login problem)⟩ := by
  rw [submit, Run.bind_of_ok (Run.tell_apply _ net next), Run.post_of_problem .login h]
  rfl

/-- The warning stands before everything else that is told of a choice. -/
private theorem choose_eq (p : Portal) (form : AffiliationForm) :
    p.choose form =
      tokenOr form.viewState .choiceWithoutToken >>= fun _ =>
      Run.tell (.choosing p.affiliation form.choices.length) >>= fun _ =>
      Run.post .choice p.endpoints.affiliations (form.payload p.affiliation) >>= fun _ =>
      Pure.pure ⟨true, form.choices⟩ := by
  unfold choose
  cases form.viewState <;> rfl

private theorem choose_of_page {answer : Page}
    (h : Yields net middle (p.choicePost form) z after (.ok answer)) :
    p.choose form net middle =
      ⟨[(.choice, z)], p.eventsToChoice form, after, .ok ⟨true, form.choices⟩⟩ := by
  rw [choose_eq, Run.bind_of_ok (tokenOr_apply _ _ net middle),
    Run.bind_of_ok (Run.tell_apply _ net middle), Run.bind_of_ok (Run.post_of_page .choice h)]
  rfl

private theorem choose_of_problem {problem : Problem}
    (h : Yields net middle (p.choicePost form) z after (.error problem)) :
    p.choose form net middle =
      ⟨[(.choice, z)], p.eventsToChoice form, after, .error (.errand .choice problem)⟩ := by
  rw [choose_eq, Run.bind_of_ok (tokenOr_apply _ _ net middle),
    Run.bind_of_ok (Run.tell_apply _ net middle),
    Run.bind_of_error (Run.post_of_problem .choice h)]
  rfl

end Portal

/-- Every login goes in one of the six courses. -/
theorem login_course (p : Portal) (net : Network) (line : Line) :
    LoginCourse p net line (p.login net line) := by
  rw [Portal.login]
  obtain ⟨x, next, ⟨problem, hopen⟩ | ⟨page, hopen⟩⟩ :=
    exists_yields net line (.getting p.endpoints.login)
  · rw [Run.bind_of_error (p.openLogin_of_problem hopen)]
    exact .noLoginPage hopen
  rw [Run.bind_of_ok (p.openLogin_of_page hopen)]
  obtain ⟨y, middle, ⟨problem, hpost⟩ | ⟨landed, hpost⟩⟩ :=
    exists_yields net next (p.credentialsPost page)
  · rw [Run.bind_of_error (p.submit_of_problem hpost)]
    exact .noAnswer hopen hpost
  rw [Run.bind_of_ok (p.submit_of_page hpost), Portal.finish, Trace.after_after]
  cases hverdict : p.verdict landed.url landed.document with
  | error refusal =>
      dsimp only
      rw [Run.stop_apply, Trace.after_nothing]
      exact .refused hopen hpost hverdict
  | ok called =>
      cases called with
      | none => exact .unneeded hopen hpost hverdict
      | some form =>
          obtain ⟨z, after, ⟨problem, hchoice⟩ | ⟨answer, hchoice⟩⟩ :=
            exists_yields net middle (p.choicePost form)
          · dsimp only
            rw [p.choose_of_problem hchoice]
            exact .choiceFailed hopen hpost hverdict hchoice
          · dsimp only
            rw [p.choose_of_page hchoice]
            exact .chosen hopen hpost hverdict hchoice

/-! ### Logins that are answered -/

def Http.Network.everywhere : Network := ⟨fun _ => true, 0⟩

def Http.Response.ofPage (html : String) : Response := ⟨200, [], Text.Utf8.encode html.toList⟩

theorem Http.Yields.of_page (jar : Jar) (replies : List Reply) (request : Request) (html : String) :
    Yields .everywhere ⟨jar, .response (.ofPage html) :: replies⟩ request
      ⟨[request.withCookies jar 0], .answered request.url (.ofPage html)⟩ ⟨jar, replies⟩
      (.ok ⟨request.url, (Response.ofPage html).text⟩) :=
  .of_answer rfl rfl rfl rfl

namespace Portal

variable {p : Portal} {net : Network} {line next middle after : Line} {x y z : Exchange}
  {page landed : Page} {form : AffiliationForm} {result : Except Problem Page}

theorem exchanges_login (hopen : Yields net line (.getting p.endpoints.login) x next (.ok page))
    (hpost : Yields net next (p.credentialsPost page) y middle (.ok landed)) :
    (p.login net line).exchanges =
      [(.loginPage, x), (.login, y)] ++ (p.finish landed net middle).exchanges := by
  rw [login, Run.bind_of_ok (p.openLogin_of_page hopen), Run.bind_of_ok (p.submit_of_page hpost)]
  rfl

theorem exchanges_finish_of_form (hverdict : p.verdict landed.url landed.document = .ok (some form))
    (hchoice : Yields net middle (p.choicePost form) z after result) :
    (p.finish landed net middle).exchanges = [(.choice, z)] := by
  rw [finish, hverdict]
  cases result with
  | error problem => exact congrArg Trace.exchanges (p.choose_of_problem hchoice)
  | ok answer => exact congrArg Trace.exchanges (p.choose_of_page hchoice)

/-- Where a login lands whose credentials are answered with a page at once. -/
def landing (p : Portal) (html : String) : Page :=
  ⟨Request.address p.endpoints.login, (Response.ofPage html).text⟩

theorem exchanges_login_of_pages (p : Portal) (first second : String) (replies : List Reply) :
    ∃ x y, y.ending = .answered (p.landing second).url (.ofPage second) ∧
      (p.login .everywhere (.fresh
          (.response (.ofPage first) :: .response (.ofPage second) :: replies))).exchanges =
        [(.loginPage, x), (.login, y)] ++
          (p.finish (p.landing second) .everywhere (.fresh replies)).exchanges := by
  have hopen := Yields.of_page .empty (.response (.ofPage second) :: replies)
    (.getting p.endpoints.login) first
  have hpost := Yields.of_page .empty replies (p.credentialsPost (p.landing first)) second
  exact ⟨_, _, rfl, exchanges_login hopen hpost⟩

/-- Where the second page wants an affiliation chosen, its form is posted. -/
theorem exchanges_login_of_form {form : AffiliationForm} {second : String}
    (hverdict : p.verdict (p.landing second).url (p.landing second).document = .ok (some form))
    (first : String) (replies : List Reply) :
    ∃ x y z, y.ending = .answered (p.landing second).url (.ofPage second) ∧
      (p.login .everywhere (.fresh
          (.response (.ofPage first) :: .response (.ofPage second) :: replies))).exchanges =
        [(.loginPage, x), (.login, y), (.choice, z)] := by
  obtain ⟨x, y, hended, hexchanges⟩ := p.exchanges_login_of_pages first second replies
  have hchoice : Yields .everywhere (.fresh replies) (p.choicePost form)
      (send .everywhere (.fresh replies) (p.choicePost form)).1 _ _ := ⟨rfl, rfl⟩
  rw [exchanges_finish_of_form hverdict hchoice] at hexchanges
  exact ⟨x, y, _, hended, hexchanges⟩

end Portal

end DegreeAudit
