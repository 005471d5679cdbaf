import DegreeAudit.Proofs.Portal.LoginCourse

/-!
# What a login sends

A login makes at most three exchanges, in a fixed order and each opened by a request of a fixed
form. `Succession` is the law that one exchange imposes on the next: it begins where the one before
it left the cookies and the replies, and there is a next one only after an answer that is no error.
`login_protocol` says that a login keeps to it, and that whatever keeps an exchange from bringing a
page ends the login.
-/

namespace DegreeAudit

open Http

/-- The requests by which a login opens its exchanges. A post names its own full address as where it
came from. -/
inductive Opens (p : Portal) : Errand → Request → Prop where
  | loginPage :
      Opens p .loginPage ⟨.get, Request.address p.endpoints.login, none, [], none⟩
  | login (token : String) :
      Opens p .login ⟨.post, Request.address p.endpoints.login, some p.endpoints.login.toText, [],
        some (loginPayload p.credentials.username p.credentials.password token)⟩
  | choice (form : AffiliationForm) :
      Opens p .choice ⟨.post, Request.address p.endpoints.affiliations,
        some p.endpoints.affiliations.toText, [], some (form.payload p.affiliation)⟩

/-- The requests of an exchange: one that opens it, if it is reached, and at most ten more, each of
them where the one before it was sent by an answer. -/
structure IsChain (net : Network) (line : Line) (r : Request) (x : Exchange) (after : Line) :
    Prop where
  course : Course net maxTurns line (r.withCookies line.jar net.now) x after
  opened : net.reaches r.url = true → x.sent.head? = some (r.withCookies line.jar net.now)
  unreached : net.reaches r.url = false → x.sent = []
  linked : x.sent.IsChain (Request.LeadsTo net)
  short : x.sent.length ≤ 11

/-- An answer that leads on to the next exchange is no error; its status is below 400 if the replies
that were to come have no status beyond those that HTTP knows. -/
def LeadsOn (line : Line) (x : Exchange) : Prop :=
  ∃ url answer, x.ending = .answered url answer ∧ answer.status.isError = false ∧
    ((∀ r, .response r ∈ line.replies → r.status < 600) → answer.status < 400)

/-- Exchanges one after the other, each opened for its errand over the line that the one before it
left, and each but the first after an answer that leads on. -/
inductive Succession (p : Portal) (net : Network) : Line → List (Errand × Exchange) → Line → Prop
    where
  | nil {line} : Succession p net line [] line
  | cons {line r x next after errand rest} (hopens : Opens p errand r)
      (hchain : IsChain net line r x next) (hleads : rest ≠ [] → LeadsOn line x)
      (hrest : Succession p net next rest after) : Succession p net line ((errand, x) :: rest) after

/-- What a login sends, and when it stops. -/
structure LoginProtocol (p : Portal) (net : Network) (line : Line) (t : Trace LoginOutcome) : Prop
    where
  begun : t.exchanges ≠ []
  order : t.exchanges.map (·.1) <+: [.loginPage, .login, .choice]
  succession : Succession p net line t.exchanges t.line
  goesOn : ∀ earlier errand x next later,
    t.exchanges = earlier ++ (errand, x) :: next :: later → LeadsOn line x
  /-- What keeps an exchange from bringing a page comes last, and the login fails of it; the failure
  of a post is told as such. -/
  stops : ∀ errand x problem, (errand, x) ∈ t.exchanges → x.ending.page = .error problem →
    t.exchanges.getLast? = some (errand, x) ∧ t.result = .error (.errand errand problem) ∧
      (errand.posts = true → (RunFault.errand errand problem).message? = some errand.failure)

/-! ### One exchange -/

section

variable {p : Portal} {net : Network} {line after : Line} {r : Request} {x : Exchange}

theorem Http.Yields.isChain {result : Except Problem Page} (h : Yields net line r x after result) :
    IsChain net line r x after where
  course := h.course
  opened hreach := by
    obtain ⟨more, hmore⟩ := h.course.exists_sent_eq_cons (by rw [Request.withCookies_url, hreach])
    rw [hmore]
    rfl
  unreached hreach := by
    rw [h.course.sent_eq_nil (by rw [Request.withCookies_url, hreach])]
  linked := h.course.isChain_sent
  short := h.course.length_sent_le

theorem Http.Status.lt_of_not_isError {status : Status} (h : status.isError = false)
    (hknown : status < 600) : status < 400 := by
  unfold Status.isError at h
  rw [Bool.and_eq_false_iff, decide_eq_false_iff_not, decide_eq_false_iff_not] at h
  rcases h with h | h
  · exact Nat.lt_of_not_le h
  · exact absurd hknown h

/-- Only an answer without an error brings a page. -/
theorem Http.Ending.exists_answered_of_page {ending : Ending} {page : Page}
    (h : ending.page = .ok page) :
    ∃ url answer, ending = .answered url answer ∧ answer.status.isError = false := by
  cases ending with
  | answered url answer =>
      unfold Ending.page at h
      dsimp only at h
      split at h
      · cases h
      · next hstatus => exact ⟨url, answer, rfl, by simpa using hstatus⟩
  | lost | unanswered | turnedTooOften => cases h

theorem Http.Yields.leadsOn {page : Page} (h : Yields net line r x after (.ok page)) :
    LeadsOn line x := by
  obtain ⟨url, answer, hended, hstatus⟩ := Ending.exists_answered_of_page h.ended
  refine ⟨url, answer, hended, hstatus, fun hknown => ?_⟩
  apply Status.lt_of_not_isError hstatus
  rcases h.course.mem_replies_of_answered hended with hmem | rfl
  · exact hknown answer hmem
  · decide

theorem Http.Yields.not_leadsOn {next : Line} {problem : Problem}
    (h : Yields net next r x after (.error problem)) : ¬LeadsOn line x := by
  intro hleads
  obtain ⟨url, answer, hended, hstatus, _⟩ := hleads
  have hproblem := h.ended
  rw [hended, Ending.page, hstatus] at hproblem
  cases hproblem

theorem Http.Yields.page_eq {page : Page} {url : Url} {answer : Response}
    (h : Yields net line r x after (.ok page)) (hended : x.ending = .answered url answer) :
    page = ⟨url, answer.text⟩ := by
  have hpage := h.ended
  rw [hended, Ending.page] at hpage
  split at hpage
  · cases hpage
  · cases hpage
    rfl

/-- Among the statuses that HTTP knows, those that lead on are the ones below 400. -/
theorem leadsOn_iff_of_known (hknown : ∀ r, .response r ∈ line.replies → r.status < 600)
    (x : Exchange) :
    LeadsOn line x ↔ ∃ url answer, x.ending = .answered url answer ∧ answer.status < 400 := by
  constructor
  · intro hleads
    obtain ⟨url, answer, hended, _, hbelow⟩ := hleads
    exact ⟨url, answer, hended, hbelow hknown⟩
  · intro hanswered
    obtain ⟨url, answer, hended, hbelow⟩ := hanswered
    refine ⟨url, answer, hended, ?_, fun _ => hbelow⟩
    rw [Status.isError, decide_eq_false (Nat.not_le_of_lt hbelow), Bool.false_and]

theorem RunFault.message?_of_posts {errand : Errand} (h : errand.posts = true) (problem : Problem) :
    (RunFault.errand errand problem).message? = some errand.failure := by
  cases problem with
  | status => rfl
  | _ => simp [RunFault.message?, h]

end

/-! ### One exchange after the other -/

variable {p : Portal} {net : Network} {line after : Line}

/-- What is known of the replies that are left is known if it was known of all of them. -/
theorem LeadsOn.of_suffix {next : Line} {x : Exchange} (h : LeadsOn next x)
    (hsuffix : next.replies <:+ line.replies) : LeadsOn line x := by
  obtain ⟨url, answer, hended, hstatus, hknown⟩ := h
  refine ⟨url, answer, hended, hstatus, fun hall => ?_⟩
  exact hknown fun r hr => hall r (hsuffix.subset hr)

/-- Whatever stands before another exchange ended in an answer that leads on. -/
theorem Succession.leadsOn {exchanges : List (Errand × Exchange)}
    (h : Succession p net line exchanges after) {earlier later : List (Errand × Exchange)}
    {errand : Errand} {x : Exchange} {next : Errand × Exchange}
    (hexchanges : exchanges = earlier ++ (errand, x) :: next :: later) : LeadsOn line x := by
  induction h generalizing earlier with
  | nil => simp at hexchanges
  | cons hopens hchain hleads hrest ih =>
      cases earlier with
      | nil =>
          rw [List.nil_append, List.cons.injEq] at hexchanges
          obtain ⟨hfirst, rfl⟩ := hexchanges
          cases hfirst
          exact hleads (List.cons_ne_nil _ _)
      | cons first earlier =>
          rw [List.cons_append, List.cons.injEq] at hexchanges
          exact (ih hexchanges.2).of_suffix hchain.course.replies_suffix

/-- An exchange that brings no page is the last. -/
theorem Succession.getLast?_of_problem {exchanges : List (Errand × Exchange)}
    (h : Succession p net line exchanges after) {errand : Errand} {x : Exchange} {problem : Problem}
    (hx : (errand, x) ∈ exchanges) (hproblem : x.ending.page = .error problem) :
    exchanges.getLast? = some (errand, x) := by
  obtain ⟨earlier, later, rfl⟩ := List.append_of_mem hx
  cases later with
  | nil => exact List.getLast?_concat
  | cons next later =>
      obtain ⟨url, answer, hended, hstatus, -⟩ := h.leadsOn rfl
      rw [hended, Ending.page, hstatus] at hproblem
      cases hproblem

/-! ### The login -/

/-- Each exchange of a login begins where the one before it left off. -/
theorem LoginCourse.succession {t : Trace LoginOutcome} (h : LoginCourse p net line t) :
    Succession p net line t.exchanges t.line := by
  cases h with
  | noLoginPage hopen => exact .cons .loginPage hopen.isChain (absurd rfl) .nil
  | noAnswer hopen hpost | refused hopen hpost _ | unneeded hopen hpost _ =>
      refine .cons .loginPage hopen.isChain (fun _ => hopen.leadsOn) ?_
      exact .cons (.login _) hpost.isChain (absurd rfl) .nil
  | choiceFailed hopen hpost _ hchoice | chosen hopen hpost _ hchoice =>
      refine .cons .loginPage hopen.isChain (fun _ => hopen.leadsOn) ?_
      refine .cons (.login _) hpost.isChain (fun _ => hpost.leadsOn) ?_
      exact .cons (.choice _) hchoice.isChain (absurd rfl) .nil

theorem LoginCourse.exchanges_ne_nil {t : Trace LoginOutcome} (h : LoginCourse p net line t) :
    t.exchanges ≠ [] := by
  cases h <;> exact List.cons_ne_nil _ _

theorem LoginCourse.order {t : Trace LoginOutcome} (h : LoginCourse p net line t) :
    t.exchanges.map (·.1) <+: [.loginPage, .login, .choice] := by
  cases h with
  | noLoginPage => exact ⟨[.login, .choice], rfl⟩
  | noAnswer | refused | unneeded => exact ⟨[.choice], rfl⟩
  | choiceFailed | chosen => exact ⟨[], rfl⟩

/-- A login whose last exchange brings no page fails of that. -/
theorem LoginCourse.result_of_last {t : Trace LoginOutcome} (h : LoginCourse p net line t)
    {errand : Errand} {x : Exchange} {problem : Problem}
    (hlast : t.exchanges.getLast? = some (errand, x)) (hproblem : x.ending.page = .error problem) :
    t.result = .error (.errand errand problem) := by
  cases h with
  | noLoginPage hlost | noAnswer _ hlost | choiceFailed _ _ _ hlost =>
      cases hlast
      obtain rfl := Except.error.inj (hlost.ended.symm.trans hproblem)
      rfl
  | refused _ hpage _ | unneeded _ hpage _ | chosen _ _ _ hpage =>
      cases hlast
      rw [hpage.ended] at hproblem
      cases hproblem

/-- Every login keeps to the protocol, whatever the network does. -/
theorem login_protocol (p : Portal) (net : Network) (line : Line) :
    LoginProtocol p net line (p.login net line) where
  begun := (login_course p net line).exchanges_ne_nil
  order := (login_course p net line).order
  succession := (login_course p net line).succession
  goesOn _ _ _ _ _ := (login_course p net line).succession.leadsOn
  stops errand x problem hx hproblem := by
    have hcourse := login_course p net line
    have hlast := hcourse.succession.getLast?_of_problem hx hproblem
    refine ⟨hlast, hcourse.result_of_last hlast hproblem, fun hposts => ?_⟩
    exact RunFault.message?_of_posts hposts problem

end DegreeAudit
