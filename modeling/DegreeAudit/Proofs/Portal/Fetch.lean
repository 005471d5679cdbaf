import DegreeAudit.Proofs.Http.Bodies
import DegreeAudit.Proofs.Portal.Protocol
import DegreeAudit.Proofs.Portal.Separation

/-!
# How a fetch goes

A fetch has four courses: the summary is not had, the data are not had, they cannot be read, or they
are fetched. `FetchCourse` says for each what was sent, what was told and what came of it, and
`fetch_course` that there is no other. From it follows what a fetch sends and answers:
`fetch_protocol`. It also says what a fetch does not look at: who logged in, the cookies, and the
pages that the summary's exchange brings. The last is a law of runs (`Run.ask_unread`): a page that
is asked for and not read may have any body.
-/

namespace DegreeAudit

open Http

/-- The courses of a fetch: what is sent, told and left, and what comes of it. -/
inductive FetchCourse (p : Portal) (net : Network) (line : Line) : Trace Curriculum → Prop where
  | noSummary {x after problem}
      (hsummary : Yields net line (.getting p.endpoints.summary) x after (.error problem)) :
      FetchCourse p net line
        ⟨[(.summary, x)], [.openingSummary p.endpoints.summary], after,
          .error (.errand .summary problem)⟩
  | noData {x next page y after problem}
      (hsummary : Yields net line (.getting p.endpoints.summary) x next (.ok page))
      (hdata : Yields net next (.getting p.endpoints.data) y after (.error problem)) :
      FetchCourse p net line
        ⟨[(.summary, x), (.data, y)],
          [.openingSummary p.endpoints.summary, .openingData p.endpoints.data], after,
          .error (.errand .data problem)⟩
  | unreadable {x next page y after answer failure}
      (hsummary : Yields net line (.getting p.endpoints.summary) x next (.ok page))
      (hdata : Yields net next (.getting p.endpoints.data) y after (.ok answer))
      (hread : Curriculum.ofBody answer.text = .error failure) :
      FetchCourse p net line
        ⟨[(.summary, x), (.data, y)],
          [.openingSummary p.endpoints.summary, .openingData p.endpoints.data], after,
          .error (.answer failure)⟩
  | fetched {x next page y after answer curriculum}
      (hsummary : Yields net line (.getting p.endpoints.summary) x next (.ok page))
      (hdata : Yields net next (.getting p.endpoints.data) y after (.ok answer))
      (hread : Curriculum.ofBody answer.text = .ok curriculum) :
      FetchCourse p net line
        ⟨[(.summary, x), (.data, y)],
          [.openingSummary p.endpoints.summary, .openingData p.endpoints.data,
            .fetched curriculum.components.length], after, .ok curriculum⟩

/-- Every fetch goes in one of the four courses. -/
theorem fetch_course (p : Portal) (net : Network) (line : Line) :
    FetchCourse p net line (p.fetch net line) := by
  rw [Portal.fetch, Run.bind_of_ok (Run.tell_apply _ net line)]
  obtain ⟨x, next, ⟨problem, hsummary⟩ | ⟨page, hsummary⟩⟩ :=
    exists_yields net line (.getting p.endpoints.summary)
  · rw [Run.get, Run.bind_of_error (Run.ask_of_problem .summary hsummary)]
    exact .noSummary hsummary
  rw [Run.get, Run.bind_of_ok (Run.ask_of_page .summary hsummary),
    Run.bind_of_ok (Run.tell_apply _ net next)]
  obtain ⟨y, after, ⟨problem, hdata⟩ | ⟨answer, hdata⟩⟩ :=
    exists_yields net next (.getting p.endpoints.data)
  · rw [Run.get, Run.bind_of_error (Run.ask_of_problem .data hdata)]
    exact .noData hsummary hdata
  rw [Run.get, Run.bind_of_ok (Run.ask_of_page .data hdata)]
  cases hread : Curriculum.ofBody answer.text with
  | error failure => exact .unreadable hsummary hdata hread
  | ok curriculum => exact .fetched hsummary hdata hread

/-! ### What is seen of a run -/

/-- The runs look alike to whoever does not look at cookies and pages: the same result, the same
events, the same requests, and the same replies left. -/
structure Trace.Resembles {α : Type} (t u : Trace α) : Prop where
  result : t.result = u.result
  events : t.events = u.events
  requests : t.requests.map Request.withoutCookies = u.requests.map Request.withoutCookies
  left : t.line.replies = u.line.replies

namespace Trace

variable {α : Type} {t u v : Trace α}

theorem Resembles.refl (t : Trace α) : t.Resembles t := ⟨rfl, rfl, rfl, rfl⟩

theorem Resembles.trans (h : t.Resembles u) (h' : u.Resembles v) : t.Resembles v where
  result := h.result.trans h'.result
  events := h.events.trans h'.events
  requests := h.requests.trans h'.requests
  left := h.left.trans h'.left

theorem requests_withoutCookies (t : Trace α) :
    t.withoutCookies.requests = t.requests.map Request.withoutCookies := by
  rw [requests, requests, withoutCookies, List.flatMap_map, List.map_flatMap]
  rfl

theorem Resembles.of_withoutCookies (h : t.withoutCookies = u.withoutCookies) : t.Resembles u where
  result := (withoutCookies_eq_iff.1 h).2.2.2
  events := (withoutCookies_eq_iff.1 h).2.1
  requests := by rw [← requests_withoutCookies, ← requests_withoutCookies, h]
  left := (withoutCookies_eq_iff.1 h).2.2.1

/-- What was told before does not set the runs apart, nor do exchanges that sent the same
requests. -/
theorem Resembles.after (h : t.Resembles u) {first second : List (Errand × Exchange)}
    (hsent : first.flatMap (·.2.sent) = second.flatMap (·.2.sent)) (told : List Event) :
    (t.after first told).Resembles (u.after second told) where
  result := h.result
  events := congrArg (told ++ ·) h.events
  requests := by
    rw [requests_after, requests_after, List.map_append, List.map_append, hsent, h.requests]
  left := h.left

end Trace

/-- A page that is asked for and not read may have any body. -/
theorem Run.ask_unread {α : Type} {net : Network} {line other : Line} (errand : Errand)
    (request : Request) (rest : Run α) (hjar : other.jar = line.jar)
    (hsame : SameButBodies (send net line request).1.sent.length line.replies other.replies) :
    ((ask errand request >>= fun _ => rest) net other).Resembles
      ((ask errand request >>= fun _ => rest) net line) := by
  obtain ⟨hsent, hending, hleft⟩ := send_of_sameButBodies hjar hsame
  have hpage := Ending.page_of_withoutBody hending
  have hsent : [(errand, (send net other request).1)].flatMap (·.2.sent) =
      [(errand, (send net line request).1)].flatMap (·.2.sent) := by
    rw [List.flatMap_singleton, List.flatMap_singleton, hsent]
  cases hline : (send net line request).1.ending.page with
  | error problem =>
      rw [hline] at hpage
      cases hother : (send net other request).1.ending.page with
      | ok page =>
          rw [hother] at hpage
          cases hpage
      | error problem' =>
          rw [hother] at hpage
          cases hpage
          rw [bind_of_error (ask_of_problem errand ⟨rfl, hother⟩),
            bind_of_error (ask_of_problem errand ⟨rfl, hline⟩)]
          exact ⟨rfl, rfl, congrArg (List.map _) hsent, congrArg Line.replies hleft⟩
  | ok page =>
      rw [hline] at hpage
      cases hother : (send net other request).1.ending.page with
      | error problem =>
          rw [hother] at hpage
          cases hpage
      | ok page' =>
          have hyields : Yields net line request (send net line request).1
              (send net line request).2 (.ok page) := ⟨rfl, hline⟩
          have hothers : Yields net other request (send net other request).1
              (send net line request).2 (.ok page') := ⟨by rw [← hleft], hother⟩
          rw [bind_of_ok (ask_of_page errand hothers), bind_of_ok (ask_of_page errand hyields)]
          exact (Trace.Resembles.refl _).after hsent []

/-! ### The fetch -/

variable {p : Portal} {net : Network} {line : Line}

/-- A fetch looks at nothing of a portal but its pages. -/
theorem Portal.fetch_congr {q : Portal} (h : q.endpoints = p.endpoints) : q.fetch = p.fetch := by
  unfold Portal.fetch
  rw [h]

/-- Whoever fetches, and with whatever cookies, a fetch looks the same over replies that differ in
the bodies of those that the summary's exchange takes. -/
theorem Portal.fetch_resembles {q : Portal} {other : Line} (hpages : q.endpoints = p.endpoints)
    (hsame : SameButBodies (send net line (.getting p.endpoints.summary)).1.sent.length
      line.replies other.replies) :
    (q.fetch net other).Resembles (p.fetch net line) := by
  rw [fetch_congr hpages]
  -- over the cookies of the one line first
  have hcookies : (p.fetch net other).Resembles (p.fetch net ⟨line.jar, other.replies⟩) :=
    .of_withoutCookies (p.fetch_madeOf.ignoresCookies net _ other rfl)
  refine hcookies.trans ?_
  rw [Portal.fetch, Run.bind_of_ok (Run.tell_apply _ net line),
    Run.bind_of_ok (Run.tell_apply _ net _)]
  apply Trace.Resembles.after _ rfl
  exact Run.ask_unread .summary _ _ rfl hsame

/-- The exchanges of a fetch: that of the summary and, only after an answer that leads on, that of
the data, over the line that the first one left. -/
inductive FetchSuccession (p : Portal) (net : Network) (line : Line) :
    List (Errand × Exchange) → Line → Prop where
  | stopped {x after} (hsummary : IsChain net line (.getting p.endpoints.summary) x after)
      (hleads : ¬LeadsOn line x) : FetchSuccession p net line [(.summary, x)] after
  | wentOn {x next y after} (hsummary : IsChain net line (.getting p.endpoints.summary) x next)
      (hleads : LeadsOn line x) (hdata : IsChain net next (.getting p.endpoints.data) y after) :
      FetchSuccession p net line [(.summary, x), (.data, y)] after

/-- What a fetch sends and answers, and what it does not depend on. -/
structure FetchProtocol (p : Portal) (net : Network) (line : Line) (t : Trace Curriculum) : Prop
    where
  succession : FetchSuccession p net line t.exchanges t.line
  leadsOn_iff : (∀ r, .response r ∈ line.replies → r.status < 600) →
    ∀ x ∈ t.exchanges, (LeadsOn line x.2 ↔
      ∃ url answer, x.2.ending = .answered url answer ∧ answer.status < 400)
  returns : ∀ curriculum, t.result = .ok curriculum ↔
    ∃ x y url answer, t.exchanges = [(.summary, x), (.data, y)] ∧ LeadsOn line x ∧
      LeadsOn line y ∧ y.ending = .answered url answer ∧
      Curriculum.ofBody answer.text = .ok curriculum
  /-- Neither who logged in nor a cookie nor the body of an answer to the summary's requests is seen
  in it. -/
  unread : ∀ x, (.summary, x) ∈ t.exchanges → ∀ (q : Portal) (other : Line),
    q.endpoints = p.endpoints → SameButBodies x.sent.length line.replies other.replies →
    (q.fetch net other).Resembles t

theorem FetchCourse.succession {t : Trace Curriculum} (h : FetchCourse p net line t) :
    FetchSuccession p net line t.exchanges t.line := by
  cases h with
  | noSummary hsummary => exact .stopped hsummary.isChain hsummary.not_leadsOn
  | noData hsummary hdata | unreadable hsummary hdata _ | fetched hsummary hdata _ =>
      exact .wentOn hsummary.isChain hsummary.leadsOn hdata.isChain

theorem FetchCourse.returns {t : Trace Curriculum} (h : FetchCourse p net line t)
    (curriculum : Curriculum) :
    t.result = .ok curriculum ↔
      ∃ x y url answer, t.exchanges = [(.summary, x), (.data, y)] ∧ LeadsOn line x ∧
        LeadsOn line y ∧ y.ending = .answered url answer ∧
        Curriculum.ofBody answer.text = .ok curriculum := by
  cases h with
  | noSummary =>
      constructor
      · intro hresult
        cases hresult
      · intro hfetched
        obtain ⟨x, y, url, answer, hexchanges, _⟩ := hfetched
        cases hexchanges
  | noData _ hdata =>
      constructor
      · intro hresult
        cases hresult
      · intro hfetched
        obtain ⟨x, y, url, answer, hexchanges, _, hleads, _⟩ := hfetched
        cases hexchanges
        exact absurd hleads hdata.not_leadsOn
  | unreadable _ hdata hread =>
      constructor
      · intro hresult
        cases hresult
      · intro hfetched
        obtain ⟨x, y, url, answer, hexchanges, _, _, hended, hok⟩ := hfetched
        cases hexchanges
        rw [hdata.page_eq hended, hok] at hread
        cases hread
  | fetched hsummary hdata hread =>
      constructor
      · intro hresult
        cases hresult
        obtain ⟨url, answer, hended, _⟩ := hdata.leadsOn
        rw [hdata.page_eq hended] at hread
        exact ⟨_, _, url, answer, rfl, hsummary.leadsOn,
          hdata.leadsOn.of_suffix hsummary.course.replies_suffix, hended, hread⟩
      · intro hfetched
        obtain ⟨x, y, url, answer, hexchanges, _, _, hended, hok⟩ := hfetched
        cases hexchanges
        rw [hdata.page_eq hended, hok] at hread
        cases hread
        rfl

/-- The first exchange of a fetch is what comes of sending its first request. -/
theorem FetchCourse.summary_eq {t : Trace Curriculum} (h : FetchCourse p net line t) {x : Exchange}
    (hx : (.summary, x) ∈ t.exchanges) :
    x = (send net line (.getting p.endpoints.summary)).1 := by
  cases h with
  | noSummary hsummary =>
      cases List.mem_singleton.1 hx
      rw [hsummary.sent]
  | noData hsummary | unreadable hsummary | fetched hsummary =>
      rcases List.mem_cons.1 hx with heq | hx
      · cases heq
        rw [hsummary.sent]
      · cases List.mem_singleton.1 hx

/-- Every fetch keeps to the protocol, whatever the network does. -/
theorem fetch_protocol (p : Portal) (net : Network) (line : Line) :
    FetchProtocol p net line (p.fetch net line) where
  succession := (fetch_course p net line).succession
  leadsOn_iff hknown x _ := leadsOn_iff_of_known hknown x.2
  returns := (fetch_course p net line).returns
  unread x hx q other hpages hsame := by
    rw [(fetch_course p net line).summary_eq hx] at hsame
    exact Portal.fetch_resembles hpages hsame

end DegreeAudit
