import DegreeAudit.Portal.Settings
import DegreeAudit.Proofs.Http.Traffic
import DegreeAudit.Proofs.Portal.Parts
import DegreeAudit.Proofs.Portal.Run

/-!
# The cookie of a session

A portal knows its visitors by a cookie that it sets once. In a session of any length, once a reply
to a request to some host has set it, each later request to that host carries it, once and with its
value, through all redirects, failures and steps, and nothing else that is sent carries a cookie of
its name: `sessionRequests_carried_of_setsOnce`.

All requests of a session are traffic over one line, because a step is made of requests and of
things that leave the line as it is. The addresses they go to begin with those of the portal's
pages, which have a root because they were read from a text.
-/

namespace DegreeAudit

open Http

/-! ### Sessions as traffic -/

namespace Run

variable {α β : Type} {run : Run α} {next : α → Run β}

/-- What the run sends is traffic from the line it begins with to the one it leaves. -/
def SendsTraffic (run : Run α) : Prop :=
  ∀ net line earlier, Traffic net earlier line (run net line).requests (run net line).line

theorem sendsTraffic_ask (errand : Errand) {request : Request} (hroot : request.url.HasRoot)
    (hcookies : request.cookies = []) : (ask errand request).SendsTraffic := by
  intro net line earlier
  have hsent : (ask errand request net line).requests = (send net line request).1.sent :=
    List.flatMap_singleton _ _
  rw [hsent]
  exact send_traffic net line hroot hcookies earlier

theorem SendsTraffic.bind (hrun : run.SendsTraffic) (hnext : ∀ a, (next a).SendsTraffic) :
    (run >>= next).SendsTraffic := by
  intro net line earlier
  have hfirst := hrun net line earlier
  cases htrace : run net line with
  | mk exchanges events after result =>
      rw [htrace] at hfirst
      cases result with
      | error fault =>
          rw [bind_of_error htrace]
          exact hfirst
      | ok a =>
          rw [bind_of_ok htrace, Trace.requests_after]
          exact hfirst.append (hnext a net after _)

theorem MadeOf.sendsTraffic {asks : Request → Prop} (h : run.MadeOf asks)
    (hasks : ∀ request, asks request → request.url.HasRoot ∧ request.cookies = []) :
    run.SendsTraffic := by
  induction h with
  | pure | stop | tell => exact fun _ _ _ => .nil
  | ask errand hasked => exact sendsTraffic_ask errand (hasks _ hasked).1 (hasks _ hasked).2
  | bind _ _ hrun hnext => exact hrun.bind hnext

end Run

theorem Endpoints.hasRoot_of_under {root : Url} (hroot : root.HasRoot) {e : Endpoints}
    (h : under root = .ok e) {url : Url} (hpage : e.HasPage url) : url.HasRoot := by
  obtain ⟨login, hlogin, h⟩ := Except.bind_eq_ok_iff.1 h
  obtain ⟨affiliations, haffiliations, h⟩ := Except.bind_eq_ok_iff.1 h
  obtain ⟨summary, hsummary, h⟩ := Except.bind_eq_ok_iff.1 h
  obtain ⟨data, hdata, h⟩ := Except.bind_eq_ok_iff.1 h
  cases h
  rcases hpage with rfl | rfl | rfl | rfl
  · exact hroot.join hlogin
  · exact hroot.join haffiliations
  · exact hroot.join hsummary
  · exact hroot.join hdata

/-- The addresses of the pages begin their paths with a slash. -/
theorem Endpoints.hasRoot_of_ofBase {base : String} {e : Endpoints} (h : ofBase base = .ok e)
    {url : Url} (hpage : e.HasPage url) : url.HasRoot := by
  unfold ofBase at h
  split at h
  · cases h
  next root hread =>
    exact hasRoot_of_under (Url.hasRoot_ofText hread) (Except.mapError_eq_ok_iff.1 h) hpage

theorem Settings.ofBase_of_portal {s : Settings} {p : Portal} (h : s.portal = .ok p) :
    Endpoints.ofBase (s.base.getD Endpoints.defaultBase) = .ok p.endpoints := by
  obtain ⟨endpoints, hbase, h⟩ := Except.bind_eq_ok_iff.1 h
  obtain ⟨mode, -, h⟩ := Except.bind_eq_ok_iff.1 h
  obtain ⟨credentials, -, h⟩ := Except.bind_eq_ok_iff.1 h
  cases h
  exact Except.mapError_eq_ok_iff.1 hbase

namespace Portal

def sessionRequests (p : Portal) (net : Network) (line : Line) (steps : List Step) :
    List Request :=
  (p.steps net line steps).flatMap Trace.requests

theorem sessionRequests_traffic (p : Portal)
    (hroots : ∀ url, p.endpoints.HasPage url → url.HasRoot) (net : Network) (line : Line)
    (steps : List Step) (earlier : List Request) :
    ∃ after, Traffic net earlier line (p.sessionRequests net line steps) after := by
  have hasks : ∀ request, p.endpoints.Asks request →
      request.url.HasRoot ∧ request.cookies = [] := by
    rintro request ⟨url, hpage, rfl | ⟨form, rfl⟩⟩
    · exact ⟨hroots url hpage, rfl⟩
    · exact ⟨hroots url hpage, rfl⟩
  induction steps generalizing line earlier with
  | nil => exact ⟨line, .nil⟩
  | cons step rest ih =>
      have hstep := (p.step_madeOf step).sendsTraffic hasks net line earlier
      obtain ⟨after, hrest⟩ := ih (p.step step net line).line
        ((p.step step net line).requests.reverse ++ earlier)
      exact ⟨after, hstep.append hrest⟩

/-- Whatever portal is set up and whatever is done in a session with it: if one reply sets a cookie
and no other names it, then the later requests to its host carry it, each once and with its value,
and nothing else that is sent carries a cookie of its name. -/
theorem sessionRequests_carried_of_setsOnce {s : Settings} {p : Portal} (hportal : s.portal = .ok p)
    {net : Network} (hweb : net.IsWeb) (replies : List Reply) (steps : List Step)
    {name value host : String} (hname : Cookie.IsWord name) (hvalue : Cookie.IsWord value) {i : Nat}
    (honce : SetsOnce name value host (p.sessionRequests net (.fresh replies) steps) replies i) :
    ∀ j q, (p.sessionRequests net (.fresh replies) steps)[j]? = some q →
      q.carried name = if i < j ∧ q.host? = some host then [(name, value)] else [] := by
  intro j q hq
  have hroots : ∀ url, p.endpoints.HasPage url → url.HasRoot := fun url hpage =>
    Endpoints.hasRoot_of_ofBase (Settings.ofBase_of_portal hportal) hpage
  obtain ⟨after, htraffic⟩ := p.sessionRequests_traffic hroots net (.fresh replies) steps []
  have hunset : Unset name [] (.fresh replies) := ⟨rfl, List.forall_mem_nil _⟩
  exact htraffic.carried_of_setsOnce hweb hname hvalue hunset honce hq

/-- A portal sets its cookie while it sends the first request of a fetch to another host, which
hangs up. That host has learnt nothing, and the fetch after the failed one carries the cookie. -/
theorem sessionRequests_carried_on_redirect :
    let s : Settings := ⟨some "http://[::1]", none, none, some ⟨"ana", "segredo"⟩⟩
    let header := Cookie.plainHeader "JSESSIONID" "abc123"
    let replies := [
      Reply.response ⟨302, [("Set-Cookie", header), ("Location", "http://[::2]/")], []⟩,
      .closed, .closed]
    ∃ p, s.portal = .ok p ∧ (Network.plain 0).IsWeb ∧ Cookie.IsWord "JSESSIONID" ∧
      Cookie.IsWord "abc123" ∧
      let requests := p.sessionRequests (.plain 0) (.fresh replies) [.fetch, .fetch]
      SetsOnce "JSESSIONID" "abc123" "[::1]" requests replies 0 ∧
        requests.map Request.host? = [some "[::1]", some "[::2]", some "[::1]"] ∧
        requests.map (·.carried "JSESSIONID") = [[], [], [("JSESSIONID", "abc123")]] := by
  intro s header replies
  have hevaluated : s.portal.toOption.any (fun p =>
      (p.sessionRequests (.plain 0) (.fresh replies) [.fetch, .fetch]).map Request.host? ==
        [some "[::1]", some "[::2]", some "[::1]"]) = true := by
    decide +kernel
  obtain ⟨p, hp, hsent⟩ := (Option.any_eq_true _ _).1 hevaluated
  have hportal : s.portal = .ok p := Except.toOption_eq_some_iff.1 hp
  have hhosts := beq_iff_eq.1 hsent
  have hweb : (Network.plain 0).IsWeb := by
    intro url hreach
    rw [show url.scheme = "http" from beq_iff_eq.1 hreach]
    rfl
  have hname : Cookie.IsWord "JSESSIONID" := Cookie.isWord_of_isAlphanum (by decide) (by decide)
  have hvalue : Cookie.IsWord "abc123" := Cookie.isWord_of_isAlphanum (by decide) (by decide)
  have hsets : Response.Sets ⟨302, [("Set-Cookie", header), ("Location", "http://[::2]/")], []⟩
      "JSESSIONID" "abc123" :=
    ⟨[], [], by decide +kernel, List.forall_mem_nil _, List.forall_mem_nil _⟩
  have hothers : ∀ j ≠ 0, ∀ reply ∈ replies[j]?, ¬ reply.Names "JSESSIONID" := by
    intro j hj reply hreply
    obtain ⟨j, rfl⟩ := Nat.exists_eq_succ_of_ne_zero hj
    have hlater : reply ∈ List.replicate 2 Reply.closed := List.mem_of_getElem? hreply
    rw [List.eq_of_mem_replicate hlater]
    exact id
  have honce := SetsOnce.of_hosts hhosts rfl rfl hsets hothers
  have hcarried := sessionRequests_carried_of_setsOnce hportal hweb replies [.fetch, .fetch]
    hname hvalue honce
  refine ⟨p, hportal, hweb, hname, hvalue, honce, hhosts, ?_⟩
  rw [map_carried_eq_mapIdx hcarried, hhosts]
  rfl

end Portal

end DegreeAudit
