import DegreeAudit.Portal.Settings
import DegreeAudit.Proofs.Http.FormBody
import DegreeAudit.Proofs.Portal.Run

/-!
# What a password changes

Two accounts that differ in nothing but the password are set beside each other over the same
network. `Portal.SameButPassword.steps` says that whoever watches them sees the same results, the
same events and the same requests, but for one value in the form that is posted to log in, and in
the repetitions of that post.

The relation is carried through a run part by part: it holds of parts that do not look at the
password because they are the same, and of the post of the credentials because no answer looks at
the form. A run that goes on with equal results of related parts is related again.
-/

namespace DegreeAudit

open Http

/-! ### The relation -/

structure Settings.SameButPassword (s t : Settings) : Prop where
  base : s.base = t.base
  mode : s.mode = t.mode
  affiliation : s.affiliation = t.affiliation
  username : s.credentials.map (·.username) = t.credentials.map (·.username)

structure Portal.SameButPassword (p q : Portal) : Prop where
  endpoints : p.endpoints = q.endpoints
  mode : p.mode = q.mode
  affiliation : p.affiliation = q.affiliation
  username : p.credentials.username = q.credentials.username

/-- The fields have the same name, and the same value unless they are the password's. -/
def SameField (f g : String × String) : Prop := f.1 = g.1 ∧ (f.1 ≠ passwordField → f.2 = g.2)

/-- The requests are the same but for the password in the form that their bodies hold. -/
structure Http.Request.SameButPassword (r q : Request) : Prop where
  method : r.method = q.method
  url : r.url = q.url
  referer : r.referer = q.referer
  cookies : r.cookies = q.cookies
  contentType : r.contentType? = q.contentType?
  fields : List.Forall₂ SameField (FormBody.decode r.body) (FormBody.decode q.body)

/-- Only where the credentials are posted may two requests differ. -/
def SameRequest (errand : Errand) (r q : Request) : Prop :=
  if errand = .login ∧ r.method = .post then r.SameButPassword q else r = q

/-- The exchanges are made for the same errand, send the same requests but for the password, and
end alike. -/
structure SameExchange (x y : Errand × Exchange) : Prop where
  errand : x.1 = y.1
  sent : List.Forall₂ (SameRequest x.1) x.2.sent y.2.sent
  ending : x.2.ending = y.2.ending

structure Trace.SameButPassword {α : Type} (t u : Trace α) : Prop where
  exchanges : List.Forall₂ SameExchange t.exchanges u.exchanges
  events : t.events = u.events
  line : t.line = u.line
  result : t.result = u.result

/-- The runs leave traces that are the same but for the password, wherever they begin. -/
def Run.SameButPassword {α : Type} (run other : Run α) : Prop :=
  ∀ net line, (run net line).SameButPassword (other net line)

/-! ### Requests and exchanges -/

theorem SameField.refl (f : String × String) : SameField f f := ⟨rfl, fun _ => rfl⟩

/-- Two payloads of a login differ in the password alone. -/
theorem loginPayload_sameField (username password other token : String) :
    List.Forall₂ SameField (loginPayload username password token)
      (loginPayload username other token) := by
  unfold loginPayload
  refine .cons (.refl _) <| .cons (.refl _) <| .cons (.refl _) <| .cons (.refl _) <|
    .cons ?_ <| .cons (.refl _) <| .cons (.refl _) .nil
  exact ⟨rfl, fun hname => absurd rfl hname⟩

theorem SameRequest.refl (errand : Errand) (r : Request) : SameRequest errand r r := by
  unfold SameRequest
  split
  · exact ⟨rfl, rfl, rfl, rfl, rfl, List.forall₂_same.2 fun f _ => .refl f⟩
  · rfl

theorem SameExchange.refl (x : Errand × Exchange) : SameExchange x x :=
  ⟨rfl, List.forall₂_same.2 fun r _ => .refl x.1 r, rfl⟩

/-- A post with another form is the same but for the password if the forms are. -/
theorem Http.Request.sameButPassword_mapForm {r : Request} {form other : Fields}
    (hform : r.form = some form) (hsame : List.Forall₂ SameField form other) :
    r.SameButPassword (r.mapForm fun _ => other) := by
  have hother : (r.mapForm fun _ => other).form = some other := by
    show r.form.map _ = _
    rw [hform, Option.map_some]
  refine ⟨rfl, rfl, rfl, rfl, ?_, ?_⟩
  · rw [Request.contentType?, Request.contentType?, hform, hother]
    rfl
  · rw [Request.body, Request.body, hform, hother]
    show List.Forall₂ SameField (FormBody.decode (FormBody.encode form))
      (FormBody.decode (FormBody.encode other))
    rw [FormBody.decode_encode, FormBody.decode_encode]
    exact hsame

/-- Two posts of the same form but for the password have the same exchange but for the password, and
leave the same behind. -/
theorem sameExchange_of_posting (net : Network) (line : Line) (url : Url) {form other : Fields}
    (hsame : List.Forall₂ SameField form other) :
    SameExchange (.login, (send net line (.posting url form)).1)
        (.login, (send net line (.posting url other)).1) ∧
      (send net line (.posting url form)).2 = (send net line (.posting url other)).2 := by
  have hchange : Request.posting url other = (Request.posting url form).mapForm fun _ => other :=
    rfl
  rw [hchange, send_mapForm]
  refine ⟨⟨rfl, ?_, rfl⟩, rfl⟩
  show List.Forall₂ (SameRequest .login) (send net line (.posting url form)).1.sent
    ((send net line (.posting url form)).1.sent.map (Request.mapForm fun _ => other))
  rw [List.forall₂_map_right_iff, List.forall₂_same]
  intro r hr
  have hplain : ((Request.posting url form).withCookies line.jar net.now).IsPlain := by
    intro hget
    rw [Request.withCookies_method] at hget
    cases hget
  obtain ⟨hget, hpost⟩ := (send_course net line (.posting url form)).form_of_mem_sent hplain hr
  unfold SameRequest
  split
  · next hlogin =>
      obtain ⟨-, hform⟩ := hpost hlogin.2
      rw [Request.withCookies_form] at hform
      exact Request.sameButPassword_mapForm hform hsame
  · next hother =>
      have hmethod : r.method = .get := by
        cases hm : r.method with
        | get => rfl
        | post => exact absurd ⟨rfl, hm⟩ hother
      unfold Request.mapForm
      rw [hget hmethod, Option.map_none, ← hget hmethod]

/-! ### Runs -/

namespace Run

variable {α β : Type} {run other : Run α} {next next' : α → Run β}

theorem SameButPassword.refl (run : Run α) : run.SameButPassword run :=
  fun _ _ => ⟨List.forall₂_same.2 fun x _ => .refl x, rfl, rfl, rfl⟩

/-- Runs that go on alike from the same result are the same but for the password if their parts are.
-/
theorem SameButPassword.bind (hrun : run.SameButPassword other)
    (hnext : ∀ a, (next a).SameButPassword (next' a)) :
    (run >>= next).SameButPassword (other >>= next') := by
  intro net line
  obtain ⟨hexchanges, hevents, hline, hresult⟩ := hrun net line
  change (Run.bind run next net line).SameButPassword (Run.bind other next' net line)
  unfold Run.bind
  dsimp only
  rw [← hresult, ← hline, ← hevents]
  cases (run net line).result with
  | error fault => exact ⟨hexchanges, rfl, rfl, rfl⟩
  | ok a =>
      obtain ⟨hmore, htold, hleft, hend⟩ := hnext a net (run net line).line
      refine ⟨List.rel_append hexchanges hmore, ?_, hleft, hend⟩
      show _ ++ _ = _ ++ _
      rw [htold]

/-- The post of the credentials tells the names of the fields and nothing of their values. -/
theorem post_sameButPassword (url : Url) {form other : Fields}
    (hsame : List.Forall₂ SameField form other) :
    (post .login url form).SameButPassword (post .login url other) := by
  have hnames : form.map (·.1) = other.map (·.1) := by
    rw [← List.forall₂_eq_eq_eq, List.forall₂_map_left_iff, List.forall₂_map_right_iff]
    exact hsame.imp fun _ _ h => h.1
  unfold post
  rw [← hnames]
  refine .bind (.refl _) fun _ => ?_
  intro net line
  obtain ⟨hexchange, hleft⟩ := sameExchange_of_posting net line url hsame
  refine ⟨.cons hexchange .nil, rfl, hleft, ?_⟩
  exact congrArg (fun ending => (Ending.page ending).mapError (RunFault.errand .login))
    hexchange.ending

end Run

/-! ### Sessions -/

namespace Portal

variable {p q : Portal}

theorem SameButPassword.openLogin (h : p.SameButPassword q) :
    p.openLogin.SameButPassword q.openLogin := by
  unfold Portal.openLogin
  rw [h.endpoints]
  exact .refl _

theorem SameButPassword.submit (h : p.SameButPassword q) (token : String) :
    (p.submit token).SameButPassword (q.submit token) := by
  unfold Portal.submit
  rw [h.endpoints, h.username]
  refine .bind (.refl _) fun _ => ?_
  exact Run.post_sameButPassword _ (loginPayload_sameField _ _ _ token)

/-- What the page that came back calls for does not depend on the password. -/
theorem SameButPassword.verdict (h : p.SameButPassword q) : p.verdict = q.verdict := by
  funext url document
  unfold Portal.verdict
  rw [h.mode, h.affiliation]

theorem SameButPassword.finish (h : p.SameButPassword q) (page : Page) :
    (p.finish page).SameButPassword (q.finish page) := by
  unfold Portal.finish Portal.choose
  rw [h.verdict, h.endpoints, h.affiliation]
  exact .refl _

theorem SameButPassword.fetch (h : p.SameButPassword q) : p.fetch.SameButPassword q.fetch := by
  unfold Portal.fetch
  rw [h.endpoints]
  exact .refl _

/-- One step of two sessions is the same but for the password. -/
theorem SameButPassword.step (h : p.SameButPassword q) (step : Step) :
    (p.step step).SameButPassword (q.step step) := by
  cases step with
  | login =>
      refine .bind ?_ fun _ => .refl _
      refine .bind h.openLogin fun token => ?_
      exact .bind (h.submit token) h.finish
  | fetch => exact .bind h.fetch fun _ => .refl _

/-- Two sessions stay the same but for the password: each step leaves both the same cookies and
replies to go on with. -/
theorem SameButPassword.steps (h : p.SameButPassword q) (net : Network) (line : Line)
    (steps : List Step) :
    List.Forall₂ Trace.SameButPassword (p.steps net line steps) (q.steps net line steps) := by
  induction steps generalizing line with
  | nil => exact .nil
  | cons step rest ih =>
      have htrace := h.step step net line
      refine .cons htrace ?_
      rw [← htrace.line]
      exact ih _

end Portal

/-- Settings that are the same but for the password make no portal for the same reason, or portals
that are the same but for the password. -/
theorem Settings.SameButPassword.portal {s t : Settings} (h : s.SameButPassword t) :
    (∃ fault, s.portal = .error fault ∧ t.portal = .error fault) ∨
      ∃ p q, s.portal = .ok p ∧ t.portal = .ok q ∧ p.SameButPassword q := by
  obtain ⟨base, word, affiliation, credentials⟩ := s
  obtain ⟨_, _, _, other⟩ := t
  obtain ⟨rfl, rfl, rfl, husername⟩ := h
  unfold Settings.portal
  dsimp only at husername ⊢
  -- base and mode are read alike, so only the credentials are told apart
  rcases (Endpoints.ofBase (base.getD Endpoints.defaultBase)).mapError Settings.Fault.base with
    fault | endpoints
  · exact .inl ⟨fault, rfl, rfl⟩
  rcases word.elim (Except.ok AffiliationMode.default) fun word =>
    (AffiliationMode.ofName? word).elim (.error Settings.Fault.mode) .ok with fault | mode
  · exact .inl ⟨fault, rfl, rfl⟩
  cases credentials with
  | none =>
      rw [Option.map_none, eq_comm, Option.map_eq_none_iff] at husername
      subst husername
      exact .inl ⟨.credentials, rfl, rfl⟩
  | some c =>
      rw [Option.map_some, eq_comm, Option.map_eq_some_iff] at husername
      obtain ⟨d, rfl, husername⟩ := husername
      exact .inr ⟨_, _, rfl, rfl, rfl, rfl, rfl, husername.symm⟩

/-- Two sessions that are set up alike but for the password go on alike but for the password,
whatever the network does and whatever is done in them. -/
theorem sessions_sameButPassword {s t : Settings} (h : s.SameButPassword t) (net : Network)
    (line : Line) (steps : List Step) :
    (∃ fault, s.portal = .error fault ∧ t.portal = .error fault) ∨
      ∃ p q, s.portal = .ok p ∧ t.portal = .ok q ∧ p.endpoints = q.endpoints ∧
        List.Forall₂ Trace.SameButPassword (p.steps net line steps) (q.steps net line steps) := by
  rcases h.portal with hfault | ⟨p, q, hp, hq, hsame⟩
  · exact .inl hfault
  · exact .inr ⟨p, q, hp, hq, hsame.endpoints, hsame.steps net line steps⟩

/-- Two passwords of one account at a portal that sends the post of the credentials on as it is and
then says nothing. -/
theorem sessions_sameButPassword_of_repeated_post :
    let account (password : String) : Settings :=
      ⟨some "app://campus/sigaa", none, none, some ⟨"ana", password⟩⟩
    let line := Line.fresh [.response ⟨200, [], []⟩,
      .response ⟨307, [("location", "entrar")], []⟩, .silence]
    (account "one").SameButPassword (account "two") ∧
      ∃ p q, (account "one").portal = .ok p ∧ (account "two").portal = .ok q ∧
        p.endpoints = q.endpoints ∧
        List.Forall₂ Trace.SameButPassword
          (p.steps ⟨fun _ => true, 0⟩ line [.login, .fetch])
          (q.steps ⟨fun _ => true, 0⟩ line [.login, .fetch]) := by
  intro account line
  have hsame : (account "one").SameButPassword (account "two") := ⟨rfl, rfl, rfl, rfl⟩
  have hportal : (account "one").portal.isOk = true := by decide +kernel
  refine ⟨hsame, ?_⟩
  rcases sessions_sameButPassword hsame ⟨fun _ => true, 0⟩ line [.login, .fetch] with
    ⟨fault, hfault, -⟩ | hportals
  · rw [hfault] at hportal
    cases hportal
  · exact hportals

end DegreeAudit
