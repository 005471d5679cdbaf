import DegreeAudit.Portal.Session

/-!
# What the steps of a session are made of

Whatever is done in a session is put together from a few things: an event is told, a request for a
page of the portal is sent, a run goes on with what another gave, or it stops at a fault. `MadeOf`
says so of a run and `step_madeOf` of every step. What holds of those few things and passes from two
runs to the one that goes on from the first to the second therefore holds of every step, by one
induction on `MadeOf`.
-/

namespace DegreeAudit

open Http

/-- The run tells events and sends requests of a kind, and does nothing else. -/
inductive Run.MadeOf (asks : Request → Prop) : {α : Type} → Run α → Prop where
  | pure {α : Type} (a : α) : MadeOf asks (Pure.pure a)
  | stop {α : Type} (fault : RunFault) : MadeOf asks (Run.stop fault : Run α)
  | tell (event : Event) : MadeOf asks (Run.tell event)
  | ask (errand : Errand) {request : Request} (hasked : asks request) :
      MadeOf asks (Run.ask errand request)
  | bind {α β : Type} {run : Run α} {next : α → Run β} (hrun : MadeOf asks run)
      (hnext : ∀ a, MadeOf asks (next a)) : MadeOf asks (run >>= next)

def Endpoints.HasPage (e : Endpoints) (url : Url) : Prop :=
  url = e.login ∨ url = e.affiliations ∨ url = e.summary ∨ url = e.data

/-- The request is for one of the pages, or posts a form to one. -/
def Endpoints.Asks (e : Endpoints) (request : Request) : Prop :=
  ∃ url, e.HasPage url ∧ (request = .getting url ∨ ∃ form, request = .posting url form)

namespace Portal

variable (p : Portal)

theorem get_madeOf (errand : Errand) {url : Url} (hpage : p.endpoints.HasPage url) :
    (Run.get errand url).MadeOf p.endpoints.Asks :=
  .ask errand ⟨url, hpage, .inl rfl⟩

theorem post_madeOf (errand : Errand) {url : Url} (hpage : p.endpoints.HasPage url)
    (form : Fields) : (Run.post errand url form).MadeOf p.endpoints.Asks :=
  .bind (.tell _) fun _ => .ask errand ⟨url, hpage, .inr ⟨form, rfl⟩⟩

theorem openLogin_madeOf : p.openLogin.MadeOf p.endpoints.Asks := by
  apply Run.MadeOf.bind (.tell _)
  intro _
  apply (p.get_madeOf .loginPage (.inl rfl)).bind
  intro page
  unfold tokenOr
  cases page.document.viewState? with
  | some token => exact .pure token
  | none => exact .bind (.tell _) fun _ => .pure _

theorem submit_madeOf (token : String) : (p.submit token).MadeOf p.endpoints.Asks :=
  .bind (.tell _) fun _ => p.post_madeOf .login (.inl rfl) _

theorem choose_madeOf (form : AffiliationForm) : (p.choose form).MadeOf p.endpoints.Asks := by
  have hpost := p.post_madeOf .choice (.inr (.inl rfl)) (form.payload p.affiliation)
  have hchosen (_ : Page) : (Pure.pure ⟨true, form.choices⟩ : Run LoginOutcome).MadeOf
      p.endpoints.Asks := .pure _
  unfold choose
  by_cases hnone : form.viewState.isNone
  · rw [if_pos hnone]
    exact .bind (.tell _) fun _ => .bind (.tell _) fun _ => .bind hpost hchosen
  · rw [if_neg hnone]
    exact .bind (.tell _) fun _ => .bind hpost hchosen

theorem finish_madeOf (page : Page) : (p.finish page).MadeOf p.endpoints.Asks := by
  unfold finish
  cases p.verdict page.url page.document with
  | error refusal => exact .stop _
  | ok called =>
      cases called with
      | none => exact .bind (.tell _) fun _ => .pure _
      | some form => exact p.choose_madeOf form

theorem login_madeOf : p.login.MadeOf p.endpoints.Asks :=
  .bind p.openLogin_madeOf fun token => .bind (p.submit_madeOf token) p.finish_madeOf

theorem fetch_madeOf : p.fetch.MadeOf p.endpoints.Asks := by
  have hread (page : Page) : (Run.ofExcept ((Curriculum.ofBody page.text).mapError
      RunFault.answer)).MadeOf p.endpoints.Asks := by
    cases (Curriculum.ofBody page.text).mapError RunFault.answer with
    | error fault => exact .stop fault
    | ok curriculum => exact .pure curriculum
  apply Run.MadeOf.bind (.tell _)
  intro _
  apply (p.get_madeOf .summary (.inr (.inr (.inl rfl)))).bind
  intro _
  apply Run.MadeOf.bind (.tell _)
  intro _
  apply (p.get_madeOf .data (.inr (.inr (.inr rfl)))).bind
  intro page
  apply (hread page).bind
  intro _
  exact .bind (.tell _) fun _ => .pure _

/-- A step tells events and asks for pages of the portal, and does nothing else. -/
theorem step_madeOf (step : Step) : (p.step step).MadeOf p.endpoints.Asks := by
  cases step with
  | login => exact .bind p.login_madeOf fun _ => .pure _
  | fetch => exact .bind p.fetch_madeOf fun _ => .pure _

end Portal

end DegreeAudit
