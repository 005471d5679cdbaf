import DegreeAudit.Proofs.Http.Exchange
import DegreeAudit.Proofs.Portal.Parts

/-!
# What one step leaves to the next

Steps of a session have nothing in common but cookies and the replies that are still to come. If the
cookies are taken out of everything that is seen of a session, then what is left is the same as if
each step had been done in a session of its own, which begins without cookies and with the replies
that the step before it left: `steps_withoutCookies`.

No decision of the client looks at a cookie. So a course of an exchange is a course also for other
cookies, and nothing that a step is made of takes notice of them.
-/

namespace DegreeAudit

open Http

/-! ### What is seen without cookies -/

def Http.Request.withoutCookies (r : Request) : Request := { r with cookies := [] }

def Http.Exchange.withoutCookies (x : Exchange) : Exchange :=
  { x with sent := x.sent.map Request.withoutCookies }

/-- All that happened, but for the cookies that were sent and kept. -/
def Trace.withoutCookies {α : Type} (t : Trace α) : Trace α where
  exchanges := t.exchanges.map fun x => (x.1, x.2.withoutCookies)
  events := t.events
  line := .fresh t.line.replies
  result := t.result

/-- The same steps, each in a session of its own that begins with the replies that are left. -/
def Portal.separately (p : Portal) (net : Network) (replies : List Reply) :
    List Step → List (Trace StepOutcome)
  | [] => []
  | step :: rest =>
    let trace := p.step step net (.fresh replies)
    trace :: p.separately net trace.line.replies rest

/-! ### Exchanges -/

section

variable {net : Network} {turns : Nat} {line after other : Line} {r q : Request} {x : Exchange}

theorem Http.Request.url_of_withoutCookies (h : q.withoutCookies = r.withoutCookies) :
    q.url = r.url := by
  have hurl := congrArg Request.url h
  exact hurl

@[simp] theorem Http.Request.withCookies_withoutCookies (r : Request) (jar : Jar)
    (now : Instant) : (r.withCookies jar now).withoutCookies = r.withoutCookies := by
  unfold Request.withCookies Request.withoutCookies
  dsimp only
  split <;> rfl

/-- An answer sends both requests to the same place in the same way. -/
theorem Http.Request.redirected_withoutCookies (h : q.withoutCookies = r.withoutCookies)
    (answer : Response) (target : Url) :
    (q.redirected answer target).withoutCookies = (r.redirected answer target).withoutCookies := by
  obtain ⟨method, url, referer, cookies, form⟩ := r
  obtain ⟨_, _, _, others, _⟩ := q
  cases h
  rfl

theorem Http.Exchange.cons_withoutCookies {rest others : List Request} (ending : Ending)
    (hrequest : q.withoutCookies = r.withoutCookies)
    (hrest : others.map Request.withoutCookies = rest.map Request.withoutCookies) :
    (⟨q :: others, ending⟩ : Exchange).withoutCookies =
      (⟨r :: rest, ending⟩ : Exchange).withoutCookies := by
  unfold Exchange.withoutCookies
  rw [List.map_cons, List.map_cons, hrequest, hrest]

theorem Http.Line.reply_congr (h : other.replies = line.replies) : other.reply = line.reply := by
  unfold Line.reply
  rw [h]

theorem Http.Line.afterReply_congr (h : other.replies = line.replies) :
    other.afterReply.replies = line.afterReply.replies := by
  show other.replies.tail = line.replies.tail
  rw [h]

/-- Other cookies leave the course of an exchange as it is. -/
theorem Http.Course.withoutCookies (h : Course net turns line r x after)
    (hline : other.replies = line.replies) (hrequest : q.withoutCookies = r.withoutCookies) :
    ∃ y later, Course net turns other q y later ∧ y.withoutCookies = x.withoutCookies ∧
      later.replies = after.replies := by
  induction h generalizing other q with
  | unreached hreach =>
      rw [← Request.url_of_withoutCookies hrequest] at hreach ⊢
      exact ⟨_, other, .unreached hreach, rfl, hline⟩
  | closed hreach hreply =>
      rw [← Request.url_of_withoutCookies hrequest] at hreach ⊢
      rw [← Line.reply_congr hline] at hreply
      exact ⟨_, _, .closed hreach hreply, Exchange.cons_withoutCookies _ hrequest rfl,
        Line.afterReply_congr hline⟩
  | silent hreach hreply =>
      rw [← Request.url_of_withoutCookies hrequest] at hreach ⊢
      rw [← Line.reply_congr hline] at hreply
      exact ⟨_, _, .silent hreach hreply, Exchange.cons_withoutCookies _ hrequest rfl,
        Line.afterReply_congr hline⟩
  | answered hreach hreply htarget =>
      rw [← Request.url_of_withoutCookies hrequest] at hreach htarget ⊢
      rw [← Line.reply_congr hline] at hreply
      exact ⟨_, _, .answered hreach hreply htarget, Exchange.cons_withoutCookies _ hrequest rfl,
        Line.afterReply_congr hline⟩
  | turnedTooOften hreach hreply htarget =>
      rw [← Request.url_of_withoutCookies hrequest] at hreach htarget ⊢
      rw [← Line.reply_congr hline] at hreply
      exact ⟨_, _, .turnedTooOften hreach hreply htarget,
        Exchange.cons_withoutCookies _ hrequest rfl, Line.afterReply_congr hline⟩
  | @turned turns line r answer target x after hreach hreply htarget _ ih =>
      rw [← Request.url_of_withoutCookies hrequest] at hreach htarget
      rw [← Line.reply_congr hline] at hreply
      have hnext : ((q.redirected answer target).withCookies
          (other.afterReply.takeCookies net q.url answer).jar net.now).withoutCookies =
          ((r.redirected answer target).withCookies
            (line.afterReply.takeCookies net r.url answer).jar net.now).withoutCookies := by
        rw [Request.withCookies_withoutCookies, Request.withCookies_withoutCookies]
        exact Request.redirected_withoutCookies hrequest answer target
      have hleft : (other.afterReply.takeCookies net q.url answer).replies =
          (line.afterReply.takeCookies net r.url answer).replies := Line.afterReply_congr hline
      obtain ⟨y, later, hcourse, hsame, hend⟩ := ih hleft hnext
      obtain ⟨hsent, hending⟩ := Exchange.mk.inj hsame
      refine ⟨_, later, .turned hreach hreply htarget hcourse, ?_, hend⟩
      rw [hending]
      exact Exchange.cons_withoutCookies _ hrequest hsent

end

/-- What is sent over lines with the same replies is the same but for the cookies. -/
theorem Http.send_withoutCookies (net : Network) {line other : Line}
    (h : other.replies = line.replies) (r : Request) :
    (send net other r).1.withoutCookies = (send net line r).1.withoutCookies ∧
      (send net other r).2.replies = (send net line r).2.replies := by
  obtain ⟨y, later, hcourse, hsame, hleft⟩ :=
    (send_course net line r).withoutCookies h (q := r.withCookies other.jar net.now) (by simp)
  rw [send, follow_eq_of_course hcourse]
  exact ⟨hsame, hleft⟩

/-! ### Runs -/

theorem Trace.withoutCookies_eq_iff {α : Type} {t u : Trace α} :
    t.withoutCookies = u.withoutCookies ↔
      t.exchanges.map (fun x => (x.1, x.2.withoutCookies))
          = u.exchanges.map (fun x => (x.1, x.2.withoutCookies)) ∧
        t.events = u.events ∧ t.line.replies = u.line.replies ∧ t.result = u.result := by
  unfold Trace.withoutCookies Line.fresh
  rw [Trace.mk.injEq, Line.mk.injEq]
  simp only [true_and]

namespace Run

variable {α β : Type} {run : Run α} {next : α → Run β}

/-- The run goes the same way whatever cookies there are. -/
def IgnoresCookies (run : Run α) : Prop :=
  ∀ net line other, other.replies = line.replies →
    (run net other).withoutCookies = (run net line).withoutCookies

theorem ignoresCookies_pure (a : α) : (Pure.pure a : Run α).IgnoresCookies :=
  fun _ _ _ h => Trace.withoutCookies_eq_iff.2 ⟨rfl, rfl, h, rfl⟩

theorem ignoresCookies_stop (fault : RunFault) : (stop fault : Run α).IgnoresCookies :=
  fun _ _ _ h => Trace.withoutCookies_eq_iff.2 ⟨rfl, rfl, h, rfl⟩

theorem ignoresCookies_tell (event : Event) : (tell event).IgnoresCookies :=
  fun _ _ _ h => Trace.withoutCookies_eq_iff.2 ⟨rfl, rfl, h, rfl⟩

theorem ignoresCookies_ask (errand : Errand) (request : Request) :
    (ask errand request).IgnoresCookies := by
  intro net line other h
  obtain ⟨hsame, hleft⟩ := send_withoutCookies net h request
  obtain ⟨-, hending⟩ := Exchange.mk.inj hsame
  rw [Trace.withoutCookies_eq_iff]
  unfold ask
  dsimp only
  rw [List.map_singleton, List.map_singleton, hsame, hending]
  exact ⟨rfl, rfl, hleft, rfl⟩

/-- A run of two parts takes no notice of cookies if neither part does. -/
theorem IgnoresCookies.bind (hrun : run.IgnoresCookies) (hnext : ∀ a, (next a).IgnoresCookies) :
    (run >>= next).IgnoresCookies := by
  intro net line other h
  obtain ⟨hexchanges, hevents, hleft, hresult⟩ :=
    Trace.withoutCookies_eq_iff.1 (hrun net line other h)
  change (Run.bind run next net other).withoutCookies = (Run.bind run next net line).withoutCookies
  unfold Run.bind
  dsimp only
  rw [hresult, Trace.withoutCookies_eq_iff]
  cases (run net line).result with
  | error fault => exact ⟨hexchanges, hevents, hleft, rfl⟩
  | ok a =>
      obtain ⟨hmore, htold, hend, hdone⟩ :=
        Trace.withoutCookies_eq_iff.1 (hnext a net (run net line).line _ hleft)
      refine ⟨?_, ?_, hend, hdone⟩
      · show List.map _ (_ ++ _) = List.map _ (_ ++ _)
        rw [List.map_append, List.map_append, hexchanges, hmore]
      · show _ ++ _ = _ ++ _
        rw [hevents, htold]

/-- Nothing that a run is made of takes notice of cookies. -/
theorem MadeOf.ignoresCookies {asks : Request → Prop} (h : run.MadeOf asks) :
    run.IgnoresCookies := by
  induction h with
  | pure a => exact ignoresCookies_pure a
  | stop fault => exact ignoresCookies_stop fault
  | tell event => exact ignoresCookies_tell event
  | ask errand _ => exact ignoresCookies_ask errand _
  | bind _ _ hrun hnext => exact hrun.bind hnext

end Run

/-! ### Sessions -/

namespace Portal

/-- But for cookies, the steps of a session are the same as each of them in a session of its own
that begins with the replies that are left. -/
theorem steps_withoutCookies (p : Portal) (net : Network) (line : Line) (steps : List Step) :
    (p.steps net line steps).map Trace.withoutCookies =
      (p.separately net line.replies steps).map Trace.withoutCookies := by
  induction steps generalizing line with
  | nil => rfl
  | cons step rest ih =>
      have hsame := (p.step_madeOf step).ignoresCookies net (.fresh line.replies) line rfl
      obtain ⟨-, -, hleft, -⟩ := Trace.withoutCookies_eq_iff.1 hsame
      unfold steps separately
      dsimp only
      rw [List.map_cons, List.map_cons, hsame, ih, hleft]

end Portal

end DegreeAudit
