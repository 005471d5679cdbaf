import DegreeAudit.Http.Page
import Mathlib.Data.List.Chain

/-!
# How an exchange goes

The rules of redirection as a relation: which requests may be sent for an opening one, how they end,
and what they leave of the line. `follow_course` says that the client keeps to them, and every
other fact about exchanges is an induction on the relation: that an exchange begins with its opening
request and is short, that each request after the first is where an answer sent the one before it,
and what becomes of the form that was posted.
-/

namespace DegreeAudit.Http

/-- The course of an exchange that may turn elsewhere so many times: from a line and a request to
the exchange and the line after it. -/
inductive Course (net : Network) : Nat → Line → Request → Exchange → Line → Prop where
  | unreached {turns line r} (hreach : net.reaches r.url = false) :
      Course net turns line r ⟨[], .lost r.url⟩ line
  | closed {turns line r} (hreach : net.reaches r.url = true) (hreply : line.reply = .closed) :
      Course net turns line r ⟨[r], .lost r.url⟩ line.afterReply
  | silent {turns line r} (hreach : net.reaches r.url = true) (hreply : line.reply = .silence) :
      Course net turns line r ⟨[r], .unanswered r.url⟩ line.afterReply
  | answered {turns line r answer} (hreach : net.reaches r.url = true)
      (hreply : line.reply = .response answer) (htarget : answer.target? r.url = none) :
      Course net turns line r ⟨[r], .answered r.url answer⟩
        (line.afterReply.takeCookies net r.url answer)
  | turnedTooOften {line r answer target} (hreach : net.reaches r.url = true)
      (hreply : line.reply = .response answer) (htarget : answer.target? r.url = some target) :
      Course net 0 line r ⟨[r], .turnedTooOften target⟩
        (line.afterReply.takeCookies net r.url answer)
  | turned {turns line r answer target x after} (hreach : net.reaches r.url = true)
      (hreply : line.reply = .response answer) (htarget : answer.target? r.url = some target)
      (hrest : Course net turns (line.afterReply.takeCookies net r.url answer)
        ((r.redirected answer target).withCookies
          (line.afterReply.takeCookies net r.url answer).jar net.now) x after) :
      Course net (turns + 1) line r ⟨r :: x.sent, x.ending⟩ after

/-- The client keeps to the rules of redirection. -/
theorem follow_course (net : Network) (turns : Nat) (line : Line) (r : Request) :
    Course net turns line r (follow net turns line r).1 (follow net turns line r).2 := by
  fun_induction follow net turns line r with
  | case1 _ _ _ hreach => exact .unreached (by simpa using hreach)
  | case2 _ _ _ hreach hreply => exact .closed (by simpa using hreach) hreply
  | case3 _ _ _ hreach hreply => exact .silent (by simpa using hreach) hreply
  | case4 _ _ _ hreach _ hreply _ htarget =>
      exact .answered (by simpa using hreach) hreply htarget
  | case5 _ _ hreach _ hreply _ _ htarget =>
      exact .turnedTooOften (by simpa using hreach) hreply htarget
  | case6 _ _ hreach _ hreply _ _ htarget _ _ _ _ hrest ih =>
      rw [hrest] at ih
      exact .turned (by simpa using hreach) hreply htarget ih

/-- The rules of redirection leave no choice. -/
theorem follow_eq_of_course {net : Network} {turns : Nat} {line after : Line} {r : Request}
    {x : Exchange} (h : Course net turns line r x after) :
    follow net turns line r = (x, after) := by
  induction h with
  | unreached hreach =>
      rw [follow.eq_def]
      simp [hreach]
  | closed hreach hreply | silent hreach hreply =>
      rw [follow.eq_def]
      simp [hreach, hreply]
  | answered hreach hreply htarget | turnedTooOften hreach hreply htarget =>
      rw [follow.eq_def]
      simp [hreach, hreply, htarget]
  | turned hreach hreply htarget _ ih =>
      rw [follow.eq_def]
      simp [hreach, hreply, htarget, ih]

/-- `send` keeps to the rules with all its turns ahead. -/
theorem send_course (net : Network) (line : Line) (r : Request) :
    Course net maxTurns line (r.withCookies line.jar net.now)
      (send net line r).1 (send net line r).2 :=
  follow_course net maxTurns line (r.withCookies line.jar net.now)

/-- A request that is sent over a line opens an exchange, which leaves another line and ends in a
page or a problem. -/
structure Yields (net : Network) (line : Line) (r : Request) (x : Exchange) (after : Line)
    (result : Except Problem Page) : Prop where
  sent : send net line r = (x, after)
  ended : x.ending.page = result

/-- Whatever is sent ends in a problem or a page. -/
theorem exists_yields (net : Network) (line : Line) (r : Request) :
    ∃ x after, (∃ problem, Yields net line r x after (.error problem)) ∨
      ∃ page, Yields net line r x after (.ok page) := by
  refine ⟨(send net line r).1, (send net line r).2, ?_⟩
  cases hended : (send net line r).1.ending.page with
  | error problem => exact .inl ⟨problem, rfl, hended⟩
  | ok page => exact .inr ⟨page, rfl, hended⟩

theorem Yields.course {net : Network} {line after : Line} {r : Request} {x : Exchange}
    {result : Except Problem Page} (h : Yields net line r x after result) :
    Course net maxTurns line (r.withCookies line.jar net.now) x after := by
  have hcourse := send_course net line r
  rwa [h.sent] at hcourse

/-- One request follows another when an answer to the first points elsewhere. -/
def Request.LeadsTo (net : Network) (r next : Request) : Prop :=
  ∃ answer target jar, answer.target? r.url = some target ∧
    next = (r.redirected answer target).withCookies jar net.now

/-- The next reply is one of those that are left, or that of a portal with nothing more to say. -/
theorem Line.mem_replies_of_reply {line : Line} {answer : Response}
    (h : line.reply = .response answer) : .response answer ∈ line.replies ∨ answer = .notFound := by
  unfold Line.reply at h
  cases hreplies : line.replies with
  | nil =>
      rw [hreplies] at h
      exact .inr (Reply.response.inj h).symm
  | cons reply rest =>
      rw [hreplies] at h
      exact .inl (h ▸ List.mem_cons_self)

namespace Course

variable {net : Network} {turns : Nat} {line after : Line} {r : Request} {x : Exchange}

/-- Where nothing is reached, nothing is sent. -/
theorem sent_eq_nil (h : Course net turns line r x after) (hreach : net.reaches r.url = false) :
    x = ⟨[], .lost r.url⟩ := by
  cases h with
  | unreached => rfl
  | _ => simp_all

/-- An exchange begins with its opening request. -/
theorem exists_sent_eq_cons (h : Course net turns line r x after)
    (hreach : net.reaches r.url = true) : ∃ more, x.sent = r :: more := by
  cases h with
  | unreached h => simp_all
  | closed | silent | answered | turnedTooOften => exact ⟨[], rfl⟩
  | turned => exact ⟨_, rfl⟩

/-- An exchange turns elsewhere no oftener than it may. -/
theorem length_sent_le (h : Course net turns line r x after) : x.sent.length ≤ turns + 1 := by
  induction h with
  | unreached => exact Nat.zero_le _
  | closed | silent | answered | turnedTooOften => exact Nat.le_add_left 1 _
  | turned _ _ _ _ ih => exact Nat.succ_le_succ ih

/-- Each request after the first is where an answer sent the one before it. -/
theorem isChain_sent (h : Course net turns line r x after) :
    x.sent.IsChain (Request.LeadsTo net) := by
  induction h with
  | unreached => exact .nil
  | closed | silent | answered | turnedTooOften => exact .singleton _
  | @turned turns line r answer target x after hreach hreply htarget hrest ih =>
      show (r :: x.sent).IsChain _
      cases hnext : net.reaches ((r.redirected answer target).withCookies
          (line.afterReply.takeCookies net r.url answer).jar net.now).url with
      | false =>
          rw [hrest.sent_eq_nil hnext]
          exact .singleton _
      | true =>
          obtain ⟨more, hmore⟩ := hrest.exists_sent_eq_cons hnext
          rw [hmore] at ih ⊢
          exact .cons_cons ⟨answer, target, _, htarget, rfl⟩ ih

/-- The answer at the end of an exchange is one of the replies that were left. -/
theorem mem_replies_of_answered (h : Course net turns line r x after) {url : Url}
    {answer : Response} (hending : x.ending = .answered url answer) :
    .response answer ∈ line.replies ∨ answer = .notFound := by
  induction h with
  | unreached | closed | silent | turnedTooOften => cases hending
  | answered _ hreply _ =>
      cases hending
      exact Line.mem_replies_of_reply hreply
  | turned _ _ _ _ ih =>
      rcases ih hending with hmem | hfound
      · exact .inl (List.mem_of_mem_tail hmem)
      · exact .inr hfound

/-- An exchange uses up replies from the front. -/
theorem replies_suffix (h : Course net turns line r x after) : after.replies <:+ line.replies := by
  induction h with
  | unreached => exact List.suffix_refl _
  | closed | silent | answered | turnedTooOften => exact List.tail_suffix _
  | turned _ _ _ _ ih => exact ih.trans (List.tail_suffix _)

end Course

/-! ### The form on its way

No answer looks at the form: a client that posts another one sends the same requests with the other
form in them. Where an answer turns the post into a request for a page, the form is dropped.
-/

/-- The request with its form, if it has one, changed. -/
def Request.mapForm (change : Fields → Fields) (r : Request) : Request :=
  { r with form := r.form.map change }

/-- The exchange with the form changed in every request. -/
def Exchange.mapForms (change : Fields → Fields) (x : Exchange) : Exchange :=
  { x with sent := x.sent.map (Request.mapForm change) }

variable {net : Network} {turns : Nat} {line after : Line} {r : Request} {x : Exchange}
  (change : Fields → Fields)

theorem Request.withCookies_mapForm (r : Request) (jar : Jar) (now : Instant) :
    (r.mapForm change).withCookies jar now = (r.withCookies jar now).mapForm change := by
  unfold Request.withCookies Request.mapForm
  dsimp only
  split <;> rfl

theorem Request.redirected_mapForm (r : Request) (answer : Response) (target : Url) :
    (r.mapForm change).redirected answer target = (r.redirected answer target).mapForm change := by
  unfold Request.redirected Request.mapForm
  dsimp only
  split <;> rfl

/-- A changed form changes the course of an exchange nowhere but in its requests. -/
theorem Course.mapForms (h : Course net turns line r x after) :
    Course net turns line (r.mapForm change) (x.mapForms change) after := by
  induction h with
  | unreached hreach => exact .unreached hreach
  | closed hreach hreply => exact .closed hreach hreply
  | silent hreach hreply => exact .silent hreach hreply
  | answered hreach hreply htarget => exact .answered hreach hreply htarget
  | turnedTooOften hreach hreply htarget => exact .turnedTooOften hreach hreply htarget
  | turned hreach hreply htarget _ ih =>
      refine .turned (x := Exchange.mapForms change _) hreach hreply htarget ?_
      rw [Request.redirected_mapForm, Request.withCookies_mapForm]
      exact ih

theorem send_mapForm (net : Network) (line : Line) (r : Request) :
    send net line (r.mapForm change)
      = ((send net line r).1.mapForms change, (send net line r).2) := by
  rw [send, Request.withCookies_mapForm]
  exact follow_eq_of_course ((send_course net line r).mapForms change)

/-- Whoever asks for a page sends no form. -/
def Request.IsPlain (r : Request) : Prop := r.method = .get → r.form = none

/-- The same request but for its address, its cookies and where it came from. -/
def Request.Repeats (r q : Request) : Prop := r.method = .post ∧ q.form = r.form

@[simp] theorem Request.withCookies_url (r : Request) (jar : Jar) (now : Instant) :
    (r.withCookies jar now).url = r.url := by
  unfold Request.withCookies
  dsimp only
  split <;> rfl

/-- An answer that sends the request nowhere else ends the exchange at once. -/
theorem Yields.of_answer {net : Network} {line : Line} {r : Request} {answer : Response}
    (hreach : net.reaches r.url = true) (hreply : line.reply = .response answer)
    (htarget : answer.target? r.url = none) (hstatus : answer.status.isError = false) :
    Yields net line r ⟨[r.withCookies line.jar net.now], .answered r.url answer⟩
      (line.afterReply.takeCookies net r.url answer) (.ok ⟨r.url, answer.text⟩) := by
  rw [← Request.withCookies_url r line.jar net.now] at hreach htarget
  have hcourse : Course net maxTurns line (r.withCookies line.jar net.now) _ _ :=
    .answered hreach hreply htarget
  rw [Request.withCookies_url] at hcourse
  refine ⟨follow_eq_of_course hcourse, ?_⟩
  rw [Ending.page, hstatus]
  rfl

@[simp] theorem Request.withCookies_method (r : Request) (jar : Jar) (now : Instant) :
    (r.withCookies jar now).method = r.method := by
  unfold Request.withCookies
  dsimp only
  split <;> rfl

@[simp] theorem Request.withCookies_form (r : Request) (jar : Jar) (now : Instant) :
    (r.withCookies jar now).form = r.form := by
  unfold Request.withCookies
  dsimp only
  split <;> rfl

theorem Request.isPlain_redirected {r : Request} (hr : r.IsPlain) (answer : Response)
    (target : Url) : (r.redirected answer target).IsPlain := by
  unfold Request.IsPlain Request.redirected
  dsimp only
  split
  · exact hr
  · exact fun _ => rfl

theorem Request.repeats_of_redirected {r : Request} {answer : Response} {target : Url}
    (h : (r.redirected answer target).method = .post) :
    r.Repeats (r.redirected answer target) := by
  unfold Request.redirected at h ⊢
  dsimp only at h ⊢
  split at h
  · next hkeeps => exact ⟨h, if_pos hkeeps⟩
  · cases h

/-- Every post of an exchange carries the form that the exchange was opened with, and no other
request carries any. -/
theorem Course.form_of_mem_sent (h : Course net turns line r x after) (hr : r.IsPlain)
    {q : Request} (hq : q ∈ x.sent) : q.IsPlain ∧ (q.method = .post → r.Repeats q) := by
  induction h with
  | unreached => cases hq
  | closed | silent | answered | turnedTooOften =>
      rw [List.mem_singleton] at hq
      subst hq
      exact ⟨hr, fun hpost => ⟨hpost, rfl⟩⟩
  | @turned turns line r answer target x after _ _ _ _ ih =>
      rcases List.mem_cons.1 hq with rfl | hq
      · exact ⟨hr, fun hpost => ⟨hpost, rfl⟩⟩
      · have hnext := Request.isPlain_redirected hr answer target
        obtain ⟨hplain, hrepeat⟩ := ih (by simpa [Request.IsPlain] using hnext) hq
        refine ⟨hplain, fun hpost => ?_⟩
        obtain ⟨hmethod, hform⟩ := hrepeat hpost
        rw [Request.withCookies_method] at hmethod
        obtain ⟨hr, hkept⟩ := Request.repeats_of_redirected hmethod
        exact ⟨hr, by rw [hform, Request.withCookies_form, hkept]⟩

end DegreeAudit.Http
