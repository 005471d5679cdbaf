import DegreeAudit.Proofs.Http.Exchange

/-!
# Bodies on the way

Where a request goes on to, what it carries and which cookies are kept is decided by the status and
the headers of the replies. So an exchange whose replies are exchanged for others with the same
status and headers sends the same requests, leaves the same line and ends alike but for the body of
its last answer: `send_of_sameButBodies`. The replies behind those that it takes stay as they are.
-/

namespace DegreeAudit.Http

def Response.withoutBody (r : Response) : Response := { r with body := [] }

def Reply.withoutBody : Reply → Reply
  | response r => response r.withoutBody
  | closed => closed
  | silence => silence

/-- The ending as it would be without the body of the answer. -/
def Ending.withoutBody : Ending → Ending
  | answered url r => answered url r.withoutBody
  | lost url => lost url
  | unanswered url => unanswered url
  | turnedTooOften target => turnedTooOften target

/-- The replies are the same but for the bodies of the first `n`. -/
structure SameButBodies (n : Nat) (replies others : List Reply) : Prop where
  front : (others.take n).map Reply.withoutBody = (replies.take n).map Reply.withoutBody
  rest : others.drop n = replies.drop n

variable {net : Network} {turns : Nat} {line after : Line} {r : Request} {x : Exchange}
  {a b : Response} {replies others : List Reply} {n : Nat}

/-! ### Answers -/

theorem Response.status_of_withoutBody (h : a.withoutBody = b.withoutBody) :
    a.status = b.status := by
  have hstatus := congrArg Response.status h
  exact hstatus

theorem Response.headers_of_withoutBody (h : a.withoutBody = b.withoutBody) :
    a.headers = b.headers := by
  have hheaders := congrArg Response.headers h
  exact hheaders

theorem Response.target?_of_withoutBody (h : a.withoutBody = b.withoutBody) (url : Url) :
    a.target? url = b.target? url := by
  rw [target?, target?, isRedirect, isRedirect, status_of_withoutBody h, headers_of_withoutBody h]

theorem Request.redirected_of_withoutBody (h : a.withoutBody = b.withoutBody) (target : Url) :
    r.redirected a target = r.redirected b target := by
  rw [Request.redirected, Request.redirected, Response.keepsRequest, Response.keepsRequest,
    Response.status_of_withoutBody h]

theorem Reply.exists_response_of_withoutBody {reply : Reply}
    (h : reply.withoutBody = (Reply.response a).withoutBody) :
    ∃ b : Response, reply = .response b ∧ b.withoutBody = a.withoutBody := by
  cases reply with
  | response b => exact ⟨b, rfl, Reply.response.inj h⟩
  | closed | silence => cases h

theorem Reply.eq_of_withoutBody {reply other : Reply} (h : reply.withoutBody = other.withoutBody)
    (hbodiless : ∀ a, other ≠ .response a) : reply = other := by
  cases other with
  | response a => exact absurd rfl (hbodiless a)
  | closed | silence =>
      cases reply with
      | response => cases h
      | closed | silence =>
          cases h
          try rfl

/-- A page is had from both endings or from neither, and then for the same problem. -/
theorem Ending.page_of_withoutBody {e d : Ending} (h : e.withoutBody = d.withoutBody) :
    e.page.map (fun _ => ()) = d.page.map fun _ => () := by
  cases d with
  | answered url b =>
      cases e with
      | answered url' a =>
          obtain ⟨rfl, hanswer⟩ := Ending.answered.inj h
          rw [page, page, Response.status_of_withoutBody hanswer]
          split <;> rfl
      | lost | unanswered | turnedTooOften => cases h
  | lost | unanswered | turnedTooOften =>
      cases e with
      | answered => cases h
      | lost | unanswered | turnedTooOften =>
          cases h
          try rfl

/-! ### Exchanges -/

def Line.withReplies (line : Line) (replies : List Reply) : Line := { line with replies }

theorem Line.reply_withReplies
    (h : (others.take (n + 1)).map Reply.withoutBody
      = (line.replies.take (n + 1)).map Reply.withoutBody) :
    (line.withReplies others).reply.withoutBody = line.reply.withoutBody := by
  obtain ⟨_, replies⟩ := line
  cases others <;> cases replies <;> simp_all [Line.reply, Line.withReplies]

theorem Line.afterReply_withReplies (line : Line) (others : List Reply) :
    (line.withReplies others).afterReply = line.withReplies (others.drop 1) := by
  rw [List.drop_one]
  rfl

/-- The cookies that an answer leaves are named in its headers. -/
theorem Line.takeCookies_withReplies (h : b.withoutBody = a.withoutBody) (url : Url) :
    (line.withReplies others).afterReply.takeCookies net url b
      = (line.afterReply.takeCookies net url a).withReplies (others.drop 1) := by
  rw [Line.afterReply_withReplies, takeCookies, takeCookies, Response.cookieTexts,
    Response.cookieTexts, Response.headers_of_withoutBody h]
  rfl

/-- Replies with other bodies lead the exchange to the same line, as far as they are taken. -/
theorem Course.exists_of_front (h : Course net turns line r x after)
    (hsame : (others.take x.sent.length).map Reply.withoutBody
      = (line.replies.take x.sent.length).map Reply.withoutBody) :
    ∃ ending, ending.withoutBody = x.ending.withoutBody ∧
      Course net turns (line.withReplies others) r ⟨x.sent, ending⟩
        (after.withReplies (others.drop x.sent.length)) := by
  induction h generalizing others with
  | unreached hreach => exact ⟨_, rfl, .unreached hreach⟩
  -- what has no body is the same reply
  | @closed turns line r hreach hreply =>
      have hother := Reply.eq_of_withoutBody (Line.reply_withReplies hsame) (by simp [hreply])
      refine ⟨_, rfl, ?_⟩
      show Course net turns (line.withReplies others) r _ (line.withReplies (others.drop 1))
      rw [← Line.afterReply_withReplies]
      exact .closed hreach (hother.trans hreply)
  | @silent turns line r hreach hreply =>
      have hother := Reply.eq_of_withoutBody (Line.reply_withReplies hsame) (by simp [hreply])
      refine ⟨_, rfl, ?_⟩
      show Course net turns (line.withReplies others) r _ (line.withReplies (others.drop 1))
      rw [← Line.afterReply_withReplies]
      exact .silent hreach (hother.trans hreply)
  -- an answer points to the same place, and the cookies are taken from the same headers
  | @answered turns line r answer hreach hreply htarget =>
      have hsame := Line.reply_withReplies hsame
      rw [hreply] at hsame
      obtain ⟨b, hother, hbody⟩ := Reply.exists_response_of_withoutBody hsame
      rw [← Response.target?_of_withoutBody hbody] at htarget
      refine ⟨.answered r.url b, congrArg (Ending.answered r.url) hbody, ?_⟩
      show Course net turns _ _ _ (Line.withReplies _ (others.drop 1))
      rw [← Line.takeCookies_withReplies hbody]
      exact .answered hreach hother htarget
  | @turnedTooOften line r answer target hreach hreply htarget =>
      have hsame := Line.reply_withReplies hsame
      rw [hreply] at hsame
      obtain ⟨b, hother, hbody⟩ := Reply.exists_response_of_withoutBody hsame
      rw [← Response.target?_of_withoutBody hbody] at htarget
      refine ⟨.turnedTooOften target, rfl, ?_⟩
      show Course net 0 _ _ _ (Line.withReplies _ (others.drop 1))
      rw [← Line.takeCookies_withReplies hbody]
      exact .turnedTooOften hreach hother htarget
  | @turned turns line r answer target x after hreach hreply htarget _ ih =>
      have hrest := congrArg (List.drop 1) hsame
      rw [← List.map_drop, ← List.map_drop, List.drop_take, List.drop_take, List.drop_one,
        List.drop_one] at hrest
      obtain ⟨ending, hended, hcourse⟩ := ih hrest
      have hsame := Line.reply_withReplies hsame
      rw [hreply] at hsame
      obtain ⟨b, hother, hbody⟩ := Reply.exists_response_of_withoutBody hsame
      rw [← Response.target?_of_withoutBody hbody] at htarget
      have hjar : (line.afterReply.takeCookies net r.url answer).jar
          = ((line.withReplies others).afterReply.takeCookies net r.url b).jar := by
        rw [Line.takeCookies_withReplies hbody]
        rfl
      refine ⟨ending, hended, ?_⟩
      rw [← List.drop_one, List.drop_drop, Nat.add_comm, ← Line.takeCookies_withReplies hbody,
        ← Request.redirected_of_withoutBody hbody, hjar] at hcourse
      exact .turned hreach hother htarget hcourse

/-- An exchange takes one reply for each request. -/
theorem Course.replies_eq_drop (h : Course net turns line r x after) :
    after.replies = line.replies.drop x.sent.length := by
  induction h with
  | unreached => rfl
  | closed | silent | answered | turnedTooOften => exact List.drop_one.symm
  | turned _ _ _ _ ih =>
      rw [ih]
      exact List.drop_tail

/-- Replies with other bodies change nothing of an exchange but the body at its end. -/
theorem send_of_sameButBodies {other : Line} (hjar : other.jar = line.jar)
    (hsame : SameButBodies (send net line r).1.sent.length line.replies other.replies) :
    (send net other r).1.sent = (send net line r).1.sent ∧
      (send net other r).1.ending.withoutBody = (send net line r).1.ending.withoutBody ∧
      (send net other r).2 = (send net line r).2 := by
  have hcourse := send_course net line r
  obtain ⟨ending, hended, hother⟩ := hcourse.exists_of_front hsame.front
  have hline : line.withReplies other.replies = other := by
    rw [Line.withReplies, ← hjar]
  have hleft : (send net line r).2.withReplies (other.replies.drop (send net line r).1.sent.length)
      = (send net line r).2 := by
    rw [hsame.rest, ← hcourse.replies_eq_drop]
    rfl
  rw [hline, hleft, ← hjar] at hother
  rw [send, follow_eq_of_course hother]
  exact ⟨rfl, hended, rfl⟩

end DegreeAudit.Http
