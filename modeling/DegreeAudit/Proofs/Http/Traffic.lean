import DegreeAudit.Proofs.Http.Cookie
import DegreeAudit.Proofs.Http.Exchange

/-!
# One cookie through all requests

What passes over a line is seen here as one list of requests, whatever exchange and run they belong
to: `Traffic` says of each that it was sent while the replies of those before it had been taken in.
Every exchange is traffic (`send_traffic`), and traffic goes on from traffic (`Traffic.append`).

The state that a cookie's name is in has two phases. As long as no reply has named it, no jar and no
request knows it: `Unset`. Once a reply has set it and none names it again, the jar holds that one
cookie: `SetTo`. Each phase is kept by every request whose reply does not name the cookie, and the
reply that sets it leads from the one to the other. So an induction on the traffic tells for every
request what it carries under the name: `Traffic.carried_of_setsOnce`.
-/

namespace DegreeAudit.Http

def Request.host? (r : Request) : Option String := r.url.host?.map Url.Host.toText

/-- What a request carries under a name. -/
def Request.carried (r : Request) (name : String) : List (String × String) :=
  r.cookies.filter (·.1 == name)

/-- The reply asks for a cookie of the name. -/
def Reply.Names (name : String) : Reply → Prop
  | .response answer => ∃ text ∈ answer.cookieTexts, Cookie.Names name text
  | .closed | .silence => False

/-- Only addresses of the web are reached. -/
def Network.IsWeb (net : Network) : Prop :=
  ∀ url, net.reaches url = true → Url.isSpecialScheme url.scheme = true

/-- The line after the reply to a request for an address. -/
def Line.next (line : Line) (net : Network) (url : Url) : Line :=
  match line.reply with
  | .response answer => line.afterReply.takeCookies net url answer
  | .closed | .silence => line.afterReply

/-- The request carries what the jar holds for its address, or, if that is nothing, what an earlier
request to the same host carried. -/
def Request.CarriesFrom (jar : Jar) (now : Instant) (earlier : List Request) (r : Request) :
    Prop :=
  r.cookies = jar.sentTo r.url now ∨
    jar.sentTo r.url now = [] ∧ ∃ q ∈ earlier, q.host? = r.host? ∧ r.cookies = q.cookies

/-- The requests are sent over a line one after the other, after some earlier ones, and leave
another line. -/
inductive Traffic (net : Network) : List Request → Line → List Request → Line → Prop where
  | nil {earlier line} : Traffic net earlier line [] line
  | cons {earlier line r requests after} (hreach : net.reaches r.url = true)
      (hroot : r.url.HasRoot) (hcarries : r.CarriesFrom line.jar net.now earlier)
      (hrest : Traffic net (r :: earlier) (line.next net r.url) requests after) :
      Traffic net earlier line (r :: requests) after

variable {net : Network} {turns : Nat} {line middle after : Line} {r : Request} {x : Exchange}
  {earlier requests : List Request} {name value host : String}

/-! ### Exchanges as traffic -/

theorem Traffic.append {more : List Request} (h : Traffic net earlier line requests middle)
    (hmore : Traffic net (requests.reverse ++ earlier) middle more after) :
    Traffic net earlier line (requests ++ more) after := by
  induction h with
  | nil => exact hmore
  | @cons earlier line r requests middle hreach hroot hcarries _ ih =>
      have hbefore : (r :: requests).reverse ++ earlier = requests.reverse ++ r :: earlier := by
        rw [List.reverse_cons, List.append_assoc, List.singleton_append]
      rw [hbefore] at hmore
      exact .cons hreach hroot hcarries (ih hmore)

theorem Line.next_of_response {answer : Response} (h : line.reply = .response answer)
    (net : Network) (url : Url) :
    line.next net url = line.afterReply.takeCookies net url answer := by
  rw [Line.next, h]

theorem Line.replies_next (line : Line) (net : Network) (url : Url) :
    (line.next net url).replies = line.replies.tail := by
  unfold Line.next
  split <;> rfl

theorem Request.carriesFrom_withCookies (jar : Jar) (now : Instant)
    (h : r.cookies = [] ∨ ∃ q ∈ earlier, q.host? = r.host? ∧ r.cookies = q.cookies) :
    (r.withCookies jar now).CarriesFrom jar now earlier := by
  unfold Request.withCookies
  dsimp only
  cases hempty : (jar.sentTo r.url now).isEmpty with
  | false =>
      rw [if_neg Bool.false_ne_true]
      exact .inl rfl
  | true =>
      have hnothing : jar.sentTo r.url now = [] := List.isEmpty_iff.1 hempty
      rw [if_pos rfl]
      rcases h with hnone | hkept
      · exact .inl (hnone.trans hnothing.symm)
      · exact .inr ⟨hnothing, hkept⟩

theorem Request.carriesFrom_redirected {answer : Response} {target : Url} (jar : Jar)
    (now : Instant) (earlier : List Request) :
    ((r.redirected answer target).withCookies jar now).CarriesFrom jar now (r :: earlier) := by
  refine carriesFrom_withCookies jar now ?_
  cases hsame : sameOrigin r.url target with
  | false => exact .inl (if_neg (by simp [hsame]))
  | true =>
      have hhost : r.host? = (r.redirected answer target).host? := by
        unfold sameOrigin at hsame
        rw [Bool.and_eq_true, beq_iff_eq] at hsame
        unfold Request.host?
        rw [hsame.1]
        rfl
      exact .inr ⟨r, List.mem_cons_self, hhost, if_pos hsame⟩

theorem Response.hasRoot_target {answer : Response} {url target : Url}
    (h : answer.target? url = some target) (hroot : url.HasRoot) : target.HasRoot := by
  unfold Response.target? at h
  split at h
  · obtain ⟨location, -, hjoin⟩ := Option.bind_eq_some_iff.1 h
    cases hjoined : url.join location with
    | error fault =>
        rw [hjoined] at hjoin
        cases hjoin
    | ok joined =>
        rw [hjoined] at hjoin
        cases hjoin
        exact hroot.join hjoined
  · cases h

theorem Course.traffic (h : Course net turns line r x after) (hroot : r.url.HasRoot)
    (hcarries : r.CarriesFrom line.jar net.now earlier) :
    Traffic net earlier line x.sent after := by
  induction h generalizing earlier with
  | unreached => exact .nil
  | @closed turns line r hreach hreply | @silent turns line r hreach hreply =>
      have hnext : line.next net r.url = line.afterReply := by
        rw [Line.next, hreply]
      exact .cons hreach hroot hcarries (hnext ▸ .nil)
  | answered hreach hreply _ | turnedTooOften hreach hreply _ =>
      exact .cons hreach hroot hcarries (Line.next_of_response hreply net _ ▸ .nil)
  | @turned turns line r answer target x after hreach hreply htarget _ ih =>
      have hroot' : ((r.redirected answer target).withCookies
          (line.afterReply.takeCookies net r.url answer).jar net.now).url.HasRoot := by
        rw [Request.withCookies_url]
        exact Response.hasRoot_target htarget hroot
      refine .cons hreach hroot hcarries ?_
      rw [Line.next_of_response hreply]
      exact ih hroot' (Request.carriesFrom_redirected _ _ _)

/-- What is sent for a request is traffic, whatever was sent before. -/
theorem send_traffic (net : Network) (line : Line) (hroot : r.url.HasRoot)
    (hcookies : r.cookies = []) (earlier : List Request) :
    Traffic net earlier line (send net line r).1.sent (send net line r).2 := by
  refine (send_course net line r).traffic ?_ (Request.carriesFrom_withCookies _ _ (.inl hcookies))
  rw [Request.withCookies_url]
  exact hroot

/-! ### The two phases of a name -/

/-- The name is not known yet. -/
structure Unset (name : String) (earlier : List Request) (line : Line) : Prop where
  jar : line.jar.named name = []
  earlier : ∀ q ∈ earlier, q.carried name = []

/-- The name is that of one cookie for one host, which no other host has learnt. -/
structure SetTo (name value host : String) (earlier : List Request) (line : Line) : Prop where
  jar : line.jar.named name = [.plain name value host]
  earlier : ∀ q ∈ earlier, q.host? ≠ some host → q.carried name = []

/-- The answer sets the cookie once and does not name it otherwise. -/
def Response.Sets (answer : Response) (name value : String) : Prop :=
  ∃ before behind, answer.cookieTexts = before ++ Cookie.plainHeader name value :: behind ∧
    (∀ text ∈ before, ¬ Cookie.Names name text) ∧ ∀ text ∈ behind, ¬ Cookie.Names name text

/-- A reply that does not name the cookie leaves the cookies of that name. -/
theorem Line.named_next (hquiet : ∀ reply ∈ line.replies.head?, ¬ reply.Names name)
    (net : Network) (url : Url) :
    (line.next net url).jar.named name = line.jar.named name := by
  unfold Line.next
  split
  next answer hreply =>
    refine Jar.named_take_of_not_names fun text htext hnames => ?_
    unfold Line.reply at hreply
    cases hreplies : line.replies with
    | nil =>
        -- the reply of a portal with nothing more to say asks for no cookies
        rw [hreplies] at hreply
        cases hreply
        cases htext
    | cons reply rest =>
        rw [hreplies] at hreply
        refine hquiet reply (by rw [hreplies]; rfl) ?_
        rw [show reply = .response answer from hreply]
        exact ⟨text, htext, hnames⟩
  · rfl
  · rfl

theorem Unset.carried (h : Unset name earlier line)
    (hcarries : r.CarriesFrom line.jar net.now earlier) : r.carried name = [] := by
  rcases hcarries with hown | ⟨-, q, hq, -, hkept⟩
  · rw [Request.carried, hown, Jar.filter_sentTo, h.jar]
    rfl
  · have hnone := h.earlier q hq
    rwa [Request.carried, ← hkept] at hnone

theorem Unset.next (h : Unset name earlier line)
    (hcarries : r.CarriesFrom line.jar net.now earlier)
    (hquiet : ∀ reply ∈ line.replies.head?, ¬ reply.Names name) :
    Unset name (r :: earlier) (line.next net r.url) where
  jar := by rw [Line.named_next hquiet, h.jar]
  earlier := List.forall_mem_cons.2 ⟨h.carried hcarries, h.earlier⟩

/-- The reply that sets the cookie ends the first phase and begins the second. -/
theorem Unset.setTo {answer : Response} (h : Unset name earlier line)
    (hcarries : r.CarriesFrom line.jar net.now earlier) (hname : Cookie.IsWord name)
    (hvalue : Cookie.IsWord value) (hhost : r.host? = some host)
    (hreply : line.reply = .response answer) (hsets : answer.Sets name value) :
    SetTo name value host (r :: earlier) (line.next net r.url) where
  jar := by
    obtain ⟨before, behind, htexts, hbefore, hbehind⟩ := hsets
    obtain ⟨place, hplace, rfl⟩ := Option.map_eq_some_iff.1 hhost
    rw [Line.next_of_response hreply]
    show ((line.jar.take r.url net.now answer.cookieTexts).named name) = _
    rw [htexts]
    exact Jar.named_take_of_plain h.jar hname hvalue hplace hbefore hbehind
  earlier := by
    intro q hq _
    rcases List.mem_cons.1 hq with rfl | hq
    · exact h.carried hcarries
    · exact h.earlier q hq

/-- In the second phase the host is sent the cookie, and no other host is. -/
theorem SetTo.carried (h : SetTo name value host earlier line)
    (hcarries : r.CarriesFrom line.jar net.now earlier) (hroot : r.url.HasRoot)
    (hweb : Url.isSpecialScheme r.url.scheme = true) :
    r.carried name = if r.host? = some host then [(name, value)] else [] := by
  have hfits : (Cookie.plain name value host).fits r.url net.now = (r.host? == some host) :=
    Cookie.fits_plain hroot hweb
  have hsent : (line.jar.sentTo r.url net.now).filter (·.1 == name) =
      if r.host? = some host then [(name, value)] else [] := by
    rw [Jar.filter_sentTo, h.jar, List.filter_cons, List.filter_nil, hfits]
    by_cases hhost : r.host? = some host
    · rw [if_pos (beq_iff_eq.2 hhost), if_pos hhost]
      rfl
    · rw [if_neg (by simp [hhost]), if_neg hhost]
      rfl
  rcases hcarries with hown | ⟨hnothing, q, hq, hsame, hkept⟩
  · rw [Request.carried, hown, hsent]
  · -- a request that is sent nothing from the jar is not for the host of the cookie
    have hhost : r.host? ≠ some host := by
      intro hhost
      rw [hnothing, if_pos hhost] at hsent
      cases hsent
    have hnone := h.earlier q hq (hsame ▸ hhost)
    rw [if_neg hhost, Request.carried, hkept]
    exact hnone

theorem SetTo.next (h : SetTo name value host earlier line)
    (hcarries : r.CarriesFrom line.jar net.now earlier) (hroot : r.url.HasRoot)
    (hweb : Url.isSpecialScheme r.url.scheme = true)
    (hquiet : ∀ reply ∈ line.replies.head?, ¬ reply.Names name) :
    SetTo name value host (r :: earlier) (line.next net r.url) where
  jar := by rw [Line.named_next hquiet, h.jar]
  earlier := by
    intro q hq hother
    rcases List.mem_cons.1 hq with rfl | hq
    · rw [h.carried hcarries hroot hweb, if_neg hother]
    · exact h.earlier q hq hother

/-! ### Through all requests -/

/-- Of the replies to the requests, the one with this number is to a request to the host and sets
the cookie, and no other names it. -/
structure SetsOnce (name value host : String) (requests : List Request) (replies : List Reply)
    (i : Nat) : Prop where
  request : ∃ r, requests[i]? = some r ∧ r.host? = some host
  reply : ∃ answer, replies[i]? = some (.response answer) ∧ answer.Sets name value
  others : ∀ j < requests.length, j ≠ i → ∀ reply ∈ replies[j]?, ¬ reply.Names name

/-- For requests of which the hosts are known. -/
theorem SetsOnce.of_hosts {i : Nat} {hosts : List (Option String)} {replies : List Reply}
    {answer : Response} (hhosts : requests.map Request.host? = hosts)
    (hhost : hosts[i]? = some (some host)) (hreply : replies[i]? = some (.response answer))
    (hsets : answer.Sets name value)
    (hothers : ∀ j ≠ i, ∀ reply ∈ replies[j]?, ¬ reply.Names name) :
    SetsOnce name value host requests replies i where
  request := by
    rw [← hhosts, List.getElem?_map] at hhost
    exact Option.map_eq_some_iff.1 hhost
  reply := ⟨answer, hreply, hsets⟩
  others j _ hne := hothers j hne

/-- What is carried depends on nothing but the hosts. -/
theorem map_carried_eq_mapIdx {i : Nat}
    (h : ∀ j q, requests[j]? = some q →
      q.carried name = if i < j ∧ q.host? = some host then [(name, value)] else []) :
    requests.map (·.carried name) = (requests.map Request.host?).mapIdx fun j place =>
      if i < j ∧ place = some host then [(name, value)] else [] := by
  refine List.ext_getElem? fun j => ?_
  rw [List.getElem?_map, List.getElem?_mapIdx, List.getElem?_map]
  cases hq : requests[j]? with
  | none => rfl
  | some q => exact congrArg some (h j q hq)

theorem SetsOnce.tail {i : Nat} {replies : List Reply}
    (h : SetsOnce name value host (r :: requests) replies (i + 1)) :
    SetsOnce name value host requests replies.tail i where
  request := h.request
  reply := by
    obtain ⟨answer, hreply, hsets⟩ := h.reply
    exact ⟨answer, by rwa [List.getElem?_tail], hsets⟩
  others := by
    intro j hj hne reply hreply
    rw [List.getElem?_tail] at hreply
    exact h.others (j + 1) (Nat.succ_lt_succ hj) (by omega) reply hreply

/-- Once the cookie is set and not named again, every request to its host carries it. -/
theorem Traffic.carried_of_setTo (h : Traffic net earlier line requests after) (hweb : net.IsWeb)
    (hset : SetTo name value host earlier line)
    (hquiet : ∀ j < requests.length, ∀ reply ∈ line.replies[j]?, ¬ reply.Names name) :
    ∀ q ∈ requests, q.carried name = if q.host? = some host then [(name, value)] else [] := by
  induction h with
  | nil => exact List.forall_mem_nil _
  | @cons earlier line r requests after hreach hroot hcarries _ ih =>
      have hscheme := hweb r.url hreach
      have hhead : ∀ reply ∈ line.replies.head?, ¬ reply.Names name := by
        rw [List.head?_eq_getElem?]
        exact hquiet 0 (Nat.zero_lt_succ _)
      refine List.forall_mem_cons.2 ⟨hset.carried hcarries hroot hscheme, ?_⟩
      refine ih (hset.next hcarries hroot hscheme hhead) fun j hj reply hreply => ?_
      rw [Line.replies_next, List.getElem?_tail] at hreply
      exact hquiet (j + 1) (Nat.succ_lt_succ hj) reply hreply

/-- If one reply sets a cookie of a name that is not known and no other names it, then the later
requests to its host carry it, each once, and no other request carries a cookie of the name. -/
theorem Traffic.carried_of_setsOnce {i : Nat} (h : Traffic net earlier line requests after)
    (hweb : net.IsWeb) (hname : Cookie.IsWord name) (hvalue : Cookie.IsWord value)
    (hunset : Unset name earlier line)
    (honce : SetsOnce name value host requests line.replies i) {j : Nat} {q : Request}
    (hq : requests[j]? = some q) :
    q.carried name = if i < j ∧ q.host? = some host then [(name, value)] else [] := by
  induction h generalizing i j with
  | nil => cases hq
  | @cons earlier line r requests after hreach hroot hcarries hrest ih =>
      cases j with
      | zero =>
          cases hq
          rw [hunset.carried hcarries, if_neg fun hlater => Nat.not_lt_zero _ hlater.1]
      | succ j =>
          rw [List.getElem?_cons_succ] at hq
          cases i with
          | zero =>
              -- this is the reply that sets the cookie
              obtain ⟨r, hr, hhost⟩ := honce.request
              cases hr
              obtain ⟨answer, hreply, hsets⟩ := honce.reply
              have hheard : line.reply = .response answer := by
                rw [Line.reply, List.headD_eq_head?_getD, List.head?_eq_getElem?, hreply]
                rfl
              have hset : SetTo name value host (r :: earlier) (line.next net r.url) :=
                hunset.setTo hcarries hname hvalue hhost hheard hsets
              have hquiet : ∀ k < requests.length,
                  ∀ reply ∈ (line.next net r.url).replies[k]?, ¬ reply.Names name := by
                intro k hk reply hreply
                rw [Line.replies_next, List.getElem?_tail] at hreply
                exact honce.others (k + 1) (Nat.succ_lt_succ hk) (Nat.succ_ne_zero k) reply hreply
              rw [hrest.carried_of_setTo hweb hset hquiet q (List.mem_of_getElem? hq)]
              simp only [Nat.zero_lt_succ, true_and]
          | succ i =>
              -- the cookie is still to be set
              have hhead : ∀ reply ∈ line.replies.head?, ¬ reply.Names name := by
                rw [List.head?_eq_getElem?]
                exact honce.others 0 (Nat.zero_lt_succ _) (Nat.zero_ne_add_one i)
              have htail : SetsOnce name value host requests (line.next net r.url).replies i := by
                rw [Line.replies_next]
                exact honce.tail
              rw [ih (hunset.next hcarries hhead) htail hq]
              simp only [Nat.succ_lt_succ_iff]

end DegreeAudit.Http
