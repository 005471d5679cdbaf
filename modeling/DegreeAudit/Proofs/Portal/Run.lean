import DegreeAudit.Portal.Run
import DegreeAudit.Proofs.Http.Exchange

/-!
# Laws of runs

What a run of several parts does, from what its parts do. With these, a run is followed part by part
and its definition is not opened.
-/

namespace DegreeAudit

open Http

theorem Trace.after_after {α : Type} (t : Trace α) (first second : List (Errand × Exchange))
    (told more : List Event) :
    (t.after second more).after first told = t.after (first ++ second) (told ++ more) := by
  simp only [Trace.after, List.append_assoc]

theorem Trace.after_nothing {α : Type} (first : List (Errand × Exchange)) (told : List Event)
    (line : Line) (result : Except RunFault α) :
    (⟨[], [], line, result⟩ : Trace α).after first told = ⟨first, told, line, result⟩ := by
  simp only [Trace.after, List.append_nil]

theorem Trace.requests_after {α : Type} (t : Trace α) (first : List (Errand × Exchange))
    (told : List Event) :
    (t.after first told).requests = first.flatMap (·.2.sent) ++ t.requests :=
  List.flatMap_append

namespace Run

variable {α β : Type} {run : Run α} {next : α → Run β} {net : Network} {line after : Line}
  {exchanges : List (Errand × Exchange)} {events : List Event}

theorem stop_apply (fault : RunFault) (net : Network) (line : Line) :
    (stop fault : Run α) net line = ⟨[], [], line, .error fault⟩ :=
  rfl

theorem tell_apply (event : Event) (net : Network) (line : Line) :
    tell event net line = ⟨[], [event], line, .ok ()⟩ :=
  rfl

/-- A run goes on with the result of its first part, from the line that this part left. -/
theorem bind_of_ok {a : α} (h : run net line = ⟨exchanges, events, after, .ok a⟩) :
    (run >>= next) net line = (next a net after).after exchanges events := by
  change Run.bind run next net line = _
  rw [Run.bind, h]

/-- A run that was stopped does not go on. -/
theorem bind_of_error {fault : RunFault}
    (h : run net line = ⟨exchanges, events, after, .error fault⟩) :
    (run >>= next) net line = ⟨exchanges, events, after, .error fault⟩ := by
  change Run.bind run next net line = _
  rw [Run.bind, h]

variable {request : Request} {x : Exchange}

theorem ask_of_page {page : Page} (errand : Errand)
    (h : Yields net line request x after (.ok page)) :
    ask errand request net line = ⟨[(errand, x)], [], after, .ok page⟩ := by
  rw [ask, h.sent]
  dsimp only
  rw [h.ended]
  rfl

theorem ask_of_problem {problem : Problem} (errand : Errand)
    (h : Yields net line request x after (.error problem)) :
    ask errand request net line =
      ⟨[(errand, x)], [], after, .error (.errand errand problem)⟩ := by
  rw [ask, h.sent]
  dsimp only
  rw [h.ended]
  rfl

variable {url : Url} {form : Fields}

theorem post_of_page {page : Page} (errand : Errand)
    (h : Yields net line (.posting url form) x after (.ok page)) :
    post errand url form net line =
      ⟨[(errand, x)], [.posting url (form.map (·.1))], after, .ok page⟩ := by
  rw [post, bind_of_ok (tell_apply _ net line), ask_of_page errand h]
  rfl

theorem post_of_problem {problem : Problem} (errand : Errand)
    (h : Yields net line (.posting url form) x after (.error problem)) :
    post errand url form net line =
      ⟨[(errand, x)], [.posting url (form.map (·.1))], after,
        .error (.errand errand problem)⟩ := by
  rw [post, bind_of_ok (tell_apply _ net line), ask_of_problem errand h]
  rfl

end Run

end DegreeAudit
