import DegreeAudit.Export.Filing
import DegreeAudit.Proofs.Files.Path

/-!
# What filing leaves behind

Each attempt to file something either fails and leaves everything as it was, or makes one change,
at the place that its path means: a file there holds the text that was to be filed, or there is a
new folder. `Effect` says so for one attempt, and `runAll_attempts` for attempts one after the other
that begin with an empty folder, whatever each of them meets there. The step keeps the folder a
tree, so that a new folder has nothing in it.
-/

namespace DegreeAudit.Filing

open Folder

/-- What comes of one attempt. -/
inductive Effect (before : Folder) : Filing → Outcome → Prop where
  | failed {filing fault} : Effect before filing ⟨before, [], .error fault⟩
  | exported {word path body format components dir name after}
      (hformat : formatOf word = .ok format) (hread : componentsOf body = .ok components)
      (hmeans : before.Means path dir name)
      (hwritten : before.Rewritten (dir ++ [name]) (format.render components) after) :
      Effect before (.components word path body)
        ⟨after, [.exported path format components.length], .ok ()⟩
  | reported {path body components progress dir name after}
      (hread : componentsOf body = .ok components)
      (hsorted : Progress.ofComponents components = .ok progress)
      (hmeans : before.Means path dir name)
      (hwritten : before.Rewritten (dir ++ [name])
        (Report.ofComponents components progress).render after) :
      Effect before (.report path body) ⟨after, [.reported path], .ok ()⟩
  | made {path dir name after} (hmeans : before.Means path dir name)
      (hmade : before.Extended (dir ++ [name]) after) :
      Effect before (.folder path) ⟨after, [], .ok ()⟩

/-- What has to be so for something to be filed: a known format, an answer that can be read and
sorted, and a path that can be written. -/
def CanBeDone (before : Folder) : Filing → Prop
  | .components word path body =>
    (∃ format, formatOf word = .ok format) ∧ (∃ components, componentsOf body = .ok components) ∧
      before.CanWrite path
  | .report path body =>
    (∃ components progress, componentsOf body = .ok components ∧
      Progress.ofComponents components = .ok progress) ∧ before.CanWrite path
  | .folder path => before.CanMake path

/-- One attempt succeeds exactly when it can, has its effect, and tells of nothing but what is worth
knowing. -/
structure Attempt (before : Folder) (filing : Filing) (outcome : Outcome) : Prop where
  effect : Effect before filing outcome
  succeeds : outcome.result = .ok () ↔ CanBeDone before filing
  levels : ∀ event ∈ outcome.events, event.level = .info

/-- Attempts one after the other, each on the folder that the one before it left. -/
inductive Attempts : Folder → List Filing → List Outcome → Prop where
  | nil {f} : Attempts f [] []
  | cons {f filing rest outcome outcomes} (hfirst : Attempt f filing outcome)
      (hrest : Attempts outcome.folder rest outcomes) :
      Attempts f (filing :: rest) (outcome :: outcomes)

variable {f : Folder} {filing : Filing} {outcome : Outcome} {path : String}

/-! ### One attempt -/

/-- A text is written and told of if it can be written; otherwise all stays as it was. -/
theorem file_cases (f : Folder) (path text : String) (event : Event) :
    (f.CanWrite path ∧ ∃ dir name after, f.Means path dir name ∧
      f.Rewritten (dir ++ [name]) text after ∧ file f path text event = ⟨after, [event], .ok ()⟩) ∨
    (¬f.CanWrite path ∧ ∃ fault, file f path text event = ⟨f, [], .error fault⟩) := by
  unfold file
  cases hwrite : f.write path text with
  | ok after =>
      obtain ⟨dir, name, hmeans, hslash, hentry, rfl⟩ := write_eq_ok_iff.1 hwrite
      refine .inl ⟨⟨dir, name, hmeans, hslash, hentry⟩, dir, name, _, hmeans, ?_, rfl⟩
      exact rewritten_put (by simp) hentry
  | error fault =>
      refine .inr ⟨fun hcan => ?_, .file path fault, rfl⟩
      obtain ⟨dir, name, hmeans, hslash, hentry⟩ := hcan
      rw [write_eq_ok_iff.2 ⟨dir, name, hmeans, hslash, hentry, rfl⟩] at hwrite
      cases hwrite

theorem attempt_components (f : Folder) (word : Option String) (path body : String) :
    Attempt f (.components word path body) (run f (.components word path body)) := by
  unfold run
  dsimp only
  cases hformat : formatOf word with
  | error fault =>
      refine ⟨.failed, ⟨nofun, ?_⟩, List.forall_mem_nil _⟩
      rintro ⟨⟨format, hother⟩, -⟩
      cases hformat.symm.trans hother
  | ok format =>
      cases hread : componentsOf body with
      | error fault =>
          refine ⟨.failed, ⟨nofun, ?_⟩, List.forall_mem_nil _⟩
          rintro ⟨-, ⟨components, hother⟩, -⟩
          cases hread.symm.trans hother
      | ok components =>
          dsimp only
          unfold fileComponents
          rcases file_cases f path (format.render components)
            (.exported path format components.length) with
            ⟨hcan, dir, name, after, hmeans, hwritten, hfile⟩ | ⟨hcannot, fault, hfile⟩
          · rw [hfile]
            refine ⟨.exported hformat hread hmeans hwritten, ?_, by simp [Event.level]⟩
            exact ⟨fun _ => ⟨⟨format, hformat⟩, ⟨components, hread⟩, hcan⟩, fun _ => rfl⟩
          · rw [hfile]
            exact ⟨.failed, ⟨nofun, fun hcan => absurd hcan.2.2 hcannot⟩, List.forall_mem_nil _⟩

/-- A report is made of an answer that can be read and sorted. -/
theorem reportOf_eq_ok_iff {body : String} {report : Report} :
    reportOf body = .ok report ↔
      ∃ components progress, componentsOf body = .ok components ∧
        Progress.ofComponents components = .ok progress ∧
        report = .ofComponents components progress := by
  unfold reportOf
  constructor
  · intro h
    obtain ⟨components, hread, h⟩ := Except.bind_eq_ok_iff.1 h
    obtain ⟨progress, hsorted, h⟩ := Except.bind_eq_ok_iff.1 h
    cases h
    exact ⟨components, progress, hread, Except.mapError_eq_ok_iff.1 hsorted, rfl⟩
  · rintro ⟨components, progress, hread, hsorted, rfl⟩
    rw [hread]
    refine Except.bind_eq_ok_iff.2 ⟨components, rfl, ?_⟩
    exact Except.bind_eq_ok_iff.2 ⟨progress, Except.mapError_eq_ok_iff.2 hsorted, rfl⟩

theorem attempt_report (f : Folder) (path body : String) :
    Attempt f (.report path body) (run f (.report path body)) := by
  unfold run
  dsimp only
  cases hreport : reportOf body with
  | error fault =>
      refine ⟨.failed, ⟨nofun, ?_⟩, List.forall_mem_nil _⟩
      rintro ⟨⟨components, progress, hread, hsorted⟩, -⟩
      rw [reportOf_eq_ok_iff.2 ⟨components, progress, hread, hsorted, rfl⟩] at hreport
      cases hreport
  | ok report =>
      obtain ⟨components, progress, hread, hsorted, rfl⟩ := reportOf_eq_ok_iff.1 hreport
      dsimp only
      unfold fileReport
      rcases file_cases f path (Report.ofComponents components progress).render
        (.reported path) with
        ⟨hcan, dir, name, after, hmeans, hwritten, hfile⟩ | ⟨hcannot, fault, hfile⟩
      · rw [hfile]
        refine ⟨.reported hread hsorted hmeans hwritten, ?_, by simp [Event.level]⟩
        exact ⟨fun _ => ⟨⟨components, progress, hread, hsorted⟩, hcan⟩, fun _ => rfl⟩
      · rw [hfile]
        exact ⟨.failed, ⟨nofun, fun hcan => absurd hcan.2 hcannot⟩, List.forall_mem_nil _⟩

theorem attempt_folder (hf : f.IsTree) (path : String) :
    Attempt f (.folder path) (run f (.folder path)) := by
  unfold run
  dsimp only
  cases hmake : f.make path with
  | error fault =>
      refine ⟨.failed, ⟨nofun, ?_⟩, List.forall_mem_nil _⟩
      rintro ⟨dir, name, hmeans, hentry⟩
      rw [make_eq_ok_iff.2 ⟨dir, name, hmeans, hentry, rfl⟩] at hmake
      cases hmake
  | ok after =>
      obtain ⟨dir, name, hmeans, hentry, rfl⟩ := make_eq_ok_iff.1 hmake
      refine ⟨.made hmeans (hf.extended_put (by simp) hentry), ?_, List.forall_mem_nil _⟩
      exact ⟨fun _ => ⟨dir, name, hmeans, hentry⟩, fun _ => rfl⟩

theorem attempt_run (hf : f.IsTree) (filing : Filing) : Attempt f filing (run f filing) := by
  cases filing with
  | components word path body => exact attempt_components f word path body
  | report path body => exact attempt_report f path body
  | folder path => exact attempt_folder hf path

/-- Whatever is filed, the folder stays a tree. -/
theorem Effect.isTree (h : Effect f filing outcome) (hf : f.IsTree) : outcome.folder.IsTree := by
  cases h with
  | failed => exact hf
  | exported _ _ hmeans hwritten => exact hwritten.isTree hf (hf.get?_of_means hmeans)
  | reported _ _ hmeans hwritten => exact hwritten.isTree hf (hf.get?_of_means hmeans)
  | made hmeans hmade => exact hmade.isTree hf (hf.get?_of_means hmeans)

/-! ### One attempt after the other -/

theorem attempts_of_isTree (hf : f.IsTree) (filings : List Filing) :
    Attempts f filings (runAll f filings) := by
  induction filings generalizing f with
  | nil => exact .nil
  | cons filing rest ih =>
      have hfirst := attempt_run hf filing
      exact .cons hfirst (ih (hfirst.effect.isTree hf))

/-- Whatever is filed one after the other in an empty folder, each attempt has its effect and no
other. -/
theorem runAll_attempts (filings : List Filing) : Attempts .empty filings (runAll .empty filings) :=
  attempts_of_isTree isTree_empty filings

end DegreeAudit.Filing
