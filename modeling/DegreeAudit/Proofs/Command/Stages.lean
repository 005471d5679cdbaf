import DegreeAudit.Command.Run
import DegreeAudit.Proofs.Export.Filing
import DegreeAudit.Proofs.Portal.Run

/-!
# How far the command comes

The command goes through its stages until one of them fails. `GoesByStages` says what that means for
whoever looks at it from outside: which requests are sent, which files are there in the end, and
what the exit code tells. `run_goesByStages` says that every run goes so, whichever stage fails and
whatever the portal answers.

The session is followed by the laws of runs and the files by the laws of `Holds`: the folder begins
empty and no folder is ever made in it, so every path that can be written means a file at the top.
-/

namespace DegreeAudit.Command

open Http

/-- The requests of one session: those of a login and, after one that succeeds, those of a fetch
that begins where the login left off. -/
def sessionRequests (p : Portal) (net : Network) (replies : List Reply) : List Request :=
  (p.login net (.fresh replies)).requests ++
    match (p.login net (.fresh replies)).result with
    | .ok _ => (p.fetch net (p.login net (.fresh replies)).line).requests
    | .error _ => []

/-- The base is an address, and login and fetch succeed and give the components. -/
def Fetches (options : Options) (net : Network) (replies : List Reply)
    (components : List Component) : Prop :=
  ∃ p outcome curriculum, portal options = .ok p ∧
    (p.login net (.fresh replies)).result = .ok outcome ∧
    (p.fetch net (p.login net (.fresh replies)).line).result = .ok curriculum ∧
    curriculum.components = components

/-- In an empty folder the path means the file of the name. -/
def MeansFile (path name : String) : Prop := Folder.empty.Means path [] name

/-- The exit code and the files after the components have been fetched. -/
inductive Leaves (options : Options) (components : List Component) : Nat → Folder → Prop where
  | unwritten (hwrite : ¬Folder.empty.CanWrite options.output) :
      Leaves options components 1 .empty
  | unsorted {name f missing} (hwrite : Folder.empty.CanWrite options.output)
      (hname : MeansFile options.output name)
      (hsorted : Progress.ofComponents components = .error missing)
      (hfiles : f.Holds [([name], options.format.render components)]) :
      Leaves options components 1 f
  | unreported {name f progress path} (hwrite : Folder.empty.CanWrite options.output)
      (hname : MeansFile options.output name)
      (hsorted : Progress.ofComponents components = .ok progress)
      (hreport : options.report = some path) (hpath : ¬Folder.empty.CanWrite path)
      (hfiles : f.Holds [([name], options.format.render components)]) :
      Leaves options components 1 f
  | exported {name f progress} (hwrite : Folder.empty.CanWrite options.output)
      (hname : MeansFile options.output name)
      (hsorted : Progress.ofComponents components = .ok progress) (hreport : options.report = none)
      (hfiles : f.Holds [([name], options.format.render components)]) :
      Leaves options components 0 f
  | reported {name other f progress path} (hwrite : Folder.empty.CanWrite options.output)
      (hname : MeansFile options.output name)
      (hsorted : Progress.ofComponents components = .ok progress)
      (hreport : options.report = some path) (hpath : Folder.empty.CanWrite path)
      (hother : MeansFile path other)
      -- where both paths mean one file, the report has been written over the export
      (hfiles : f.Holds [([other], (Report.ofComponents components progress).render),
        ([name], options.format.render components)]) :
      Leaves options components 0 f

/-- Every stage succeeds. -/
def Succeeds (options : Options) (net : Network) (replies : List Reply) : Prop :=
  ∃ components progress, Fetches options net replies components ∧
    Folder.empty.CanWrite options.output ∧ Progress.ofComponents components = .ok progress ∧
    ∀ path ∈ options.report, Folder.empty.CanWrite path

/-- The command goes through its stages until one fails. -/
structure GoesByStages (options : Options) (net : Network) (replies : List Reply) (out : Outcome) :
    Prop where
  unsent : ∀ fault, portal options = .error fault → out.requests = []
  sent : ∀ p, portal options = .ok p → out.requests = sessionRequests p net replies
  unfetched : (∀ components, ¬Fetches options net replies components) →
    out.exit = 1 ∧ out.folder = .empty
  fetched : ∀ components, Fetches options net replies components →
    Leaves options components out.exit out.folder
  exit : out.exit = 0 ↔ Succeeds options net replies

variable {options : Options} {net : Network} {replies : List Reply} {components : List Component}

/-! ### The session -/

theorem sessionRun_requests (p : Portal) (net : Network) (replies : List Reply) :
    (sessionRun p net (.fresh replies)).requests = sessionRequests p net replies := by
  unfold sessionRun sessionRequests
  cases hlogin : p.login net (.fresh replies) with
  | mk exchanges events line result =>
      cases result with
      | error fault =>
          rw [Run.bind_of_error hlogin]
          exact (List.append_nil _).symm
      | ok outcome => rw [Run.bind_of_ok hlogin, Trace.requests_after]; rfl

theorem sessionRun_result (p : Portal) (net : Network) (replies : List Reply) :
    (sessionRun p net (.fresh replies)).result =
      (p.login net (.fresh replies)).result.bind fun _ =>
        (p.fetch net (p.login net (.fresh replies)).line).result := by
  unfold sessionRun
  cases hlogin : p.login net (.fresh replies) with
  | mk exchanges events line result =>
      cases result with
      | error fault => rw [Run.bind_of_error hlogin]; rfl
      | ok outcome => rw [Run.bind_of_ok hlogin]; rfl

/-- The session brings a curriculum exactly when login and fetch do. -/
theorem fetches_iff {p : Portal} (hp : portal options = .ok p) :
    Fetches options net replies components ↔
      ∃ curriculum, (sessionRun p net (.fresh replies)).result = .ok curriculum ∧
        curriculum.components = components := by
  rw [sessionRun_result]
  unfold Fetches
  constructor
  · rintro ⟨q, outcome, curriculum, hq, hlogin, hfetch, rfl⟩
    obtain rfl := Except.ok.inj (hp.symm.trans hq)
    refine ⟨curriculum, ?_, rfl⟩
    rw [hlogin]
    exact hfetch
  · rintro ⟨curriculum, hresult, rfl⟩
    cases hlogin : (p.login net (.fresh replies)).result with
    | error fault =>
        rw [hlogin] at hresult
        cases hresult
    | ok outcome =>
        rw [hlogin] at hresult
        exact ⟨p, outcome, curriculum, hp, hlogin, hresult, rfl⟩

/-! ### The files -/

variable {f : Folder} {name : String}

@[simp] theorem Progression.outcome_exit_after (p : Progression) (requests : List Request)
    (events : List Event) : (p.after requests events).outcome.exit = p.outcome.exit := by
  unfold outcome after
  cases p.result <;> rfl

@[simp] theorem Progression.outcome_folder (p : Progression) : p.outcome.folder = p.folder := by
  unfold outcome
  cases p.result <;> rfl

@[simp] theorem Progression.outcome_requests (p : Progression) :
    p.outcome.requests = p.requests := by
  unfold outcome
  cases p.result <;> rfl

theorem andThen_requests (outcome : Filing.Outcome) {next : Folder → Progression}
    (hnext : ∀ f, (next f).requests = []) : (andThen outcome next).requests = [] := by
  unfold andThen
  cases outcome.result with
  | error fault => rfl
  | ok done => exact hnext outcome.folder

/-- Nothing is sent once the components are there. -/
theorem exportStage_requests (options : Options) (components : List Component) (f : Folder) :
    (exportStage options components f).requests = [] := by
  apply andThen_requests
  intro f
  unfold reportStage
  cases Progress.ofComponents components with
  | error missing => rfl
  | ok progress =>
      cases options.report with
      | none => rfl
      | some path => exact andThen_requests _ fun _ => rfl

/-- The report is the last to be written, beside the export or over it. -/
theorem reportStage_leaves (hwrite : Folder.empty.CanWrite options.output)
    (hname : MeansFile options.output name)
    (hfiles : f.Holds [([name], options.format.render components)]) :
    Leaves options components (reportStage options.report components f).outcome.exit
      (reportStage options.report components f).folder := by
  unfold reportStage
  cases hsorted : Progress.ofComponents components with
  | error missing => exact .unsorted hwrite hname hsorted hfiles
  | ok progress =>
      cases hreport : options.report with
      | none => exact .exported hwrite hname hsorted hreport hfiles
      | some path =>
          unfold Filing.fileReport
          rcases Filing.file_cases f path (Report.ofComponents components progress).render
            (.reported path) with
            ⟨hpath, dir, other, after, hmeans, hwritten, hfile⟩ | ⟨hpath, fault, hfile⟩
          · obtain ⟨rfl, hother⟩ := hfiles.means_iff.1 hmeans
            dsimp only
            rw [hfile]
            exact .reported hwrite hname hsorted hreport (hfiles.canWrite_iff.1 hpath) hother
              (hfiles.rewritten hwritten)
          · dsimp only
            rw [hfile]
            exact .unreported hwrite hname hsorted hreport (mt hfiles.canWrite_iff.2 hpath) hfiles

theorem exportStage_leaves (options : Options) (components : List Component) :
    Leaves options components (exportStage options components .empty).outcome.exit
      (exportStage options components .empty).folder := by
  unfold exportStage Filing.fileComponents
  rcases Filing.file_cases .empty options.output (options.format.render components)
    (.exported options.output options.format components.length) with
    ⟨hwrite, dir, name, after, hmeans, hwritten, hfile⟩ | ⟨hwrite, fault, hfile⟩
  · obtain ⟨rfl, hname⟩ := Folder.holds_empty.means_iff.1 hmeans
    have hleaves := reportStage_leaves hwrite hname (Folder.holds_empty.rewritten hwritten)
    rw [hfile]
    unfold andThen
    dsimp only
    rw [Progression.outcome_exit_after]
    exact hleaves
  · rw [hfile]
    exact .unwritten hwrite

/-! ### The command -/

/-- After the components have been fetched, the exit code is 0 exactly when the rest succeeds. -/
theorem Leaves.exit_eq_zero_iff {exit : Nat} (h : Leaves options components exit f) :
    exit = 0 ↔ Folder.empty.CanWrite options.output ∧
      ∃ progress, Progress.ofComponents components = .ok progress ∧
        ∀ path ∈ options.report, Folder.empty.CanWrite path := by
  cases h with
  | unwritten hwrite => simp [hwrite]
  | unsorted hwrite hname hsorted hfiles => simp [hsorted]
  | unreported hwrite hname hsorted hreport hpath hfiles => simp [hsorted, hreport, hpath]
  | exported hwrite hname hsorted hreport hfiles => simp [hwrite, hsorted, hreport]
  | reported hwrite hname hsorted hreport hpath hother hfiles =>
      simp [hwrite, hsorted, hreport, hpath]

theorem Fetches.unique {others : List Component} (h : Fetches options net replies components)
    (hothers : Fetches options net replies others) : components = others := by
  obtain ⟨p, outcome, curriculum, hp, -, hfetch, rfl⟩ := h
  obtain ⟨q, other, more, hq, -, hmore, rfl⟩ := hothers
  obtain rfl := Except.ok.inj (hp.symm.trans hq)
  obtain rfl := Except.ok.inj (hfetch.symm.trans hmore)
  rfl

theorem GoesByStages.of_unfetched {out : Outcome}
    (hnone : ∀ components, ¬Fetches options net replies components)
    (hunsent : ∀ fault, portal options = .error fault → out.requests = [])
    (hsent : ∀ p, portal options = .ok p → out.requests = sessionRequests p net replies)
    (hexit : out.exit = 1) (hfolder : out.folder = .empty) :
    GoesByStages options net replies out where
  unsent := hunsent
  sent := hsent
  unfetched _ := ⟨hexit, hfolder⟩
  fetched components hfetches := absurd hfetches (hnone components)
  exit := by
    rw [hexit]
    refine ⟨nofun, ?_⟩
    rintro ⟨components, progress, hfetches, -⟩
    exact absurd hfetches (hnone components)

theorem GoesByStages.of_fetched {out : Outcome} (hfetches : Fetches options net replies components)
    (hunsent : ∀ fault, portal options = .error fault → out.requests = [])
    (hsent : ∀ p, portal options = .ok p → out.requests = sessionRequests p net replies)
    (hleaves : Leaves options components out.exit out.folder) :
    GoesByStages options net replies out where
  unsent := hunsent
  sent := hsent
  unfetched hnone := absurd hfetches (hnone components)
  fetched others hothers := by rwa [← hfetches.unique hothers]
  exit := by
    rw [hleaves.exit_eq_zero_iff]
    constructor
    · rintro ⟨hwrite, progress, hsorted, hpath⟩
      exact ⟨components, progress, hfetches, hwrite, hsorted, hpath⟩
    · rintro ⟨others, progress, hothers, hwrite, hsorted, hpath⟩
      rw [hfetches.unique hothers]
      exact ⟨hwrite, progress, hsorted, hpath⟩

theorem stages_goesByStages (options : Options) (net : Network) (replies : List Reply) :
    GoesByStages options net replies (stages options net replies .empty).outcome := by
  unfold stages
  cases hportal : portal options with
  | error fault =>
      apply GoesByStages.of_unfetched
      · rintro components ⟨p, outcome, curriculum, hp, -⟩
        cases hportal.symm.trans hp
      · exact fun _ _ => rfl
      · intro p hp
        cases hportal.symm.trans hp
      · rfl
      · rfl
  | ok p =>
      have hunsent {requests : List Request} (fault : Endpoints.Fault)
          (hfault : portal options = .error fault) : requests = [] := by
        cases hportal.symm.trans hfault
      have hsent (q : Portal) (hq : portal options = .ok q) :
          (sessionRun p net (.fresh replies)).requests = sessionRequests q net replies := by
        obtain rfl := Except.ok.inj (hportal.symm.trans hq)
        exact sessionRun_requests p net replies
      cases hresult : (sessionRun p net (.fresh replies)).result with
      | error fault =>
          dsimp only
          rw [hresult]
          apply GoesByStages.of_unfetched _ hunsent hsent rfl rfl
          intro components hfetches
          obtain ⟨curriculum, hcurriculum, -⟩ := (fetches_iff hportal).1 hfetches
          cases hresult.symm.trans hcurriculum
      | ok curriculum =>
          have hfetches : Fetches options net replies curriculum.components :=
            (fetches_iff hportal).2 ⟨curriculum, hresult, rfl⟩
          dsimp only
          rw [hresult]
          apply GoesByStages.of_fetched hfetches hunsent
          · intro q hq
            rw [← hsent q hq, Progression.outcome_requests]
            show _ ++ (exportStage options curriculum.components .empty).requests = _
            rw [exportStage_requests, List.append_nil]
          · rw [Progression.outcome_exit_after, Progression.outcome_folder]
            exact exportStage_leaves options curriculum.components

/-- Whatever the portal answers, a command whose arguments can be read goes by stages. -/
theorem run_goesByStages {arguments : List String} {environment : String → Option String}
    {options : Options} (hoptions : readOptions arguments environment = .ok options)
    (net : Network) (replies : List Reply) :
    GoesByStages options net replies (run arguments environment net replies .empty) := by
  unfold run
  rw [hoptions]
  exact stages_goesByStages options net replies

/-- A report is asked for, and the portal hangs up after its login page. -/
theorem run_goesByStages_of_lost_login :
    let arguments := ["-uana", "-psegredo", "--base-url", "http://[::1]", "--report=plano.md"]
    let options : Options :=
      { username := "ana", password := "segredo", baseUrl := "http://[::1]", affiliation := "1"
        mode := .auto, output := "instancia.json", format := .table, report := some "plano.md" }
    let replies := [.response ⟨200, [], []⟩, .closed]
    readOptions arguments (fun _ => none) = .ok options ∧
      GoesByStages options (.plain 0) replies
        (run arguments (fun _ => none) (.plain 0) replies .empty) := by
  intro arguments options replies
  have hoptions : readOptions arguments (fun _ => none) = .ok options := by
    decide +kernel
  exact ⟨hoptions, run_goesByStages hoptions (.plain 0) replies⟩

end DegreeAudit.Command
