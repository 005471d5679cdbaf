import DegreeAudit.Command.Arguments
import DegreeAudit.Export.Filing

/-!
# Running the command

The command logs in, fetches the curriculum, writes the export, sorts the components and, if asked,
writes the report. The first stage that fails ends it; what was written before stays. Its exit code
is 0 when all went well, 1 when a stage failed and 2 when the arguments were wrong.
-/

namespace DegreeAudit.Command

open Http

/-- What stops the command after its arguments were read. -/
inductive Fault where
  | base (fault : Endpoints.Fault)
  | run (fault : RunFault)
  | filing (fault : Filing.Fault)

/-- The message of a fault, if it is one of the command's own. -/
def Fault.message? : Fault → Option String
  | base fault => some fault.message
  | run fault => fault.message?
  | filing fault => some fault.message

structure Progression where
  requests : List Request
  events : List Event
  folder : Folder
  result : Except Fault Unit

def Progression.after (requests : List Request) (events : List Event) (p : Progression) :
    Progression :=
  { p with requests := requests ++ p.requests, events := events ++ p.events }

def andThen (outcome : Filing.Outcome) (next : Folder → Progression) : Progression :=
  match outcome.result with
  | .error fault => ⟨[], outcome.events, outcome.folder, .error (.filing fault)⟩
  | .ok () => (next outcome.folder).after [] outcome.events

/-- Sorts the components and writes the report, if one is wanted. -/
def reportStage (report : Option String) (components : List Component) (folder : Folder) :
    Progression :=
  match Progress.ofComponents components with
  | .error missing => ⟨[], [], folder, .error (.filing (.component missing))⟩
  | .ok progress =>
    match report with
    | none => ⟨[], [.categorized progress], folder, .ok ()⟩
    | some path =>
      (andThen (Filing.fileReport folder path (.ofComponents components progress)) fun folder =>
        ⟨[], [], folder, .ok ()⟩).after [] [.categorized progress]

def exportStage (options : Options) (components : List Component) (folder : Folder) : Progression :=
  andThen (Filing.fileComponents folder options.format options.output components)
    (reportStage options.report components)

def portal (options : Options) : Except Endpoints.Fault Portal :=
  (Endpoints.ofBase options.baseUrl).map fun endpoints =>
    { credentials := ⟨options.username, options.password⟩
      endpoints := endpoints
      affiliation := options.affiliation
      mode := options.mode }

def sessionRun (p : Portal) : Run Curriculum := do
  let _ ← p.login
  p.fetch

def stages (options : Options) (net : Network) (replies : List Reply) (folder : Folder) :
    Progression :=
  match portal options with
  | .error fault => ⟨[], [], folder, .error (.base fault)⟩
  | .ok p =>
    let trace := sessionRun p net (.fresh replies)
    match trace.result with
    | .error fault => ⟨trace.requests, trace.events, folder, .error (.run fault)⟩
    | .ok curriculum =>
      (exportStage options curriculum.components folder).after trace.requests trace.events

/-- What the command leaves behind. Of what it prints, the account of the options that the help
gives is left out. -/
structure Outcome where
  exit : Nat
  stdout : String
  errorLine : Option String
  events : List Event
  requests : List Request
  folder : Folder

def versionText : String := "sigaa-progress 0.1.0\n"

def firstLine (text : String) : String := String.ofList (text.toList.takeWhile (· != '\n'))

def Progression.outcome (p : Progression) : Outcome :=
  match p.result with
  | .ok () => ⟨0, "", none, p.events, p.requests, p.folder⟩
  | .error fault =>
    let line := fault.message?.map fun message => firstLine ("Error: " ++ message)
    ⟨1, "", line, p.events, p.requests,
      p.folder⟩

def Stop.outcome (folder : Folder) : Stop → Outcome
  | version => ⟨0, versionText, none, [], [], folder⟩
  | help => ⟨0, "", none, [], [], folder⟩
  | usage => ⟨2, "", none, [], [], folder⟩

def run (arguments : List String) (environment : String → Option String) (net : Network)
    (replies : List Reply) (folder : Folder) : Outcome :=
  match readOptions arguments environment with
  | .error stop => stop.outcome folder
  | .ok options => (stages options net replies folder).outcome

end DegreeAudit.Command
