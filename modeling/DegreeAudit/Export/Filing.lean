import DegreeAudit.Curriculum.Answer
import DegreeAudit.Event
import DegreeAudit.Export.Report
import DegreeAudit.Files.Path
import DegreeAudit.Portal.Refusal
import DegreeAudit.Text.Word

/-!
# Filing exports and reports

Exports and reports are put into a folder. The text is complete before the file is touched, and an
event tells of the file only after it was written; so what fails leaves the folder as it was and
tells of nothing.
-/

namespace DegreeAudit

open Json

/-- What filing was asked to do and could not. -/
inductive Filing.Fault where
  | format
  | answer (failure : Failure)
  | component (missing : MissingField)
  | file (path : String) (fault : Folder.Fault)
  | making (fault : Folder.Fault)

def Filing.Fault.message : Filing.Fault → String
  | format => Text.unknownWord
  | answer _ => Curriculum.refusedMessage
  | component missing => (Refusal.missingField missing).message
  | file path _ => "failed to write " ++ path
  | making fault => fault.message

/-- One thing to file: an answer's components in a format named by a word, a report on them, or a
new folder. -/
inductive Filing where
  | components (format : Option String) (path body : String)
  | report (path body : String)
  | folder (path : String)
deriving DecidableEq, Repr

namespace Filing

/-- What comes of an attempt: the folder as it is then, the events, and whether it failed. -/
structure Outcome where
  folder : Folder
  events : List Event
  result : Except Fault Unit

def file (f : Folder) (path text : String) (event : Event) : Outcome :=
  match f.write path text with
  | .ok f => ⟨f, [event], .ok ()⟩
  | .error fault => ⟨f, [], .error (.file path fault)⟩

def fileComponents (f : Folder) (format : ExportFormat) (path : String)
    (components : List Component) : Outcome :=
  file f path (format.render components) (.exported path format components.length)

def fileReport (f : Folder) (path : String) (report : Report) : Outcome :=
  file f path report.render (.reported path)

/-- The format that a word names; without a word the usual one. -/
def formatOf (word : Option String) : Except Fault ExportFormat :=
  match word with
  | none => .ok .default
  | some word => (ExportFormat.ofName? word).elim (.error .format) .ok

def componentsOf (body : String) : Except Fault (List Component) :=
  ((Curriculum.ofBody body).mapError .answer).map Curriculum.components

def reportOf (body : String) : Except Fault Report := do
  let components ← componentsOf body
  let progress ← (Progress.ofComponents components).mapError .component
  return .ofComponents components progress

def run (f : Folder) : Filing → Outcome
  | .components word path body =>
    match formatOf word, componentsOf body with
    | .error fault, _ => ⟨f, [], .error fault⟩
    | .ok _, .error fault => ⟨f, [], .error fault⟩
    | .ok format, .ok list => fileComponents f format path list
  | .report path body =>
    match reportOf body with
    | .error fault => ⟨f, [], .error fault⟩
    | .ok r => fileReport f path r
  | .folder path =>
    match f.make path with
    | .error fault => ⟨f, [], .error (.making fault)⟩
    | .ok f => ⟨f, [], .ok ()⟩

/-- Files one thing after the other, whether or not one before it failed. -/
def runAll (f : Folder) : List Filing → List Outcome
  | [] => []
  | filing :: rest => let outcome := run f filing; outcome :: runAll outcome.folder rest

end Filing

end DegreeAudit
