import DegreeAudit.Export.Format
import DegreeAudit.Portal.AffiliationMode
import DegreeAudit.Portal.Endpoints
import DegreeAudit.Portal.Session

/-!
# Options of the command

Each option has a long name, perhaps a letter, perhaps a variable of the environment that stands for
it, and perhaps a value that is used when it is not given. A value that the option cannot have is
refused as soon as it is read. A timeout is checked like every other value and then not kept: time
does not pass here, and a portal that stays silent is one that was given up on.
-/

namespace DegreeAudit.Command

inductive Opt where
  | username
  | password
  | baseUrl
  | affiliation
  | mode
  | output
  | format
  | report
  | timeout
deriving DecidableEq, Repr

namespace Opt

def all : List Opt :=
  [username, password, baseUrl, affiliation, mode, output, format, report, timeout]

def name : Opt → String
  | username => "username"
  | password => "password"
  | baseUrl => "base-url"
  | affiliation => "vinculo"
  | mode => "affiliation"
  | output => "output"
  | format => "format"
  | report => "report"
  | timeout => "timeout"

def letter? : Opt → Option Char
  | username => some 'u'
  | password => some 'p'
  | output => some 'o'
  | format => some 'f'
  | _ => none

/-- The variable that stands for an option that is not given. -/
def fallback? : Opt → Option String
  | username => some "SIGAA_USERNAME"
  | password => some "SIGAA_PASSWORD"
  | baseUrl => some "SIGAA_BASE_URL"
  | _ => none

def ofName? (text : String) : Option Opt := all.find? (·.name == text)

def ofLetter? (c : Char) : Option Opt := all.find? (·.letter? == some c)

def maxTimeout : Nat := 0xFFFFFFFFFFFFFFFF

/-- Whether a text writes a number of seconds: digits, perhaps after a plus sign. -/
def isSeconds (text : String) : Bool :=
  let digits : List Char := match text.toList with
    | '+' :: rest => rest
    | s => s
  let n := digits.foldl (fun n c => 10 * n + (c.toNat - '0'.toNat)) 0
  !digits.isEmpty && digits.all Char.isDigit && n ≤ maxTimeout

def accepts (option : Opt) (value : String) : Bool :=
  match option with
  | username | password | baseUrl | affiliation => true
  | mode => (AffiliationMode.ofName? value).isSome
  | format => (ExportFormat.ofName? value).isSome
  | output | report => !value.isEmpty
  | timeout => isSeconds value

end Opt

structure Options where
  username : String
  password : String
  baseUrl : String
  affiliation : String
  mode : AffiliationMode
  output : String
  format : ExportFormat
  report : Option String
deriving DecidableEq, Repr

namespace Options

def defaultOutput : String := "instancia.json"

/-- The options for given values; without a user name or a password there are none. -/
def ofValues? (value? : Opt → Option String) : Option Options := do
  return {
    username := ← value? .username
    password := ← value? .password
    baseUrl := (value? .baseUrl).getD Endpoints.defaultBase
    affiliation := (value? .affiliation).getD Portal.defaultAffiliation
    mode := ((value? .mode).bind AffiliationMode.ofName?).getD .default
    output := (value? .output).getD defaultOutput
    format := ((value? .format).bind ExportFormat.ofName?).getD .default
    report := value? .report }

end Options

end DegreeAudit.Command
