import DegreeAudit.Curriculum.Answer
import DegreeAudit.Export.Filing
import DegreeAudit.Export.Format
import DegreeAudit.Export.Report
import DegreeAudit.Export.Report.Reader
import DegreeAudit.Html.Document
import DegreeAudit.Main
import DegreeAudit.Page.AffiliationForm
import DegreeAudit.Portal.AffiliationMode
import DegreeAudit.Portal.Credentials
import DegreeAudit.Portal.Endpoints
import DegreeAudit.Portal.Refusal
import DegreeAudit.Portal.Settings
import DegreeAudit.Proofs.Command.Stages
import DegreeAudit.Proofs.Curriculum.Answer
import DegreeAudit.Proofs.Export.Columns
import DegreeAudit.Proofs.Export.Filing
import DegreeAudit.Proofs.Http.Cookie
import DegreeAudit.Proofs.Http.Traffic
import DegreeAudit.Proofs.Json.Members
import DegreeAudit.Proofs.Page.Click
import DegreeAudit.Proofs.Page.Payload
import DegreeAudit.Proofs.Portal.Parts
import DegreeAudit.Proofs.Portal.Protocol
import DegreeAudit.Proofs.Portal.Secrecy
import DegreeAudit.Proofs.Portal.Separation
import DegreeAudit.Proofs.Portal.SessionCookie
import DegreeAudit.Proofs.Portal.Token
import DegreeAudit.Proofs.Text.Delimited
import DegreeAudit.Proofs.Url.Reader
import DegreeAudit.Url.Host
import DegreeAudit.Url.Percent
import DegreeAudit.Url.Punycode
import DegreeAudit.Url.Reader
import DegreeAudit.Proofs.Page.Recognition
import DegreeAudit.Proofs.Curriculum.Progress
import DegreeAudit.Proofs.Json.Skip
import DegreeAudit.Proofs.Curriculum.Shape
import DegreeAudit.Proofs.Http.Bodies
import DegreeAudit.Proofs.Portal.Fetch
import DegreeAudit.Proofs.Url.Directory
import DegreeAudit.Proofs.Portal.Endpoints
import DegreeAudit.Proofs.Portal.Delivery
import DegreeAudit.Proofs.Export.Report
import DegreeAudit.Proofs.Export.Tabulation
import DegreeAudit.Proofs.Text.Quoted
import DegreeAudit.Proofs.Page.Label
import DegreeAudit.Proofs.Portal.Refusal
