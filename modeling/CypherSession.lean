import CypherSession.Connection.Http
import CypherSession.Connection.Run
import CypherSession.Proofs.Acceptance
import CypherSession.Proofs.Connection.Batch
import CypherSession.Proofs.Connection.Blame
import CypherSession.Proofs.Connection.Closing
import CypherSession.Proofs.Connection.Probe
import CypherSession.Proofs.Connection.ReadOnly
import CypherSession.Proofs.Dictionary
import CypherSession.Proofs.Dispatch
import CypherSession.Proofs.Json.Record
import CypherSession.Proofs.Response.Identity
import CypherSession.Proofs.Response.Members
import CypherSession.Proofs.Response.RowLimit
import CypherSession.Proofs.Response.UpdateCount
import CypherSession.Proofs.Session.Abandoned
import CypherSession.Proofs.Session.Commit
import CypherSession.Proofs.Session.CommitUrl
import CypherSession.Proofs.Session.Expiry
import CypherSession.Proofs.Session.Life
import CypherSession.Proofs.Session.Mode
import CypherSession.Proofs.Session.Outcome
import CypherSession.Proofs.Session.RowLimit
import CypherSession.Proofs.Session.Table
import CypherSession.Proofs.Session.Unanswered
import CypherSession.Proofs.Settings.Encryption
import CypherSession.Proofs.Settings.Limits
import CypherSession.Proofs.Settings.OptionEffects
import CypherSession.Proofs.Settings.OptionText
import CypherSession.Proofs.Settings.Options
import CypherSession.Proofs.Settings.PasswordUrl
import CypherSession.Proofs.Settings.Place
import CypherSession.Proofs.Settings.RoundTrip
import CypherSession.Proofs.Statement.BindAll
import CypherSession.Proofs.Statement.Binding
import CypherSession.Proofs.Statement.JsonForm
import CypherSession.Proofs.Statement.Keywords
import CypherSession.Proofs.Statement.Numbering
import CypherSession.Proofs.Statement.Renumbering
import CypherSession.Proofs.Text.Percent
