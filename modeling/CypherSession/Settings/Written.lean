import CypherSession.Settings.Basic
import CypherSession.Text.Quoted

/-!
# Settings written out

The texts in which settings, drafts and credentials appear in logs. None of them depends on a
password: where one is set, a fixed mark stands in its place. The attributes of settings are listed
in an order that is not theirs, and that can be another one for settings with the same attributes;
so a text that lists them takes the order as an argument.
-/

namespace CypherSession

open Text (quote optional record)

def redacted : String := "<redacted>"

namespace Credentials

def debugText (credentials : Credentials) : String :=
  record "Credentials"
    [("username", quote credentials.username), ("password", quote redacted)]

def text (credentials : Credentials) : String :=
  "Credentials(username: " ++ credentials.username ++ ")"

end Credentials

namespace Settings

def attributesText (attributes : List (String × String)) : String :=
  let pairs := attributes.map fun (name, value) => quote name ++ ": " ++ quote value
  "\x7b" ++ ", ".intercalate pairs ++ "\x7d"

/-- The text with the names of all fields, with the attributes in the order given. -/
def debugText (settings : Settings)
    (attributes : List (String × String) := settings.attributes.entries) : String :=
  record "ConnectionParams" [
    ("host", quote settings.host),
    ("port", toString settings.port),
    ("username", optional (settings.username?.map quote)),
    ("password", quote redacted),
    ("use_tls", toString settings.useTls),
    ("auto_commit", toString settings.autoCommit),
    ("max_rows", toString settings.maxRows),
    ("debug", toString settings.debug),
    ("read_only", toString settings.readOnly),
    ("timeout", settings.timeout.text),
    ("database", optional (settings.database?.map quote)),
    ("attributes", attributesText attributes)]

def text (settings : Settings) : String :=
  record "ConnectionParams" [
    ("host", settings.host),
    ("port", toString settings.port),
    ("username", optional (settings.username?.map quote)),
    ("use_tls", toString settings.useTls),
    ("auto_commit", toString settings.autoCommit)]

namespace Draft

def debugText (draft : Draft) : String :=
  record "ConnectionBuilder" [
    ("host", optional (draft.host?.map quote)),
    ("port", optional (draft.port?.map toString)),
    ("username", optional (draft.username?.map quote)),
    ("password", optional (draft.password?.map fun _ => quote redacted))] true

end Draft

end Settings

end CypherSession
