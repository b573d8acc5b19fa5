import MailSync.Error
import MailSync.Settings.File
import MailSync.Text.Number

/-!
# Settings

The account, how to synchronise it, and its credentials, all read from the
environment. A variable that is set must hold a valid value.
-/

namespace MailSync

/-- How the connection to the mail server is secured. -/
inductive Security where
  | tls
  | startTls
deriving DecidableEq, Repr

namespace Security

def read (text : String) : Except MailError Security :=
  match Ascii.lower text with
  | "tls" | "ssl" => .ok tls
  | "starttls" => .ok startTls
  | other => .error (.config ("Invalid IMAP_SECURITY: " ++ other))

def name : Security → String
  | tls => "Tls"
  | startTls => "StartTls"

end Security

structure AccountSettings where
  email : String
  imapHost : String
  imapPort : UInt16
  security : Security
  smtpHost : String
  smtpPort : UInt16
  /-- Whether any certificate of a server will do. -/
  acceptInvalidCerts : Bool
deriving DecidableEq, Repr

structure SyncSettings where
  /-- The number of messages on a page. -/
  pageSize : UInt32
  /-- Whether the account shows encrypted mail only. -/
  showOnlyEncrypted : Bool
deriving DecidableEq, Repr

/-- How an account proves its identity. -/
inductive LoginMethod where
  /-- A bearer token. -/
  | token
  /-- The token as a password. -/
  | password
deriving DecidableEq, Repr

/-- An address and the secret that goes with it. -/
structure Credentials where
  email : String
  token : String
deriving DecidableEq, Repr

namespace Settings

/-- The value of a variable, by the given reader of its trimmed text, or the
default where it is not set to text. -/
def parsed {α : Type} (env : Environment) (name : String) (default : α)
    (read : String → Except String α) : Except MailError α :=
  match env.text? name with
  | none => .ok default
  | some text =>
    match read (trimmed text) with
    | .ok a => .ok a
    | .error why => .error (.config ("Invalid " ++ name ++ ": " ++ why))

def port (text : String) : Except String UInt16 :=
  match Number.natural 65535 text with
  | .ok n => .ok (UInt16.ofNat n)
  | .error e => .error e.message

def pageSize (text : String) : Except String UInt32 :=
  match Number.natural 4294967295 text with
  | .ok n => .ok (UInt32.ofNat n)
  | .error e => .error e.message

def flag (text : String) : Except String Bool :=
  match boolean? text with
  | some b => .ok b
  | none => .error "provided string was not `true` or `false`"

def security (text : String) : Except String Security :=
  match Security.read text with
  | .ok s => .ok s
  | .error e => .error e.message

/-- The value of a variable that has no default. -/
def required (env : Environment) (name : String) : Except MailError String :=
  match env.text? name with
  | some text => .ok text
  | none => .error (.config (name ++ " not set"))

end Settings

namespace AccountSettings

/-- The settings of an account at Gmail, which are also the defaults. -/
def gmail (email : String) : AccountSettings :=
  { email, imapHost := "imap.gmail.com", imapPort := 993, security := .tls,
    smtpHost := "smtp.gmail.com", smtpPort := 465, acceptInvalidCerts := false }

open Settings in
def ofEnvironment (env : Environment) : Except MailError AccountSettings := do
  let defaults := gmail (← required env "MAIL_EMAIL")
  return {
    email := defaults.email
    imapHost := (env.text? "IMAP_HOST").getD defaults.imapHost
    imapPort := ← parsed env "IMAP_PORT" defaults.imapPort port
    security := ← parsed env "IMAP_SECURITY" defaults.security Settings.security
    smtpHost := (env.text? "SMTP_HOST").getD defaults.smtpHost
    smtpPort := ← parsed env "SMTP_PORT" defaults.smtpPort port
    acceptInvalidCerts := ← parsed env "MAIL_ACCEPT_INVALID_CERTS" false flag }

end AccountSettings

namespace SyncSettings

def default : SyncSettings := ⟨20, false⟩

open Settings in
def ofEnvironment (env : Environment) : Except MailError SyncSettings := do
  let size ← parsed env "SYNC_PAGE_SIZE" default.pageSize Settings.pageSize
  if size = 0 then throw (.config "SYNC_PAGE_SIZE must be positive")
  return ⟨size, ← parsed env "SYNC_ONLY_ENCRYPTED" default.showOnlyEncrypted flag⟩

end SyncSettings

namespace Credentials

def ofEnvironment (env : Environment) : Except MailError Credentials := do
  return ⟨← Settings.required env "MAIL_EMAIL", ← Settings.required env "MAIL_OAUTH_TOKEN"⟩

/-- The token, if there is one. -/
def validToken (c : Credentials) : Except MailError String :=
  if c.token = "" then .error (.auth "no access token configured") else .ok c.token

end Credentials

end MailSync
