import MailSync.Text.Ascii

/-!
# Logging in with a bearer token
-/

namespace MailSync.BearerLogin

/-- The response that carries address and token. -/
def response (email token : String) : Bytes :=
  utf8 ("user=" ++ email ++ "\x01auth=Bearer " ++ token ++ "\x01\x01")

/-- The response to the challenge with this number: a second challenge tells
why the token was refused, and an empty response lets the server say so. -/
def reply (email token : String) (challenge : Nat) : Bytes :=
  if challenge = 0 then response email token else []

end MailSync.BearerLogin
