import MailSync.Text.Split
import MailSync.Text.Utf8

/-!
# The environment

Named values handed to the program. A value need not be text; whoever asks
for text sees such a value as not set.
-/

namespace MailSync

/-- Variables with their octets; of two with one name the first counts. -/
structure Environment where
  entries : List (String × Bytes)
deriving Repr

namespace Environment

def empty : Environment := ⟨[]⟩

/-- The variables in a block of `NAME=VALUE` entries with a zero octet after each. -/
def ofBlock (block : Bytes) : Environment :=
  ⟨(block.splitOn 0).filterMap fun entry => do
    let (name, value) ← splitAt 61 entry
    return (← Utf8.decode? name, value)⟩

def value? (env : Environment) (name : String) : Option Bytes := env.entries.lookup name

/-- The value of a variable that is set to text. -/
def text? (env : Environment) (name : String) : Option String :=
  env.value? name >>= Utf8.decode?

def isSet (env : Environment) (name : String) : Bool := (env.value? name).isSome

/-- Sets a variable. -/
def set (env : Environment) (name : String) (value : Bytes) : Environment :=
  ⟨(name, value) :: env.entries.filter (·.1 ≠ name)⟩

/-- Removes a variable. -/
def unset (env : Environment) (name : String) : Environment :=
  ⟨env.entries.filter (·.1 ≠ name)⟩

/-- Sets a variable that is not set. -/
def setDefault (env : Environment) (name : String) (value : Bytes) : Environment :=
  if env.isSet name then env else env.set name value

end Environment

end MailSync
