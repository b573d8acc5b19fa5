import MailSync.Submission.Bcc
import MailSync.Text.Blank
import MailSync.Text.Number
import MailSync.Text.Utf8

/-!
# Replies of a submission server

A reply has a code of three digits and one or more lines of text; all lines
but the last have a hyphen after the code.
-/

namespace MailSync

structure SmtpReply where
  code : Nat
  lines : List String
deriving DecidableEq, Repr

namespace SmtpReply

/-- Whether the server goes along with the command. -/
def isPositive (r : SmtpReply) : Bool := r.code / 100 = 2 || r.code / 100 = 3

/-- The text of a reply, its lines run together. -/
def text (r : SmtpReply) : String := String.join r.lines

/-- The first word of the first line. -/
def firstWord? (r : SmtpReply) : Option String :=
  r.lines.head? >>= fun line => (Blank.words line).head?

/-- One line of a reply. -/
structure Line where
  code : Nat
  isLast : Bool
  text : String
deriving DecidableEq, Repr

/-- The code that three digits stand for: from 2 to 5, from 0 to 5, and any. -/
def code? (a b c : Char) : Option Nat := do
  let a ← Number.digit? a
  let b ← Number.digit? b
  let c ← Number.digit? c
  if 2 ≤ a && a ≤ 5 && b ≤ 5 then return a * 100 + b * 10 + c else none

/-- Reads a line without its line end. -/
def Line.read? (line : List Char) : Option Line :=
  match line with
  | a :: b :: c :: rest => do
    let code ← code? a b c
    match rest with
    | [] => return ⟨code, true, ""⟩
    | ' ' :: text => return ⟨code, true, String.ofList text⟩
    | '-' :: text => return ⟨code, false, String.ofList text⟩
    | _ => none
  | _ => none

/-- What the bytes received so far amount to. -/
inductive Progress where
  | incomplete
  | unreadable
  | complete (reply : SmtpReply)
deriving DecidableEq, Repr

/-- Joins lines to a reply; all of them have the code of the first. -/
def ofLines (read : List Line) : List Bytes → Progress
  | [] => .incomplete
  | line :: rest =>
    if !([13, 10] : Bytes).isSuffixOf line then .incomplete
    else match Utf8.decode? (line.take (line.length - 2)) with
      | none => .unreadable
      | some text =>
        match Line.read? text.toList with
        | none => .unreadable
        | some l =>
          if read.any (·.code ≠ l.code) then .unreadable
          else if l.isLast then .complete ⟨l.code, ((l :: read).reverse).map (·.text)⟩
          else ofLines (l :: read) rest

/-- Reads the bytes received so far. -/
def read (bytes : Bytes) : Progress := ofLines [] (Bcc.lines bytes)

/-- The words of each line after the first, which name what a server can do. -/
def features (r : SmtpReply) : List (List String) :=
  (r.lines.drop 1).map Blank.words

/-- Whether a server says that it has a feature. -/
def offers (r : SmtpReply) (feature : String) : Bool :=
  r.features.any fun words => words.head? = some feature

/-- Whether a server accepts a login mechanism. -/
def accepts (r : SmtpReply) (mechanism : String) : Bool :=
  r.features.any fun words => words.head? = some "AUTH" && words.tail.contains mechanism

end SmtpReply

end MailSync
