import MailSync.Settings.Environment
import MailSync.Text.Alphanumeric
import MailSync.Text.Blank

/-!
# The settings file

A file of lines `NAME=value` that supplies variables the environment lacks.
Values may be quoted, also over several lines, may refer to variables with
a dollar sign, and may be followed by a comment. The file counts up to its
first faulty line.
-/

namespace MailSync.SettingsFile

/-- Where the search for the end of a line stands. -/
inductive LineState where
  | plain
  | blank
  | escaped
  | double
  | doubleEscaped
  | single
  | singleEscaped
  | comment
deriving DecidableEq, Repr

def LineState.next (s : LineState) (c : Char) : LineState :=
  match s with
  | .comment => .comment
  | .escaped => .plain
  | .doubleEscaped => .double
  | .singleEscaped => .single
  | .double => if c = '\\' then .doubleEscaped else if c = '"' then .plain else .double
  | .single => if c = '\\' then .singleEscaped else if c = '\'' then .plain else .single
  | .plain =>
    if isBlank c && c ≠ '\n' && c ≠ '\r' then .blank
    else if c = '\\' then .escaped
    else if c = '"' then .double
    else if c = '\'' then .single
    else .plain
  | .blank =>
    if c = '#' then .comment
    else if c = '\\' then .escaped
    else if c = '"' then .double
    else if c = '\'' then .single
    else .plain

/-- Follows one physical line; tells the text before a comment and the state at its end. -/
def follow (s : LineState) : List Char → List Char × LineState
  | [] => ([], s)
  | c :: rest =>
    match s.next c with
    | .comment => ([], .comment)
    | s => let (text, s) := follow s rest; (c :: text, s)

/-- The physical lines, each with its line feed. -/
def physicalLines : List Char → List (List Char)
  | [] => []
  | c :: rest =>
    if c = '\n' then [c] :: physicalLines rest
    else match physicalLines rest with
      | [] => [[c]]
      | line :: more => (c :: line) :: more

def dropLineEnd (line : List Char) : List Char :=
  if line.getLast? = some '\n' then
    let line := line.dropLast
    if line.getLast? = some '\r' then line.dropLast else line
  else line

/-- The logical lines; `none` stands for a line that the end of the file breaks off. -/
def logicalLines (pending : List Char) (s : LineState) : List (List Char) → List (Option (List Char))
  | [] => if s = .plain then [] else [none]
  | line :: rest =>
    let whole := pending ++ line
    if (Blank.trimStart whole).head? = some '#' then some [] :: logicalLines [] .plain rest
    else
      match follow s line with
      | (_, .plain) => some (dropLineEnd whole) :: logicalLines [] .plain rest
      | (text, .comment) => some (pending ++ text) :: logicalLines [] .plain rest
      | (_, s) => logicalLines whole s rest

/-- How a reference to a variable is being read. -/
inductive Reference where
  | bare (name : List Char)
  | braced (name : List Char)
deriving DecidableEq, Repr

/-- Where the reading of a value stands. -/
structure ValueReader where
  output : List Char
  escaped : Bool
  single : Bool
  double : Bool
  reference : Option Reference
  /-- Only blanks and a comment may follow. -/
  ended : Bool
deriving Repr

namespace ValueReader

def begin : ValueReader := ⟨[], false, false, false, none, false⟩

def push (r : ValueReader) (c : Char) : ValueReader := { r with output := r.output ++ [c] }

/-- Puts in the value of a variable. -/
def resolve (lookup : String → String) (r : ValueReader) (name : List Char) : ValueReader :=
  { r with output := r.output ++ (lookup (String.ofList name)).toList, reference := none }

/-- Reads the rest of a value; `none` if it is at fault. -/
def read (lookup : String → String) (r : ValueReader) : List Char → Option (List Char)
  | [] =>
    if r.single || r.double then none
    else match r.reference with
      | some (.braced _) => none
      | some (.bare name) => some (r.resolve lookup name).output
      | none => some r.output
  | c :: rest =>
    if r.ended then
      if c = ' ' || c = '\t' then read lookup r rest
      else if c = '#' then
        if r.single || r.double then none else some r.output
      else none
    else if r.escaped then
      if c = '\\' || c = '\'' || c = '"' || c = '$' || c = ' ' then
        read lookup ({ r with escaped := false }.push c) rest
      else if c = 'n' then read lookup ({ r with escaped := false }.push '\n') rest
      else none
    else if r.single then
      if c = '\'' then read lookup { r with single := false } rest
      else read lookup (r.push c) rest
    else match r.reference with
      | some (.bare name) =>
        if isAlphanumeric c then
          read lookup { r with reference := some (.bare (name ++ [c])) } rest
        else if c = '\x7b' && name.isEmpty then
          read lookup { r with reference := some (.braced []) } rest
        else if c = '$' then
          read lookup { r.resolve lookup name with reference := some (.bare []) } rest
        else read lookup ((r.resolve lookup name).push c) rest
      | some (.braced name) =>
        if c = '\x7d' then read lookup (r.resolve lookup name) rest
        else read lookup { r with reference := some (.braced (name ++ [c])) } rest
      | none =>
        if c = '$' then read lookup { r with reference := some (.bare []) } rest
        else if r.double then
          if c = '"' then read lookup { r with double := false } rest
          else if c = '\\' then read lookup { r with escaped := true } rest
          else read lookup (r.push c) rest
        else if c = '\'' then read lookup { r with single := true } rest
        else if c = '"' then read lookup { r with double := true } rest
        else if c = '\\' then read lookup { r with escaped := true } rest
        else if c = ' ' || c = '\t' then read lookup { r with ended := true } rest
        else read lookup (r.push c) rest

end ValueReader

/-- A name at the start of a line, and what follows it. -/
def name? (line : List Char) : Option (String × List Char) :=
  match line with
  | c :: _ =>
    if c.isAlpha || c = '_' then
      some (String.ofList (line.takeWhile isNameChar), line.dropWhile isNameChar)
    else none
  | [] => none
where isNameChar (c : Char) : Bool := c.isAlphanum || c = '_' || c = '.'

/-- What follows an equals sign. -/
def afterEqual? (line : List Char) : Option (List Char) :=
  match line with
  | '=' :: rest => some rest
  | _ => none

/-- A name, and what follows its equals sign; the word `export` may come first. -/
def assignment? (line : List Char) : Option (String × List Char) := do
  let (name, rest) ← name? line
  let rest := Blank.trimStart rest
  match afterEqual? rest with
  | some value => return (name, value)
  | none =>
    guard (name = "export")
    let (name, rest) ← name? rest
    return (name, ← afterEqual? (Blank.trimStart rest))

/-- What is known while a file is read: the environment, and the values of the file so far. -/
structure Reading where
  environment : Environment
  values : List (String × String)

namespace Reading

/-- The value a reference stands for; an unknown name stands for nothing. -/
def lookup (r : Reading) (name : String) : String :=
  (r.environment.text? name <|> r.values.lookup name).getD ""

def assign (r : Reading) (name value : String) : Reading :=
  ⟨r.environment.setDefault name (utf8 value), (name, value) :: r.values⟩

/-- Reads one logical line, without the blanks around it; `none` if it is at fault. -/
def line? (r : Reading) (line : List Char) : Option Reading :=
  match Blank.trimStart (Blank.trimEnd line) with
  | [] => some r
  | '#' :: _ => some r
  | text => do
    let (name, rest) ← assignment? text
    match Blank.trimStart rest with
    | [] => return r.assign name ""
    | '#' :: _ => return r.assign name ""
    | value =>
      let value ← ValueReader.begin.read r.lookup value
      return r.assign name (String.ofList value)

/-- Reads lines up to the first fault. -/
def lines (r : Reading) : List (Option (List Char)) → Reading
  | [] => r
  | none :: _ => r
  | some line :: rest =>
    match r.line? line with
    | none => r
    | some r => r.lines rest

end Reading

/-- The environment with the variables that the file supplies. -/
def load (env : Environment) (text : String) : Environment :=
  let chars := match text.toList with
    | '\uFEFF' :: rest => rest
    | chars => chars
  (Reading.lines ⟨env, []⟩ (logicalLines [] .plain (physicalLines chars))).environment

end MailSync.SettingsFile
