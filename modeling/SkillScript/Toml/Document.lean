import SkillScript.Toml.Scalar
/-!
# Settings files

A file is a sequence of lines: an entry, a header that opens a table, or nothing,
each with an optional comment. Entries belong to the table that was opened last.
-/
set_option autoImplicit false
namespace SkillScript.Toml

open SkillScript.Text

def skipSpaces (cs : List Char) : List Char :=
  cs.dropWhile isSpace

def comment? (cs : List Char) : Option (List Char) :=
  match cs with
  | '#' :: rest =>
    match rest.dropWhile isPlain with
    | [] => some []
    | rest => if (lineEnd? rest).isSome then some rest else none
  | cs => some cs

inductive GapPlace where
  | open
  | comment
deriving DecidableEq, Repr

/-- Blanks, line ends and comments, which may stand between the items of a list. -/
def skipLines : GapPlace → Gap
  | _, [] => some []
  | .open, c :: rest =>
    if c = '#' then skipLines .comment rest
    else if isSpace c || (lineEnd? (c :: rest)).isSome then skipLines .open rest
    else some (c :: rest)
  | .comment, c :: rest =>
    if (lineEnd? (c :: rest)).isSome then skipLines .open rest
    else if isPlain c then skipLines .comment rest
    else none

def isBareKeyChar (c : Char) : Bool :=
  isDigit c || ('a' ≤ c && c ≤ 'z') || ('A' ≤ c && c ≤ 'Z') || c == '_' || c == '-'

def scanKeyPart : Scan String
  | c :: rest =>
    if c = '"' || c = '\'' then scanShort (c :: rest)
    else
      let key := (c :: rest).takeWhile isBareKeyChar
      if key.isEmpty then none
      else some (String.ofList key, (c :: rest).dropWhile isBareKeyChar)
  | [] => none

/-- A key, whose parts are separated by points: the first parts, the last part, and the text
behind the key and its blanks. -/
def scanKey (cs : List Char) : Option ((List String × String) × List Char) := do
  let (part, rest) ← scanKeyPart (skipSpaces cs)
  match skipSpaces rest with
  | '.' :: rest =>
    if _h : rest.length < cs.length then
      let ((path, key), rest) ← scanKey rest
      return ((part :: path, key), rest)
    else none
  | rest => return (([], part), rest)
termination_by cs.length

def isTokenChar (c : Char) : Bool :=
  isBareKeyChar c || c == '+' || c == '.' || c == ':'

/-- A scalar that is no string. A blank between a date and a time of day belongs to it. -/
def scanScalar : Scan Item := fun cs =>
  let token := cs.takeWhile isTokenChar
  let rest := cs.dropWhile isTokenChar
  let whole :=
    match rest with
    | ' ' :: more =>
      if date? token = some [] && more.head?.any isDigit then
        (token ++ ' ' :: more.takeWhile isTokenChar, more.dropWhile isTokenChar)
      else (token, rest)
    | rest => (token, rest)
  (scalar? whole.1).map fun item => (item, whole.2)

def scanEntry (inner : Scan Item) : Scan ((List String × String) × Item) := fun cs => do
  let (key, rest) ← scanKey cs
  match rest with
  | '=' :: rest =>
    let (item, rest) ← inner (skipSpaces rest)
    return ((key, item), skipSpaces rest)
  | _ => none

/-- Entries up to a closing brace, with a comma between any two of them. -/
def scanBraced (inner : Scan Item) (es : Entries) (cs : List Char) :
    Option (Entries × List Char) := do
  let ((key, item), rest) ← scanEntry inner cs
  let es ← es.addDotted key.1 key.2 item
  match rest with
  | '\x7d' :: rest => return (es, rest)
  | ',' :: rest => if _h : rest.length < cs.length then scanBraced inner es rest else none
  | _ => none
termination_by cs.length

def scanValue (inner : Scan Item) : Scan Item
  | [] => none
  | '"' :: rest => (scanString ('"' :: rest)).map fun (s, rest) => (.text s, rest)
  | '\'' :: rest => (scanString ('\'' :: rest)).map fun (s, rest) => (.text s, rest)
  | '[' :: rest => (scanItems (skipLines .open) ']' inner rest).map fun (items, rest) =>
      (.list items, rest)
  | '\x7b' :: rest =>
    match skipSpaces rest with
    | '\x7d' :: rest => some (.table .inline [], rest)
    | rest => (scanBraced inner [] rest).map fun (es, rest) => (.table .inline es, rest)
  | cs => scanScalar cs

def maxDepth : Nat := 80

def scanNested : (depth : Nat) → Scan Item
  | 0 => scanValue fun _ => none
  | depth + 1 => scanValue (scanNested depth)

/-- What is known of a file as far as it was read. -/
structure Reading where
  entries : Entries := []
  /-- The header of the table that was opened last. -/
  header : List String := []

/-- A header behind its opening brackets. -/
def scanHeader (close : List Char) : Scan (List String × String) := fun cs => do
  let (key, rest) ← scanKey cs
  return (key, ← dropPrefix? close rest)

def Reading.line (r : Reading) (cs : List Char) : Option (Reading × List Char) :=
  match skipSpaces cs with
  | [] => some (r, [])
  | '#' :: rest => some (r, '#' :: rest)
  | '[' :: '[' :: rest => do
    let ((path, key), rest) ← scanHeader [']', ']'] rest
    return ({ entries := ← r.entries.openElement path key, header := path ++ [key] }, rest)
  | '[' :: rest => do
    let ((path, key), rest) ← scanHeader [']'] rest
    return ({ entries := ← r.entries.openTable path key, header := path ++ [key] }, rest)
  | rest =>
    if (lineEnd? rest).isSome then some (r, rest)
    else do
      let ((key, item), rest) ← scanEntry (scanNested maxDepth) rest
      let entries ← r.entries.atHeader (Entries.addDotted key.1 key.2 item) r.header
      return ({ r with entries := entries }, rest)

def Reading.lines (r : Reading) (cs : List Char) : Option Entries := do
  let (r, rest) ← r.line cs
  match ← comment? (skipSpaces rest) with
  | [] => return r.entries
  | rest =>
    let rest ← lineEnd? rest
    if _h : rest.length < cs.length then r.lines rest else none
termination_by cs.length

/-- The entries of a whole file. A byte order mark in front of them does not count. -/
def read? (text : String) : Option Entries :=
  match text.toList with
  | '\ufeff' :: cs => Reading.lines {} cs
  | cs => Reading.lines {} cs

end SkillScript.Toml
