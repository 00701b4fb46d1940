import SkillScript.Text.Scan
/-!
# Strings of settings

Strings in double quotes have escapes, strings in single quotes have none; with
three quotes they run over several lines. Controls other than the tab may not stand
in a string, and a line ends with a line feed, before which a carriage return may
stand.
-/
set_option autoImplicit false
namespace SkillScript.Toml

open SkillScript.Text

def isSpace (c : Char) : Bool :=
  c == ' ' || c == '\t'

/-- Whether a character may stand in a comment or in a string. -/
def isPlain (c : Char) : Bool :=
  c == '\t' || (0x20 ≤ c.toNat && c.toNat != 0x7f)

def lineEnd? : List Char → Option (List Char)
  | '\n' :: rest => some rest
  | '\r' :: '\n' :: rest => some rest
  | _ => none

def hexDigit? (c : Char) : Option Nat :=
  if '0' ≤ c && c ≤ '9' then some (c.toNat - '0'.toNat)
  else if 'a' ≤ c && c ≤ 'f' then some (c.toNat - 'a'.toNat + 10)
  else if 'A' ≤ c && c ≤ 'F' then some (c.toNat - 'A'.toNat + 10)
  else none

def codePoint? (digits : List Char) : Option Char := do
  let n ← digits.foldlM (fun n c => (hexDigit? c).map (16 * n + ·)) 0
  if n.isValidChar then some (Char.ofNat n) else none

def letterEscape? : Char → Option Char
  | 'b' => some '\x08'
  | 't' => some '\t'
  | 'n' => some '\n'
  | 'f' => some '\x0c'
  | 'r' => some '\r'
  | '"' => some '"'
  | '\\' => some '\\'
  | _ => none

inductive Place where
  | plain
  | escape
  /-- Inside a code point of which so many digits are still to come. -/
  | codePoint (missing : Nat) (digits : List Char)
  /-- Behind a backslash and blanks, before the end of the line. -/
  | lineTail
  /-- In the blanks and line ends that a backslash at the end of a line leaves out. -/
  | skipping
deriving DecidableEq, Repr

structure Form where
  quote : Char
  /-- Whether a backslash starts an escape. -/
  escapes : Bool
  /-- Whether the string has three quotes and may run over several lines. -/
  long : Bool
deriving DecidableEq, Repr

/-- The text behind the closing quotes, and how many quotes before them belong to the string. -/
def Form.close? (form : Form) (cs : List Char) : Option (Nat × List Char) :=
  if form.long then
    let quotes := (cs.takeWhile (· = form.quote)).length
    if 3 ≤ quotes then
      let own := min (quotes - 3) 2
      some (own, cs.drop (own + 3))
    else none
  else
    match cs with
    | c :: rest => if c = form.quote then some (0, rest) else none
    | [] => none

/-- The rest of a string, and the text behind it. -/
def scanRest (form : Form) : Place → Scan (List Char)
  | _, [] => none
  | .plain, c :: rest =>
    match form.close? (c :: rest) with
    | some (own, rest) => some (List.replicate own form.quote, rest)
    | none =>
      if form.escapes && c = '\\' then scanRest form .escape rest
      else if isPlain c || (form.long && (lineEnd? (c :: rest)).isSome) then do
        let (s, rest) ← scanRest form .plain rest
        return (c :: s, rest)
      else none
  | .escape, c :: rest =>
    if c = 'u' then scanRest form (.codePoint 4 []) rest
    else if c = 'U' then scanRest form (.codePoint 8 []) rest
    else if form.long && isSpace c then scanRest form .lineTail rest
    else if form.long && (lineEnd? (c :: rest)).isSome then scanRest form .skipping rest
    else do
      let c ← letterEscape? c
      let (s, rest) ← scanRest form .plain rest
      return (c :: s, rest)
  | .codePoint missing digits, c :: rest =>
    if missing ≤ 1 then do
      let c ← codePoint? (digits ++ [c])
      let (s, rest) ← scanRest form .plain rest
      return (c :: s, rest)
    else scanRest form (.codePoint (missing - 1) (digits ++ [c])) rest
  | .lineTail, c :: rest =>
    if isSpace c then scanRest form .lineTail rest
    else if (lineEnd? (c :: rest)).isSome then scanRest form .skipping rest
    else none
  | .skipping, c :: rest =>
    if isSpace c || c = '\n' || (lineEnd? (c :: rest)).isSome then scanRest form .skipping rest
    else
      match form.close? (c :: rest) with
      | some (own, rest) => some (List.replicate own form.quote, rest)
      | none =>
        if c = '\\' then scanRest form .escape rest
        else if isPlain c then do
          let (s, rest) ← scanRest form .plain rest
          return (c :: s, rest)
        else none

def scanShort : Scan String
  | '"' :: rest => do
    let (s, rest) ← scanRest ⟨'"', true, false⟩ .plain rest
    return (String.ofList s, rest)
  | '\'' :: rest => do
    let (s, rest) ← scanRest ⟨'\'', false, false⟩ .plain rest
    return (String.ofList s, rest)
  | _ => none

/-- A string behind its three opening quotes. A line end right behind them does not count. -/
def scanLong (quote : Char) (escapes : Bool) : Scan String := fun cs => do
  let (s, rest) ← scanRest ⟨quote, escapes, true⟩ .plain ((lineEnd? cs).getD cs)
  return (String.ofList s, rest)

def scanString : Scan String
  | '"' :: '"' :: '"' :: rest => scanLong '"' true rest
  | '\'' :: '\'' :: '\'' :: rest => scanLong '\'' false rest
  | cs => scanShort cs

end SkillScript.Toml
