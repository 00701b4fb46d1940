import SkillScript.Text.Scan
/-!
# Quoted text in documents

A plain string stands in double quotes and has escapes: single letters, two
hexadecimal digits for a byte, or one to six hexadecimal digits in braces for a
code point. Consecutive bytes must make up whole characters. A raw string stands
between as many hash signs as it likes and has no escapes.
-/
set_option autoImplicit false
namespace SkillScript.Ron

open SkillScript.Text

def hexValue? (c : Char) : Option Nat :=
  if '0' ≤ c && c ≤ '9' then some (c.toNat - '0'.toNat)
  else if 'a' ≤ c && c ≤ 'f' then some (c.toNat - 'a'.toNat + 10)
  else if 'A' ≤ c && c ≤ 'F' then some (c.toNat - 'A'.toNat + 10)
  else none

inductive EscapePlace where
  | plain
  | escape
  /-- Before the first or, with the value of the first, the second digit of a byte. -/
  | byte (high : Option Nat)
  /-- Before the brace of a code point. -/
  | brace
  /-- Inside the braces, behind so many digits with this value. -/
  | codePoint (digits value : Nat)
deriving DecidableEq, Repr

def letterEscape? : Char → Option Char
  | '\'' => some '\''
  | '"' => some '"'
  | '\\' => some '\\'
  | 'n' => some '\n'
  | 'r' => some '\r'
  | 't' => some '\t'
  | '0' => some '\x00'
  | _ => none

/-- Reads one character: the place behind it and the bytes that are now complete. -/
def EscapePlace.step (place : EscapePlace) (c : Char) : Option (EscapePlace × List UInt8) :=
  match place with
  | plain => if c = '\\' then some (escape, []) else some (plain, String.utf8EncodeChar c)
  | escape =>
    if c = 'x' then some (byte none, [])
    else if c = 'u' then some (brace, [])
    else (letterEscape? c).map fun c => (plain, String.utf8EncodeChar c)
  | byte none => (hexValue? c).map fun n => (byte (some n), [])
  | byte (some high) => (hexValue? c).map fun n => (plain, [UInt8.ofNat (16 * high + n)])
  | brace => if c = '\x7b' then some (codePoint 0 0, []) else none
  | codePoint digits value =>
    if c = '\x7d' then
      if digits = 0 || !(decide value.isValidChar) then none
      else some (plain, String.utf8EncodeChar (Char.ofNat value))
    else if digits = 6 then none
    else (hexValue? c).map fun n => (codePoint (digits + 1) (16 * value + n), [])

def unescapeFrom : EscapePlace → List Char → Option (List UInt8)
  | place, [] => if place = .plain then some [] else none
  | place, c :: rest => do
    let (place, bytes) ← place.step c
    return bytes ++ (← unescapeFrom place rest)

/-- Cuts a text before the next `quote` that is not behind a backslash. -/
def cutQuoted (quote : Char) : Scan (List Char)
  | [] => none
  | '\\' :: c :: rest => do
    let (body, rest) ← cutQuoted quote rest
    return ('\\' :: c :: body, rest)
  | c :: rest =>
    if c = quote then some ([], rest)
    else do
      let (body, rest) ← cutQuoted quote rest
      return (c :: body, rest)

def scanBytes (quote : Char) : Scan (List UInt8) := fun cs => do
  let (body, rest) ← cutQuoted quote cs
  return (← unescapeFrom .plain body, rest)

def scanString : Scan String := fun cs => do
  let (bytes, rest) ← scanBytes '"' cs
  return (← String.fromUTF8? ⟨bytes.toArray⟩, rest)

/-- A character behind its opening quote. Without a backslash it is whatever stands there, even
a quote. -/
def scanChar : Scan Char
  | '\\' :: rest => do
    let (bytes, rest) ← scanBytes '\'' ('\\' :: rest)
    match (← String.fromUTF8? ⟨bytes.toArray⟩).toList with
    | [c] => some (c, rest)
    | _ => none
  | c :: '\'' :: rest => some (c, rest)
  | _ => none

/-- A byte behind its opening quote: an ASCII character, or an escape. -/
def scanByte : Scan UInt8
  | '\\' :: rest => do
    match ← scanBytes '\'' ('\\' :: rest) with
    | ([b], rest) => some (b, rest)
    | _ => none
  | c :: '\'' :: rest => if c.toNat < 0x80 then some (UInt8.ofNat c.toNat, rest) else none
  | _ => none

/-- Cuts a text before a double quote that is followed by the given number of hash signs. -/
def cutRaw (hashes : Nat) : Scan (List Char)
  | [] => none
  | c :: rest =>
    match if c = '"' then dropPrefix? (List.replicate hashes '#') rest else none with
    | some rest => some ([], rest)
    | none => do
      let (body, rest) ← cutRaw hashes rest
      return (c :: body, rest)

def scanRaw : Scan String := fun cs =>
  match cs.dropWhile (· = '#') with
  | '"' :: rest => do
    let (body, rest) ← cutRaw (cs.takeWhile (· = '#')).length rest
    return (String.ofList body, rest)
  | _ => none

end SkillScript.Ron
