import SkillScript.Ron.Gap
import SkillScript.Ron.Numeral
import SkillScript.Text.Identifier
/-!
# Documents

A document is one datum, perhaps behind attributes that switch extensions on. Data
are scalars, lists, maps, and tuples and records, which may carry a name. Data are
nested no deeper than `maxDepth`.
-/
set_option autoImplicit false
namespace SkillScript.Ron

open SkillScript.Text

inductive Datum where
  /-- A bare identifier. -/
  | word (name : String)
  | number (token : String)
  | byte (b : UInt8)
  | char (c : Char)
  | text (s : String)
  | bytes (bs : List UInt8)
  /-- The datum in a `Some`. -/
  | present (d : Datum)
  | list (items : List Datum)
  | map (entries : List (Datum × Datum))
  | tuple (name : Option String) (items : List Datum)
  | record (name : Option String) (fields : List (String × Datum))
deriving Repr, Inhabited

def isRawIdentifierChar (c : Char) : Bool :=
  continuesIdentifier c || c == '.' || c == '+' || c == '-'

/-- An identifier. One that is marked as raw may also have points and signs in it; on any other
they must not follow. -/
def scanIdentifier : Scan String
  | 'r' :: '#' :: rest =>
    let name := rest.takeWhile isRawIdentifierChar
    if name.isEmpty then none
    else some (String.ofList name, rest.dropWhile isRawIdentifierChar)
  | [] => none
  | c :: rest =>
    if startsIdentifier c then
      let name := c :: rest.takeWhile continuesIdentifier
      match rest.dropWhile continuesIdentifier with
      | [] => some (String.ofList name, [])
      | d :: rest => if isRawIdentifierChar d then none else some (String.ofList name, d :: rest)
    else none

def expect (c : Char) : Scan Unit := fun cs => do
  match ← skipGap cs with
  | d :: rest => if d = c then some ((), rest) else none
  | [] => none

def scanOnly {α : Type} (close : Char) (item : Scan α) : Scan α := fun cs => do
  match ← scanItems skipGap close item cs with
  | ([a], rest) => some (a, rest)
  | _ => none

def scanField (inner : Scan Datum) : Scan (String × Datum) := fun cs => do
  let (name, rest) ← scanIdentifier cs
  let (_, rest) ← expect ':' rest
  let (d, rest) ← inner (← skipGap rest)
  return ((name, d), rest)

def scanEntry (inner : Scan Datum) : Scan (Datum × Datum) := fun cs => do
  let (k, rest) ← inner cs
  let (_, rest) ← expect ':' rest
  let (d, rest) ← inner (← skipGap rest)
  return ((k, d), rest)

/-- Whether what follows an opening parenthesis is a field and not an item. -/
def startsField (cs : List Char) : Bool :=
  match (skipGap cs).bind scanIdentifier with
  | none => false
  | some (_, rest) => (expect ':' rest).isSome

/-- What stands in parentheses, behind the opening one. -/
def scanParens (inner : Scan Datum) (name : Option String) : Scan Datum := fun cs =>
  if startsField cs then do
    let (fields, rest) ← scanItems skipGap ')' (scanField inner) cs
    return (.record name fields, rest)
  else do
    let (items, rest) ← scanItems skipGap ')' inner cs
    return (.tuple name items, rest)

def isPlainWord (name : String) : Bool :=
  name == "true" || name == "false" || name == "None"

def scanNamed (inner : Scan Datum) : Scan Datum := fun cs => do
  let (name, rest) ← scanIdentifier cs
  if isPlainWord name then some (.word name, rest)
  else if (special? false name.toList).isSome then some (.number name, rest)
  else if name = "Some" then do
    let (_, rest) ← expect '(' rest
    let (d, rest) ← scanOnly ')' inner rest
    return (.present d, rest)
  else
    match ← skipGap rest with
    | '(' :: rest => scanParens inner (some name) rest
    | rest => some (.word name, rest)

def isNumberChar (c : Char) : Bool :=
  isLetter c || isDigit c || c == '_' || c == '.' || c == '+' || c == '-'

def startsNumber (c : Char) : Bool :=
  isDigit c || c == '.' || c == '+' || c == '-'

def scanNumber : Scan Datum := fun cs =>
  let token := cs.takeWhile isNumberChar
  if isNumeral token then some (.number (String.ofList token), cs.dropWhile isNumberChar) else none

def scanDatum (inner : Scan Datum) : Scan Datum
  | [] => none
  | '"' :: rest => (scanString rest).map fun (s, rest) => (.text s, rest)
  | '\'' :: rest => (scanChar rest).map fun (c, rest) => (.char c, rest)
  | 'r' :: '"' :: rest => (scanRaw ('"' :: rest)).map fun (s, rest) => (.text s, rest)
  | 'r' :: '#' :: '"' :: rest => (scanRaw ('#' :: '"' :: rest)).map fun (s, rest) => (.text s, rest)
  | 'r' :: '#' :: '#' :: rest => (scanRaw ('#' :: '#' :: rest)).map fun (s, rest) => (.text s, rest)
  | 'b' :: '\'' :: rest => (scanByte rest).map fun (b, rest) => (.byte b, rest)
  | 'b' :: '"' :: rest => (scanBytes '"' rest).map fun (bs, rest) => (.bytes bs, rest)
  | 'b' :: 'r' :: '"' :: rest =>
    (scanRaw ('"' :: rest)).map fun (s, rest) => (.bytes s.toUTF8.toList, rest)
  | 'b' :: 'r' :: '#' :: rest =>
    (scanRaw ('#' :: rest)).map fun (s, rest) => (.bytes s.toUTF8.toList, rest)
  | '[' :: rest => (scanItems skipGap ']' inner rest).map fun (items, rest) => (.list items, rest)
  | '\x7b' :: rest =>
    (scanItems skipGap '\x7d' (scanEntry inner) rest).map fun (entries, rest) =>
      (.map entries, rest)
  | '(' :: rest => scanParens inner none rest
  | c :: rest => if startsNumber c then scanNumber (c :: rest) else scanNamed inner (c :: rest)

def maxDepth : Nat := 128

def scanNested : (depth : Nat) → Scan Datum
  | 0 => scanDatum fun _ => none
  | depth + 1 => scanDatum (scanNested depth)

structure Dialect where
  /-- An optional value may be written without `Some`. -/
  implicitSome : Bool := false
  /-- Records must carry their name. -/
  explicitNames : Bool := false
deriving DecidableEq, Repr

/-- Switches an extension on. Two of the known ones make no difference for the data read here:
they concern wrappers around a single value. -/
def Dialect.enable (d : Dialect) (extension : String) : Option Dialect :=
  match extension with
  | "implicit_some" => some { d with implicitSome := true }
  | "explicit_struct_names" => some { d with explicitNames := true }
  | "unwrap_newtypes" => some d
  | "unwrap_variant_newtypes" => some d
  | _ => none

def expectWord (word : String) : Scan Unit := fun cs => do
  return ((), ← dropPrefix? word.toList (← skipGap cs))

/-- An attribute behind its hash sign: the extensions that it names. -/
def scanAttribute : Scan (List String) := fun cs => do
  let (_, rest) ← expect '!' cs
  let (_, rest) ← expect '[' rest
  let (_, rest) ← expectWord "enable" rest
  let (_, rest) ← expect '(' rest
  let (names, rest) ← scanItems skipGap ')' scanIdentifier rest
  let (_, rest) ← expect ']' rest
  if names.isEmpty then none else some (names, rest)

def scanDialect (d : Dialect) (cs : List Char) : Option (Dialect × List Char) := do
  match ← skipGap cs with
  | '#' :: rest =>
    let (names, rest) ← scanAttribute rest
    let d ← names.foldlM Dialect.enable d
    if _h : rest.length < cs.length then scanDialect d rest else none
  | rest => some (d, rest)
termination_by cs.length

structure Document where
  dialect : Dialect
  datum : Datum
deriving Repr

def readDocument? (text : String) : Option Document := do
  let (dialect, rest) ← scanDialect {} text.toList
  let (datum, rest) ← scanNested maxDepth rest
  if (← skipGap rest).isEmpty then some ⟨dialect, datum⟩ else none

end SkillScript.Ron
