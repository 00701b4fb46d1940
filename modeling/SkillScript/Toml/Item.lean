/-!
# Tables of settings

What a settings file says is a tree of tables. Every table knows how it came about,
since that decides what may still be added to it: nothing to a table that was
written inline, and a table with a header of its own cannot get another header nor
be reached by a dotted key.
-/
set_option autoImplicit false
namespace SkillScript.Toml

/-- How a table came about. -/
inductive Origin where
  /-- Written in braces. -/
  | inline
  /-- By a header of its own. -/
  | header
  /-- On the way to a header. -/
  | implied
  /-- On the way of a dotted key. -/
  | dotted
deriving DecidableEq, Repr

inductive Item where
  | text (s : String)
  | whole (n : Int)
  | real (x : Float)
  | truth (b : Bool)
  /-- A date, a time of day, or both, as it is written. -/
  | time (written : String)
  | list (items : List Item)
  | table (origin : Origin) (entries : List (String × Item))
  /-- Tables with the same header, the newest first. -/
  | tables (newestFirst : List (List (String × Item)))
deriving Repr, Inhabited

abbrev Entries := List (String × Item)

namespace Entries

def find? (es : Entries) (key : String) : Option Item :=
  (List.find? (fun e => e.1 = key) es).map Prod.snd

/-- Replaces what is found under a key, or adds to the end what `f` makes of nothing. -/
def alter (key : String) (f : Option Item → Option Item) : Entries → Option Entries
  | [] => (f none).map fun item => [(key, item)]
  | (k, item) :: rest =>
    if k = key then (f (some item)).map fun item => (k, item) :: rest
    else (alter key f rest).map ((k, item) :: ·)

def add (key : String) (item : Item) (es : Entries) : Option Entries :=
  es.alter key fun
    | none => some item
    | some _ => none

/-- Changes the table at a path. On the way, tables of the given origin are made where there are
none. -/
def within (made : Origin) (change : Origin → Entries → Option Entries) :
    List String → Origin → Entries → Option Entries
  | [], origin, es => change origin es
  | key :: path, _, es => es.alter key fun
    | none => (within made change path made []).map (.table made)
    | some (.table .inline _) => none
    | some (.table origin inner) =>
      if made = .dotted && origin = .header then none
      else (within made change path origin inner).map (.table origin)
    | some (.tables (newest :: older)) =>
      (within made change path .header newest).map fun es => .tables (es :: older)
    | some _ => none

/-- Adds an entry under a key that may be dotted. All but its last part name tables, and the
table that gets the entry must have come about by dotted keys. -/
def addDotted (path : List String) (key : String) (item : Item) (es : Entries) : Option Entries :=
  es.within .dotted
    (fun origin es => if path.isEmpty || origin = .dotted then es.add key item else none)
    path .header

def openTable (path : List String) (key : String) (es : Entries) : Option Entries :=
  es.within .implied
    (fun _ es => es.alter key fun
      | none => some (.table .header [])
      | some (.table .implied inner) => some (.table .header inner)
      | some _ => none)
    path .header

def openElement (path : List String) (key : String) (es : Entries) : Option Entries :=
  es.within .implied
    (fun _ es => es.alter key fun
      | none => some (.tables [[]])
      | some (.tables elements) => some (.tables ([] :: elements))
      | some _ => none)
    path .header

/-- Changes the table whose header was the last. -/
def atHeader (change : Entries → Option Entries) (header : List String) (es : Entries) :
    Option Entries :=
  es.within .implied (fun _ => change) header .header

end Entries
end SkillScript.Toml
