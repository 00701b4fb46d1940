import SkillScript.Text.Printable
/-!
# Quoted text

A text in double quotes. The quote, the backslash and the common controls have
short escapes, every other character that is not shown is written by its code
point in hexadecimal.
-/
set_option autoImplicit false
namespace SkillScript.Text

def hexNumeral (n : Nat) : List Char :=
  Nat.toDigits 16 n

def escape (c : Char) : List Char :=
  match c with
  | '"' => ['\\', '"']
  | '\\' => ['\\', '\\']
  | '\n' => ['\\', 'n']
  | '\r' => ['\\', 'r']
  | '\t' => ['\\', 't']
  | '\x00' => ['\\', '0']
  | c => if isPrintable c then [c] else ['\\', 'u', '\x7b'] ++ hexNumeral c.toNat ++ ['\x7d']

def quote (s : String) : String :=
  String.ofList ('"' :: s.toList.flatMap escape ++ ['"'])

end SkillScript.Text
