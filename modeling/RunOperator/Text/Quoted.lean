import RunOperator.Unicode.Category
import RunOperator.Unicode.Property

/-!
# Quoted text

A text between quotes in which every character can be seen: quotes and backslashes are escaped, and
so are characters that print nothing or only add to the character before them.
-/

namespace RunOperator.Text

/-- The digits of a number to the base 16. -/
def hexDigits (n : Nat) : List Char := Nat.toDigits 16 n

/-- The character shows nothing of its own. -/
def isInvisible (c : Char) : Bool :=
  c != ' ' && (["cc", "cf", "co", "zl", "zp", "zs"].any (Unicode.inCategory · c)
    || !Unicode.isAssigned c || Unicode.hasProperty "grext" c)

/-- A character as it stands between quotes. -/
def escapeVisibly (c : Char) : List Char :=
  match c with
  | '"' => ['\\', '"']
  | '\\' => ['\\', '\\']
  | '\n' => ['\\', 'n']
  | '\r' => ['\\', 'r']
  | '\t' => ['\\', 't']
  | '\x00' => ['\\', '0']
  | c => if isInvisible c then ['\\', 'u', '\x7b'] ++ hexDigits c.toNat ++ ['\x7d'] else [c]

/-- The text between quotes. -/
def quoted (s : String) : String :=
  String.ofList ('"' :: s.toList.flatMap escapeVisibly ++ ['"'])

end RunOperator.Text
