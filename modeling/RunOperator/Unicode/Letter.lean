import RunOperator.Unicode.Category
import RunOperator.Unicode.Property

/-!
# Letters and numerals

Characters of words in any script.
-/

namespace RunOperator.Unicode

/-- The character is a letter. -/
def isLetter (c : Char) : Bool := hasProperty "alpha" c

/-- The character is a numeral. -/
def isNumeral (c : Char) : Bool := ["nd", "nl", "no"].any (inCategory · c)

/-- The characters of words: letters with their marks, digits, connectors, and the joiners. -/
def wordCharacters : Ranges :=
  Ranges.unionAll (inCategories ["mc", "me", "mn", "nd", "pc"]
    :: ["alpha", "joinc"].filterMap property?)

end RunOperator.Unicode
