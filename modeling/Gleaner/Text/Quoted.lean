import Gleaner.Text.Property

/-!
# Quoted text

Names in diagnostics are put in quotes. Whatever a reader could not see or could mistake is written
as an escape: quotes and backslashes, line breaks, characters without a shape, and characters that
would merge with the one before.
-/

namespace Gleaner.Text

/-- Whether a character has a shape of its own: the blank does, no other separator does. -/
def isVisible (c : Char) : Bool :=
  c = ' ' ||
    (Property.ofTables (Property.letters ++ Property.marks ++ Property.numbers ++
      Property.punctuation ++ Property.symbols)).holds c

/-- Whether a character is drawn onto the one before. -/
def isExtending (c : Char) : Bool :=
  (Property.ofTables [Category.nonspacingMark, Category.enclosingMark,
    Property.furtherExtending]).holds c

def quotedChar (c : Char) : List Char :=
  if c = '"' then ['\\', '"']
  else if c = '\\' then ['\\', '\\']
  else if c = '\n' then ['\\', 'n']
  else if c = '\r' then ['\\', 'r']
  else if c = '\t' then ['\\', 't']
  else if c.toNat = 0 then ['\\', '0']
  else if isVisible c && !isExtending c then [c]
  else ['\\', 'u', '\x7b'] ++ Nat.toDigits 16 c.toNat ++ ['\x7d']

def quoted (text : String) : String :=
  String.ofList ('"' :: text.toList.flatMap quotedChar ++ ['"'])

/-- A list of names in quotes, between square brackets. -/
def quotedList (names : List String) : String :=
  "[" ++ String.intercalate ", " (names.map quoted) ++ "]"

end Gleaner.Text
