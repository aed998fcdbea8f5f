import Gleaner.Text.LetterTable
import Gleaner.Text.ScriptTable
import Gleaner.Text.Space
import Gleaner.Text.SymbolTable

/-!
# Properties of characters by name

A property is a general category, a group of categories, a script or one of a few others. Names are
looked up without regard to case, blanks, hyphens and underscores.
-/

namespace Gleaner.Text

/-- A property of characters: the tables that hold them, or the complement of such tables. -/
structure Property where
  tables : List (List Span)
  complement : Bool
deriving Inhabited

namespace Property

def holds (p : Property) (c : Char) : Bool :=
  (p.tables.any fun table => inTable table c) != p.complement

def ofTables (tables : List (List Span)) : Property :=
  { tables, complement := false }

def letters : List (List Span) :=
  [Category.lowerCaseLetter, Category.upperCaseLetter, Category.otherLetter,
   Category.modifierLetter, Category.titleCaseLetter]

def casedLetters : List (List Span) :=
  [Category.lowerCaseLetter, Category.upperCaseLetter, Category.titleCaseLetter]

def marks : List (List Span) :=
  [Category.nonspacingMark, Category.spacingMark, Category.enclosingMark]

def numbers : List (List Span) :=
  [Category.decimalNumber, Category.letterNumber, Category.otherNumber]

def punctuation : List (List Span) :=
  [Category.otherPunctuation, Category.dashPunctuation, Category.openPunctuation,
   Category.closePunctuation, Category.connectorPunctuation, Category.initialPunctuation,
   Category.finalPunctuation]

def symbols : List (List Span) :=
  [Category.mathSymbol, Category.currencySymbol, Category.modifierSymbol, Category.otherSymbol]

def separators : List (List Span) :=
  [Category.spaceSeparator, Category.lineSeparator, Category.paragraphSeparator]

/-- The categories of the characters that are assigned and not control, format or private ones. -/
def graphic : List (List Span) :=
  letters ++ marks ++ numbers ++ punctuation ++ symbols ++ separators

def assigned : List (List Span) :=
  graphic ++ [Category.control, Category.format, Category.privateUse]

def alphabetic : List (List Span) :=
  letters ++ [Category.letterNumber, furtherAlphabetic]

/-- Letters and numbers of all scripts. -/
def alphanumeric : Property :=
  ofTables (alphabetic ++ numbers)

/-- Decimal digits of all scripts. -/
def digit : Property :=
  ofTables [Category.decimalNumber]

def space : Property :=
  ofTables [spaceRanges.map fun (lo, hi) => ⟨lo, hi, 1⟩]

/-- Letters, marks, decimal digits, connectors and the two joiners. -/
def word : Property :=
  ofTables (alphabetic ++ marks ++
    [Category.decimalNumber, Category.connectorPunctuation, [⟨0x200c, 0x200d, 1⟩]])

def named : List (List String × Property) :=
  [(["l", "letter"], ofTables letters),
   (["lc", "casedletter"], ofTables casedLetters),
   (["lu", "uppercaseletter"], ofTables [Category.upperCaseLetter]),
   (["ll", "lowercaseletter"], ofTables [Category.lowerCaseLetter]),
   (["lt", "titlecaseletter"], ofTables [Category.titleCaseLetter]),
   (["lm", "modifierletter"], ofTables [Category.modifierLetter]),
   (["lo", "otherletter"], ofTables [Category.otherLetter]),
   (["m", "mark", "combiningmark"], ofTables marks),
   (["mn", "nonspacingmark"], ofTables [Category.nonspacingMark]),
   (["mc", "spacingmark"], ofTables [Category.spacingMark]),
   (["me", "enclosingmark"], ofTables [Category.enclosingMark]),
   (["n", "number"], ofTables numbers),
   (["nd", "decimalnumber", "digit"], digit),
   (["nl", "letternumber"], ofTables [Category.letterNumber]),
   (["no", "othernumber"], ofTables [Category.otherNumber]),
   (["p", "punctuation", "punct"], ofTables punctuation),
   (["pc", "connectorpunctuation"], ofTables [Category.connectorPunctuation]),
   (["pd", "dashpunctuation"], ofTables [Category.dashPunctuation]),
   (["ps", "openpunctuation"], ofTables [Category.openPunctuation]),
   (["pe", "closepunctuation"], ofTables [Category.closePunctuation]),
   (["pi", "initialpunctuation"], ofTables [Category.initialPunctuation]),
   (["pf", "finalpunctuation"], ofTables [Category.finalPunctuation]),
   (["po", "otherpunctuation"], ofTables [Category.otherPunctuation]),
   (["s", "symbol"], ofTables symbols),
   (["sm", "mathsymbol"], ofTables [Category.mathSymbol]),
   (["sc", "currencysymbol"], ofTables [Category.currencySymbol]),
   (["sk", "modifiersymbol"], ofTables [Category.modifierSymbol]),
   (["so", "othersymbol"], ofTables [Category.otherSymbol]),
   (["z", "separator"], ofTables separators),
   (["zs", "spaceseparator"], ofTables [Category.spaceSeparator]),
   (["zl", "lineseparator"], ofTables [Category.lineSeparator]),
   (["zp", "paragraphseparator"], ofTables [Category.paragraphSeparator]),
   (["c", "other"], ⟨graphic, true⟩),
   (["cc", "control", "cntrl"], ofTables [Category.control]),
   (["cf", "format"], ofTables [Category.format]),
   (["co", "privateuse"], ofTables [Category.privateUse]),
   (["cn", "unassigned"], ⟨assigned, true⟩),
   (["any"], ⟨[], true⟩),
   (["assigned"], ofTables assigned),
   (["ascii"], ofTables [[⟨0, 0x7f, 1⟩]]),
   (["alphabetic", "alpha"], ofTables alphabetic),
   (["lowercase", "lower"], ofTables [Category.lowerCaseLetter, furtherLowerCase]),
   (["uppercase", "upper"], ofTables [Category.upperCaseLetter, furtherUpperCase]),
   (["whitespace", "wspace", "space"], space),
   (["emoji"], ofTables [emoji])]

def scripts : List (List String × Property) :=
  [(["latin", "latn"], ofTables [Script.latin]),
   (["greek", "grek"], ofTables [Script.greek]),
   (["cyrillic", "cyrl"], ofTables [Script.cyrillic]),
   (["armenian", "armn"], ofTables [Script.armenian]),
   (["hebrew", "hebr"], ofTables [Script.hebrew]),
   (["arabic", "arab"], ofTables [Script.arabic]),
   (["devanagari", "deva"], ofTables [Script.devanagari]),
   (["bengali", "beng"], ofTables [Script.bengali]),
   (["tamil", "taml"], ofTables [Script.tamil]),
   (["thai"], ofTables [Script.thai]),
   (["georgian", "geor"], ofTables [Script.georgian]),
   (["hangul", "hang"], ofTables [Script.hangul]),
   (["hiragana", "hira"], ofTables [Script.hiragana]),
   (["katakana", "kana"], ofTables [Script.katakana]),
   (["han", "hani"], ofTables [Script.han]),
   (["common", "zyyy"], ofTables [Script.common]),
   (["inherited", "zinh", "qaai"], ofTables [Script.inherited])]

/-- The form of a name by which it is looked up; a leading `is` is idle. -/
def plainName (name : String) : String :=
  let plain := (name.toList.filter fun c =>
    !(c = ' ' || c = '-' || c = '_' || c = '\t' || c = '\n')).map Char.toLower
  match plain with
  | 'i' :: 's' :: c :: rest => String.ofList (c :: rest)
  | plain => String.ofList plain

def find? (table : List (List String × Property)) (name : String) : Option Property :=
  (table.find? fun entry => entry.1.contains (plainName name)).map Prod.snd

/-- The property with a name: a category or other property, or a script. -/
def ofName? (name : String) : Option Property :=
  (find? named name).or (find? scripts name)

/-- The property that has a value: only categories and scripts have values. -/
def ofNameValue? (name value : String) : Option Property :=
  let plain := plainName name
  if plain = "gc" || plain = "generalcategory" then find? named value
  else if plain = "sc" || plain = "script" || plain = "scx" || plain = "scriptextensions" then
    find? scripts value
  else none

end Property

end Gleaner.Text
