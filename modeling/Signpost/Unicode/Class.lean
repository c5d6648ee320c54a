import Signpost.Unicode.Category
import Signpost.Unicode.Property

/-!
# Classes of characters

The classes of characters that texts of this library are read by.  Each one
decides ASCII by comparison and looks beyond it into a table.
-/

namespace Signpost.Unicode

def isWhiteSpace (c : Char) : Bool :=
  if c.toNat < 128 then c = ' ' ∨ (9 ≤ c.toNat ∧ c.toNat ≤ 13)
  else Property.whiteSpace.contains c

def isAlphabetic (c : Char) : Bool :=
  if c.toNat < 128 then c.isAlpha else Property.alphabetic.contains c

def isDecimal (c : Char) : Bool :=
  if c.toNat < 128 then c.isDigit else Category.decimalNumber.contains c

def isNumeric (c : Char) : Bool :=
  isDecimal c || Category.letterNumber.contains c ||
    Category.otherNumber.contains c

def isAlphanumeric (c : Char) : Bool := isAlphabetic c || isNumeric c

def isMark (c : Char) : Bool :=
  Category.nonspacingMark.contains c || Category.spacingMark.contains c ||
    Category.enclosingMark.contains c

def isWordCharacter (c : Char) : Bool :=
  if c.toNat < 128 then c.isAlphanum || c = '_'
  else isAlphabetic c || isMark c || isDecimal c ||
    Category.connectorPunctuation.contains c || Property.joinControl.contains c

/--
Characters with a shape of their own; of the blanks only the space has one.
-/
def isPrintable (c : Char) : Bool :=
  if c.toNat < 128 then 32 ≤ c.toNat ∧ c.toNat < 127
  else !(Category.control.contains c || Category.format.contains c ||
    Category.privateUse.contains c || Category.unassigned.contains c ||
    Category.lineSeparator.contains c ||
      Category.paragraphSeparator.contains c ||
    Category.spaceSeparator.contains c)

def extendsGrapheme (c : Char) : Bool :=
  if c.toNat < 128 then false else Property.graphemeExtend.contains c

end Signpost.Unicode
