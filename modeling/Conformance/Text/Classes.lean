import Conformance.Unicode.Property

/-!
# Character classes of Unicode

The classes that patterns use for `\d`, `\s` and `\w`, for word boundaries and for the
names of capture groups, taken from the property tables:

* decimal digits: the general category Decimal_Number;
* white space: the White_Space property;
* word characters: the Alphabetic property, the marks, the decimal digits, the connector
  punctuation and the Join_Control property;
* alphabetic characters: the Alphabetic property;
* numeric characters: the general category Number.
-/

namespace Conformance

namespace Text

/-- Decimal digits. -/
def digitRanges : Ranges := (Unicode.categoryRanges? "Decimal_Number").getD Ranges.empty

/-- White space. -/
def spaceRanges : Ranges := Unicode.binaryRanges "White_Space"

/-- Word characters. -/
def wordRanges : Ranges :=
  ((Unicode.binaryRanges "Alphabetic").union
    ((Unicode.categoryRanges? "Mark").getD Ranges.empty)).union
    (((Unicode.categoryRanges? "Decimal_Number").getD Ranges.empty).union
      (((Unicode.categoryRanges? "Connector_Punctuation").getD Ranges.empty).union
        (Unicode.binaryRanges "Join_Control")))

/-- Alphabetic characters. -/
def alphabeticRanges : Ranges := Unicode.binaryRanges "Alphabetic"

/-- Numeric characters. -/
def numericRanges : Ranges := (Unicode.categoryRanges? "Number").getD Ranges.empty

/-- Whether `c` is a word character. -/
def isWordChar (c : Char) : Bool := wordRanges.contains c.toNat

/-- Whether `c` is white space. -/
def isSpaceChar (c : Char) : Bool := spaceRanges.contains c.toNat

end Text

end Conformance
