import Conformance.Text.Ranges
import Conformance.Unicode.Category
import Conformance.Unicode.Script
import Conformance.Unicode.ScriptExtension
import Conformance.Unicode.Binary
import Conformance.Unicode.Age
import Conformance.Unicode.Break
import Conformance.Unicode.Names

/-!
# Property classes

A pattern names a class of characters by a Unicode property: `\pL` by one letter,
`\p{name}` by a name, and `\p{name=value}` (or `:`, or `!=` for the complement) by a
property and one of its values.  Names are compared in their loose form.

A bare name is a binary property when it names a property, except `cf`, `sc` and `lc`,
which are read as the general categories Format, Currency_Symbol and Cased_Letter;
otherwise it is a general category (with `Any`, `Assigned` and `ASCII`), and otherwise a
script.  A property with a value may be the general category, the script, the script
extensions, the age (every version up to the one named), or the grapheme cluster, word
or sentence break property.  Anything else names no class, and neither do the surrogate
category and the script `Unknown`, which are names of values but have no table.
-/

namespace Conformance

namespace Unicode

open Text

/-- The loose form of a name: spaces, `_` and `-` dropped, ASCII capitals lowered, other
characters than ASCII dropped, and a leading `is` dropped, except that `isc` keeps its
form. -/
def looseName (s : String) : String :=
  let cs := s.toList
  let (prefixed, rest) := match cs with
    | a :: b :: more =>
      if (a = 'i' || a = 'I') && (b = 's' || b = 'S') then (true, more) else (false, cs)
    | _ => (false, cs)
  let kept := rest.filterMap fun c =>
    if c = ' ' || c = '_' || c = '-' then none
    else if 'A' ≤ c && c ≤ 'Z' then some (Char.ofNat (c.toNat + 32))
    else if c.toNat ≤ 0x7F then some c
    else none
  if prefixed && kept = ['c'] then "isc" else String.ofList kept

/-- How a pattern asks for a property class. -/
inductive Query where
  /-- `\pL`: one letter. -/
  | oneLetter (c : Char)
  /-- `\p{name}`. -/
  | named (name : String)
  /-- `\p{name=value}`, `\p{name:value}` or `\p{name!=value}`. -/
  | byValue (name value : String)
deriving Repr, DecidableEq

/-- A query with its names resolved to long names. -/
inductive Canonical where
  | binary (name : String)
  | category (name : String)
  | script (name : String)
  | byValue (property value : String)
deriving Repr, DecidableEq

/-- Why a query names no class. -/
inductive PropertyError where
  | propertyNotFound
  | valueNotFound
deriving Repr, DecidableEq

/-- The long name of a general category value in loose form, with `Any`, `Assigned` and
`ASCII`. -/
def categoryName? (loose : String) : Option String :=
  match loose with
  | "any" => some "Any"
  | "assigned" => some "Assigned"
  | "ascii" => some "ASCII"
  | _ => categoryNames.lookup loose

/-- Resolves a bare name: a binary property, a general category or a script. -/
def resolveBare (name : String) : Except PropertyError Canonical :=
  let loose := looseName name
  let asProperty :=
    if loose = "cf" || loose = "sc" || loose = "lc" then none else propertyNames.lookup loose
  match asProperty with
  | some p => .ok (.binary p)
  | none =>
    match categoryName? loose with
    | some c => .ok (.category c)
    | none =>
      match scriptNames.lookup loose with
      | some s => .ok (.script s)
      | none => .error .propertyNotFound

/-- The value names of a property that is asked for with a value. -/
def valueNames? : String → Option (List (String × String))
  | "Age" => some ageNames
  | "Script_Extensions" => some scriptNames
  | "Grapheme_Cluster_Break" => some graphemeBreakNames
  | "Word_Break" => some wordBreakNames
  | "Sentence_Break" => some sentenceBreakNames
  | _ => none

/-- Resolves the names of a query. -/
def Query.resolve : Query → Except PropertyError Canonical
  | .oneLetter c => resolveBare (String.singleton c)
  | .named name => resolveBare name
  | .byValue name value =>
    let value := looseName value
    match propertyNames.lookup (looseName name) with
    | none => .error .propertyNotFound
    | some "General_Category" =>
      match categoryName? value with
      | some c => .ok (.category c)
      | none => .error .valueNotFound
    | some "Script" =>
      match scriptNames.lookup value with
      | some s => .ok (.script s)
      | none => .error .valueNotFound
    | some p =>
      match valueNames? p with
      | none => .error .valueNotFound
      | some names =>
        match names.lookup value with
        | some v => .ok (.byValue p v)
        | none => .error .valueNotFound

/-- The two-letter categories that make up each general category value.  Surrogates are no
characters, so the surrogate category is not among them. -/
def categoryParts : List (String × List String) :=
  [("Uppercase_Letter", ["Lu"]), ("Lowercase_Letter", ["Ll"]), ("Titlecase_Letter", ["Lt"]),
   ("Modifier_Letter", ["Lm"]), ("Other_Letter", ["Lo"]), ("Nonspacing_Mark", ["Mn"]),
   ("Spacing_Mark", ["Mc"]), ("Enclosing_Mark", ["Me"]), ("Decimal_Number", ["Nd"]),
   ("Letter_Number", ["Nl"]), ("Other_Number", ["No"]), ("Connector_Punctuation", ["Pc"]),
   ("Dash_Punctuation", ["Pd"]), ("Open_Punctuation", ["Ps"]), ("Close_Punctuation", ["Pe"]),
   ("Initial_Punctuation", ["Pi"]), ("Final_Punctuation", ["Pf"]),
   ("Other_Punctuation", ["Po"]), ("Math_Symbol", ["Sm"]), ("Currency_Symbol", ["Sc"]),
   ("Modifier_Symbol", ["Sk"]), ("Other_Symbol", ["So"]), ("Space_Separator", ["Zs"]),
   ("Line_Separator", ["Zl"]), ("Paragraph_Separator", ["Zp"]), ("Control", ["Cc"]),
   ("Format", ["Cf"]), ("Private_Use", ["Co"]), ("Unassigned", ["Cn"]),
   ("Cased_Letter", ["Lu", "Ll", "Lt"]), ("Letter", ["Lu", "Ll", "Lt", "Lm", "Lo"]),
   ("Mark", ["Mn", "Mc", "Me"]), ("Number", ["Nd", "Nl", "No"]),
   ("Punctuation", ["Pc", "Pd", "Ps", "Pe", "Pi", "Pf", "Po"]),
   ("Symbol", ["Sm", "Sc", "Sk", "So"]), ("Separator", ["Zs", "Zl", "Zp"]),
   ("Other", ["Cc", "Cf", "Co", "Cn"])]

/-- The code points of a table of the given list. -/
def tableRanges (tables : List (String × String)) (name : String) : Option Ranges :=
  (tables.lookup name).map Ranges.ofCompact

/-- The code points of the two-letter categories. -/
def categoryCodes (codes : List String) : Ranges :=
  codes.foldl (fun acc code => acc.union ((tableRanges categoryTables code).getD Ranges.empty))
    Ranges.empty

/-- The code points of a general category value, by its long name. -/
def categoryRanges? (name : String) : Option Ranges :=
  match name with
  | "Any" => some (Ranges.interval 0 maxCodePoint)
  | "ASCII" => some (Ranges.interval 0 0x7F)
  | "Assigned" => some (categoryCodes ["Cn"]).complement
  | _ => (categoryParts.lookup name).map categoryCodes

/-- The code points of every version up to and including `name`, oldest first. -/
def agesUpTo (name : String) : List (String × String) → Option Ranges
  | [] => none
  | (v, table) :: rest =>
    if v = name then some (Ranges.ofCompact table)
    else (agesUpTo name rest).map fun r => r.union (Ranges.ofCompact table)

/-- The code points of a resolved query. -/
def Canonical.ranges : Canonical → Except PropertyError Ranges
  | .binary name =>
    match tableRanges binaryTables name with
    | some r => .ok r
    | none => .error .propertyNotFound
  | .category name =>
    match categoryRanges? name with
    | some r => .ok r
    | none => .error .valueNotFound
  | .script name =>
    match tableRanges scriptTables name with
    | some r => .ok r
    | none => .error .valueNotFound
  | .byValue property value =>
    let found : Option Ranges := match property with
      | "Age" => agesUpTo value ageTables
      | "Script_Extensions" => tableRanges scriptExtensionTables value
      | "Grapheme_Cluster_Break" => tableRanges graphemeBreakTables value
      | "Word_Break" => tableRanges wordBreakTables value
      | "Sentence_Break" => tableRanges sentenceBreakTables value
      | _ => none
    match found with
    | some r => .ok r
    | none => .error (if property = "Age" then .valueNotFound else .propertyNotFound)

/-- The code points a query names. -/
def Query.ranges (q : Query) : Except PropertyError Ranges :=
  q.resolve.bind Canonical.ranges

/-- The code points of a binary property known to be in the tables. -/
def binaryRanges (name : String) : Ranges :=
  (tableRanges binaryTables name).getD Ranges.empty

end Unicode

end Conformance
