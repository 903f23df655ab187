import Conformance.Typeset.Basic
import Conformance.Error

/-!
# Reading a typeset from its JSON document

A string is a type name, an object a shape and an array a list.  Inside a list, an
object is a shape only at index 0, or at index 1 after a leading qualifier; anywhere
else it is the arguments object of the type before it.  Shape properties with a falsy
value are declared but not checked.  In an arguments object, `$`, `$keys` and `$values`
hold a typeset when their value reads as one, and data otherwise.

Custom validators are written by name: `Naming.validator?` says which strings name
one.  Such a string stands where a type may stand, and when a document is quoted in an
error it reads as `any`, the type a validator implies.

A grammar violation found while reading is reported as `TypesetError.invalid` with
the document being read; a violation inside a shape property is reported with the
property's own document, and one inside a nested list is located by `index=i`.
-/

namespace Conformance

/-- Which strings of a typeset document name custom validators, and by what name. -/
structure Naming where
  validator? : String → Option String

namespace Naming

/-- No string names a validator. -/
def none : Naming := ⟨fun _ => Option.none⟩

/-- A document as errors quote it: validator names read as `any`. -/
def quote (n : Naming) (j : Json) : String :=
  (j.mapStrings fun s => if (n.validator? s).isSome then TypeName.any.name else s).compact

end Naming

/-- A failure while reading a list: a grammar violation of the list itself, or an
error already complete (from a shape inside it). -/
inductive ReadFault where
  | grammar (e : GrammarError)
  | typeset (e : TypesetError)

/-- Locates a grammar violation of a nested list; complete errors pass unchanged. -/
def ReadFault.nest (location : String) : ReadFault → ReadFault
  | .grammar e => .grammar (.nested location e)
  | .typeset e => .typeset e

namespace Typeset

/-- Whether a list document starts with a qualifier symbol. -/
def startsWithQualifier : List Json → Bool
  | .string s :: _ => (Qualifier.ofSymbol? s).isSome
  | _ => false

/-- A string element of a list: a qualifier, a validator name or a type name. -/
def ruleOfName (n : Naming) (s : String) : Except GrammarError Rule :=
  match Qualifier.ofSymbol? s with
  | some q => .ok (.qualifier q)
  | Option.none =>
    match n.validator? s with
    | some v => .ok (.form (.validator v))
    | Option.none =>
      match TypeName.ofName? s with
      | some t => .ok (.form (.type t))
      | Option.none => .error (.unknownType s)

mutual

/-- Reads a typeset document. -/
def ofJsonWith (n : Naming) : Json → Except TypesetError Typeset
  | .string s =>
    match ruleOfName n s with
    | .ok (.form ts) => .ok ts
    | .ok _ => .error (.invalid (n.quote (.string s)) .qualifierOnly)
    | .error e => .error (.invalid (n.quote (.string s)) e)
  | .object members => (shapeOfJson n members).map .shape
  | .array items =>
    match rulesOfJson n (startsWithQualifier items) 0 items with
    | .ok rules => .ok (.list rules)
    | .error (.grammar e) => .error (.invalid (n.quote (.array items)) e)
    | .error (.typeset e) => .error e
  | j => .error (.invalid (n.quote j) (.notATypeset j.compact))

/-- Reads the properties of a shape document. -/
def shapeOfJson (n : Naming) :
    List (String × Json) → Except TypesetError (List (String × Option Typeset))
  | [] => .ok []
  | (k, j) :: rest =>
    match (if j.truthy then (ofJsonWith n j).map some else .ok Option.none) with
    | .error e => .error e
    | .ok ts =>
      match shapeOfJson n rest with
      | .error e => .error e
      | .ok props => .ok ((k, ts) :: props)

/-- Reads the elements of a list document from index `i` on. -/
def rulesOfJson (n : Naming) (qualified : Bool) : Nat → List Json → Except ReadFault (List Rule)
  | _, [] => .ok []
  | i, j :: rest =>
    let leading := i == 0 || (i == 1 && qualified)
    let rule : Except ReadFault Rule :=
      match j with
      | .string s => (ruleOfName n s).mapError .grammar
      | .object members =>
        if leading then
          match shapeOfJson n members with
          | .ok props => .ok (.form (.shape props))
          | .error e => .error (.typeset e)
        else .ok (.args (argsOfJson n members))
      | .array inner =>
        match rulesOfJson n (startsWithQualifier inner) 0 inner with
        | .ok rules => .ok (.form (.list rules))
        | .error e => .error (e.nest s!"index={i}")
      | _ => .error (.grammar (.unexpected i (if leading then .shape else .typeArgs)))
    match rule with
    | .error e => .error e
    | .ok r =>
      match rulesOfJson n qualified (i + 1) rest with
      | .error e => .error e
      | .ok rs => .ok (r :: rs)

/-- Reads an arguments object; it cannot fail. -/
def argsOfJson (n : Naming) : List (String × Json) → Args
  | [] => []
  | (k, j) :: rest =>
    let arg :=
      if typesetArgKeys.contains k then
        match ofJsonWith n j with
        | .ok ts => Arg.typeset ts
        | .error _ => Arg.data j
      else Arg.data j
    (k, arg) :: argsOfJson n rest

end

/-- Reads a typeset document in which no string names a validator. -/
def ofJson (j : Json) : Except TypesetError Typeset :=
  ofJsonWith Naming.none j

end Typeset

end Conformance
