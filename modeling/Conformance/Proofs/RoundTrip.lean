import Conformance.Typeset.Classify
import Mathlib.Data.List.Basic

/-!
# Reading a typeset document and writing it back

`Typeset.ofJson` reads a JSON document as a typeset and `Typeset.toJson` writes one.  Reading
drops one thing: a shape property whose value is falsy is declared but carries no typeset, and
is written back as `null`.  Everything else comes back as it was read: type names and
qualifier symbols, the data of arguments (also a `$`, `$keys` or `$values` that does not read
as a typeset), and the positional rule under which an object is a shape at the leading
position of a list and an arguments object elsewhere.

`nullFalsyProps` states that one change on documents, following the positions where reading
sees shapes.  Main statement: `ofJson_toJson`, a document that reads as a typeset is written
back as `nullFalsyProps` of itself, and that document reads as the same typeset.  The proof
follows the mutual recursion of the reader: one lemma per reader, each returning both facts.
-/

namespace Conformance

namespace TypeName

theorem name_of_ofName? {s : String} {t : TypeName} (named : ofName? s = some t) : t.name = s := by
  simpa using List.find?_some named

theorem name_ne_empty (t : TypeName) : t.name.isEmpty = false := by
  cases t <;> rfl

end TypeName

namespace Qualifier

theorem symbol_of_ofSymbol? {s : String} {q : Qualifier} (named : ofSymbol? s = some q) :
    q.symbol = s := by
  simpa using List.find?_some named

end Qualifier

namespace Typeset

mutual

/-- A typeset document with every shape property whose value is falsy written as `null`, at
every depth where the document is read as a typeset. -/
def nullFalsyProps : Json → Json
  | .object members => .object (nullFalsyPropsShape members)
  | .array items => .array (nullFalsyPropsItems (startsWithQualifier items) 0 items)
  | j => j

/-- The properties of a shape document, each falsy value as `null`. -/
def nullFalsyPropsShape : List (String × Json) → List (String × Json)
  | [] => []
  | (k, v) :: rest =>
    (k, if v.truthy then nullFalsyProps v else .null) :: nullFalsyPropsShape rest

/-- The item at index `i` of a list document: an object is a shape at the leading position
and an arguments object elsewhere. -/
def nullFalsyPropsItem (qualified : Bool) (i : Nat) : Json → Json
  | .object members =>
    .object (if i == 0 || (i == 1 && qualified) then nullFalsyPropsShape members
      else nullFalsyPropsArgs members)
  | .array inner => .array (nullFalsyPropsItems (startsWithQualifier inner) 0 inner)
  | j => j

/-- The items of a list document from index `i` on. -/
def nullFalsyPropsItems (qualified : Bool) : Nat → List Json → List Json
  | _, [] => []
  | i, j :: rest => nullFalsyPropsItem qualified i j :: nullFalsyPropsItems qualified (i + 1) rest

/-- The members of an arguments object: a `$`, `$keys` or `$values` that reads as a typeset
is a typeset document, and anything else is data that stays as it is. -/
def nullFalsyPropsArgs : List (String × Json) → List (String × Json)
  | [] => []
  | (k, v) :: rest =>
    (k, if typesetArgKeys.contains k && (ofJson v).isOk then nullFalsyProps v else v) ::
      nullFalsyPropsArgs rest

end

theorem truthy_toJson (ts : Typeset) : ts.toJson.truthy = true := by
  cases ts with
  | type t => simp [toJson, Json.truthy, TypeName.name_ne_empty]
  | validator name => rfl
  | shape props => rfl
  | list rules => rfl

theorem startsWithQualifier_nullFalsyPropsItems (qualified : Bool) (i : Nat) (items : List Json) :
    startsWithQualifier (nullFalsyPropsItems qualified i items) = startsWithQualifier items := by
  cases items with
  | nil => rfl
  | cons j rest => cases j <;> rfl

/-- How `rulesOfJson` reads the item at index `i` of a list document. -/
def readItem (n : Naming) (qualified : Bool) (i : Nat) : Json → Except ReadFault Rule
  | .string s => (ruleOfName n s).mapError .grammar
  | .object members =>
    if i == 0 || (i == 1 && qualified) then
      match shapeOfJson n members with
      | .ok props => .ok (.form (.shape props))
      | .error e => .error (.typeset e)
    else .ok (.args (argsOfJson n members))
  | .array inner =>
    match rulesOfJson n (startsWithQualifier inner) 0 inner with
    | .ok rules => .ok (.form (.list rules))
    | .error e => .error (e.nest s!"index={i}")
  | _ => .error (.grammar (.unexpected i (if i == 0 || (i == 1 && qualified) then .shape
      else .typeArgs)))

theorem rulesOfJson_nil (n : Naming) (qualified : Bool) (i : Nat) :
    rulesOfJson n qualified i [] = .ok [] := rfl

theorem rulesOfJson_cons (n : Naming) (qualified : Bool) (i : Nat) (j : Json) (rest : List Json) :
    rulesOfJson n qualified i (j :: rest) =
      match readItem n qualified i j with
      | .error e => .error e
      | .ok r =>
        match rulesOfJson n qualified (i + 1) rest with
        | .error e => .error e
        | .ok rs => .ok (r :: rs) := by
  cases j <;> rfl

theorem rulesJson_cons (r : Rule) (rs : List Rule) : rulesJson (r :: rs) = r.toJson :: rulesJson rs := by
  cases r with
  | form ts => rfl
  | _ => rfl

theorem toJson_ruleOfName {s : String} {r : Rule} (named : ruleOfName Naming.none s = .ok r) :
    r.toJson = .string s := by
  cases symbol : Qualifier.ofSymbol? s with
  | some q =>
      simp only [ruleOfName, symbol, Except.ok.injEq] at named
      subst named
      simp [Rule.toJson, rulesJson, Qualifier.symbol_of_ofSymbol? symbol]
  | none =>
      cases typeName : TypeName.ofName? s with
      | some t =>
          simp only [ruleOfName, symbol, Naming.none, typeName, Except.ok.injEq] at named
          subst named
          simp [Rule.toJson, rulesJson, toJson, TypeName.name_of_ofName? typeName]
      | none => simp [ruleOfName, symbol, Naming.none, typeName] at named

mutual

theorem ofJsonWith_toJson :
    ∀ {j : Json} {ts : Typeset}, ofJsonWith Naming.none j = .ok ts →
      ofJsonWith Naming.none ts.toJson = .ok ts ∧ ts.toJson = nullFalsyProps j
  | .string s, ts, read => by
      cases named : ruleOfName Naming.none s with
      | error e => simp [ofJsonWith, named] at read
      | ok r =>
          have written := toJson_ruleOfName named
          cases r with
          | form form =>
              simp only [ofJsonWith, named, Except.ok.injEq] at read
              subst read
              have spelled : form.toJson = .string s := by simpa [Rule.toJson, rulesJson] using written
              rw [spelled]
              exact ⟨by simp [ofJsonWith, named], rfl⟩
          | _ => simp [ofJsonWith, named] at read
  | .object members, ts, read => by
      cases shape : shapeOfJson Naming.none members with
      | error e => simp [ofJsonWith, shape, Except.map] at read
      | ok props =>
          simp only [ofJsonWith, shape, Except.map, Except.ok.injEq] at read
          subst read
          obtain ⟨again, written⟩ := shapeOfJson_shapeJson shape
          exact ⟨by simp [toJson, ofJsonWith, again, Except.map],
            by simp [toJson, nullFalsyProps, written]⟩
  | .array items, ts, read => by
      cases list : rulesOfJson Naming.none (startsWithQualifier items) 0 items with
      | error e => cases e <;> simp [ofJsonWith, list] at read
      | ok rules =>
          simp only [ofJsonWith, list, Except.ok.injEq] at read
          subst read
          obtain ⟨again, written⟩ := rulesOfJson_rulesJson list
          have sameStart : startsWithQualifier (rulesJson rules) = startsWithQualifier items := by
            rw [written, startsWithQualifier_nullFalsyPropsItems]
          exact ⟨by simp [toJson, ofJsonWith, sameStart, again],
            by simp [toJson, nullFalsyProps, written]⟩
  | .null, ts, read => by simp [ofJsonWith] at read
  | .bool b, ts, read => by simp [ofJsonWith] at read
  | .number x, ts, read => by simp [ofJsonWith] at read

theorem shapeOfJson_shapeJson :
    ∀ {members : List (String × Json)} {props : List (String × Option Typeset)},
      shapeOfJson Naming.none members = .ok props →
        shapeOfJson Naming.none (shapeJson props) = .ok props ∧
          shapeJson props = nullFalsyPropsShape members
  | [], props, read => by
      simp only [shapeOfJson, Except.ok.injEq] at read
      subst read
      exact ⟨rfl, rfl⟩
  | (k, v) :: rest, props, read => by
      cases restRead : shapeOfJson Naming.none rest with
      | error e =>
          by_cases truthy : v.truthy = true
          · cases value : ofJsonWith Naming.none v <;>
              simp [shapeOfJson, truthy, value, restRead, Except.map] at read
          · simp [shapeOfJson, truthy, restRead] at read
      | ok more =>
          obtain ⟨restAgain, restWritten⟩ := shapeOfJson_shapeJson restRead
          by_cases truthy : v.truthy = true
          · -- a truthy property holds a typeset, written back as a truthy document
            cases value : ofJsonWith Naming.none v with
            | error e => simp [shapeOfJson, truthy, value, Except.map] at read
            | ok ts =>
                simp only [shapeOfJson, truthy, value, restRead, Except.map, if_true,
                  Except.ok.injEq] at read
                subst read
                obtain ⟨again, written⟩ := ofJsonWith_toJson value
                exact ⟨by simp [shapeJson, shapeOfJson, truthy_toJson, again, restAgain,
                    Except.map],
                  by simp [shapeJson, nullFalsyPropsShape, truthy, written, restWritten]⟩
          · simp only [shapeOfJson, truthy, restRead, Bool.false_eq_true, if_false,
              Except.ok.injEq] at read
            subst read
            exact ⟨by simp [shapeJson, shapeOfJson, Json.truthy, restAgain],
              by simp [shapeJson, nullFalsyPropsShape, truthy, restWritten]⟩

theorem rulesOfJson_rulesJson :
    ∀ {items : List Json} {qualified : Bool} {i : Nat} {rules : List Rule},
      rulesOfJson Naming.none qualified i items = .ok rules →
        rulesOfJson Naming.none qualified i (rulesJson rules) = .ok rules ∧
          rulesJson rules = nullFalsyPropsItems qualified i items
  | [], qualified, i, rules, read => by
      simp only [rulesOfJson_nil, Except.ok.injEq] at read
      subst read
      exact ⟨rfl, rfl⟩
  | j :: rest, qualified, i, rules, read => by
      rw [rulesOfJson_cons] at read
      cases item : readItem Naming.none qualified i j with
      | error e => simp [item] at read
      | ok r =>
          cases restRead : rulesOfJson Naming.none qualified (i + 1) rest with
          | error e => simp [item, restRead] at read
          | ok rs =>
              simp only [item, restRead, Except.ok.injEq] at read
              subst read
              obtain ⟨itemAgain, itemWritten⟩ := readItem_toJson item
              obtain ⟨again, written⟩ := rulesOfJson_rulesJson restRead
              rw [rulesJson_cons]
              exact ⟨by rw [rulesOfJson_cons, itemAgain, again],
                by rw [itemWritten, written]; rfl⟩

theorem readItem_toJson :
    ∀ {j : Json} {qualified : Bool} {i : Nat} {r : Rule}, readItem Naming.none qualified i j = .ok r →
      readItem Naming.none qualified i r.toJson = .ok r ∧ r.toJson = nullFalsyPropsItem qualified i j
  | .string s, qualified, i, r, read => by
      cases named : ruleOfName Naming.none s with
      | error e => simp [readItem, named, Except.mapError] at read
      | ok r' =>
          simp only [readItem, named, Except.mapError, Except.ok.injEq] at read
          subst read
          rw [toJson_ruleOfName named]
          exact ⟨by simp [readItem, named, Except.mapError], rfl⟩
  | .object members, qualified, i, r, read => by
      by_cases leading : i = 0 ∨ (i = 1 ∧ qualified = true)
      · cases shape : shapeOfJson Naming.none members with
        | error e => simp [readItem, leading, shape] at read
        | ok props =>
            simp [readItem, shape, leading] at read
            subst read
            obtain ⟨shapeAgain, shapeWritten⟩ := shapeOfJson_shapeJson shape
            exact ⟨by simp [Rule.toJson, rulesJson, toJson, readItem, leading, shapeAgain],
              by simp [Rule.toJson, rulesJson, toJson, nullFalsyPropsItem, leading, shapeWritten]⟩
      · simp [readItem, leading] at read
        subst read
        obtain ⟨argsAgain, argsWritten⟩ := argsOfJson_argsJson members
        exact ⟨by simp [Rule.toJson, rulesJson, readItem, leading, argsAgain],
          by simp [Rule.toJson, rulesJson, nullFalsyPropsItem, leading, argsWritten]⟩
  | .array inner, qualified, i, r, read => by
      cases innerRead : rulesOfJson Naming.none (startsWithQualifier inner) 0 inner with
      | error e => simp [readItem, innerRead] at read
      | ok rules =>
          simp only [readItem, innerRead, Except.ok.injEq] at read
          subst read
          obtain ⟨innerAgain, innerWritten⟩ := rulesOfJson_rulesJson innerRead
          have sameStart : startsWithQualifier (rulesJson rules) = startsWithQualifier inner := by
            rw [innerWritten, startsWithQualifier_nullFalsyPropsItems]
          exact ⟨by simp [Rule.toJson, rulesJson, toJson, readItem, sameStart, innerAgain],
            by simp [Rule.toJson, rulesJson, toJson, nullFalsyPropsItem, innerWritten]⟩
  | .null, qualified, i, r, read => by simp [readItem] at read
  | .bool b, qualified, i, r, read => by simp [readItem] at read
  | .number x, qualified, i, r, read => by simp [readItem] at read

theorem argsOfJson_argsJson :
    ∀ (members : List (String × Json)),
      argsOfJson Naming.none (argsJson (argsOfJson Naming.none members)) =
          argsOfJson Naming.none members ∧
        argsJson (argsOfJson Naming.none members) = nullFalsyPropsArgs members
  | [] => ⟨rfl, rfl⟩
  | (k, v) :: rest => by
      obtain ⟨restAgain, restWritten⟩ := argsOfJson_argsJson rest
      by_cases key : k ∈ typesetArgKeys
      · cases value : ofJsonWith Naming.none v with
        | ok ts =>
            obtain ⟨again, written⟩ := ofJsonWith_toJson value
            exact ⟨by simp [argsOfJson, argsJson, key, value, again, restAgain],
              by simp [argsOfJson, argsJson, nullFalsyPropsArgs, key, value, ofJson, written,
                restWritten, Except.isOk, Except.toBool]⟩
        | error e =>
            exact ⟨by simp [argsOfJson, argsJson, key, value, restAgain],
              by simp [argsOfJson, argsJson, nullFalsyPropsArgs, key, value, ofJson,
                restWritten, Except.isOk, Except.toBool]⟩
      · exact ⟨by simp [argsOfJson, argsJson, key, restAgain],
          by simp [argsOfJson, argsJson, nullFalsyPropsArgs, key, restWritten]⟩

end

/-- A typeset document is written back with each falsy shape property as `null` and
everything else as it was read, and the written document reads as the same typeset. -/
theorem ofJson_toJson {j : Json} {ts : Typeset} (classified : ofJson j = .ok ts) :
    ofJson ts.toJson = .ok ts ∧ ts.toJson = nullFalsyProps j :=
  ofJsonWith_toJson classified

/-- `["?", {"a": false, "b": "string"}, "array", {"$": {"c": ""}, "min": 1}]`: a shape after
the qualifier with a falsy property, and arguments whose `$` reads as a shape with one. -/
theorem ofJson_toJson_optionalShapeAndArgs :
    let doc : Json := .array [.string "?",
      .object [("a", .bool false), ("b", .string "string")], .string "array",
      .object [("$", .object [("c", .string "")]), ("min", .number (.int 1))]]
    let ts : Typeset := .list [.qualifier .optional,
      .form (.shape [("a", none), ("b", some (.type .string))]), .form (.type .array),
      .args [("$", .typeset (.shape [("c", none)])), ("min", .data (.number (.int 1)))]]
    ofJson doc = .ok ts ∧ ofJson ts.toJson = .ok ts ∧ ts.toJson = nullFalsyProps doc :=
  ⟨rfl, ofJson_toJson rfl⟩

end Typeset

end Conformance
