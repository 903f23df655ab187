import Conformance.Proofs.RoundTrip

/-!
# The documents that read as typesets

`Typeset.ofJsonWith` accepts a document exactly when it belongs to a small grammar, stated
here by the predicates `Readable` (a document standing as a whole typeset), `ItemsReadable` and
`ItemReadable` (the items of a list document, each read at its position).  A whole typeset is
a string naming a type, a shape whose truthy property values are typesets, or a list.  A list
item may also be a qualifier symbol; an object item is a shape at the leading position (index
0, or 1 after a qualifier) and an arguments object elsewhere, which reads whatever it holds; a
nested list counts its positions from 0 again.  Nothing else is a typeset.

`offences` lists every violation of that grammar in depth-first, left-to-right order.  When
reading fails, the violation it reports, under the `index=i` locations of nested lists, is the
first of them.

The three directions follow the mutual recursion of the reader, one theorem per reader each:
reading succeeds only on the grammar and then finds no offence; the grammar suffices for
reading; a failure reports the first offence.
-/

namespace Conformance

namespace Naming

/-- Whether a string names a type, or a validator that implies one.  A qualifier symbol is read
as a qualifier before anything else. -/
def namesForm (n : Naming) (s : String) : Bool :=
  !(Qualifier.ofSymbol? s).isSome && ((n.validator? s).isSome || (TypeName.ofName? s).isSome)

end Naming

/-- The grammar violation a typeset error reports under all its locations, if it reports one. -/
def TypesetError.violation? : TypesetError → Option GrammarError
  | .invalid _ reason => some reason.innermost
  | _ => none

/-- The grammar violation that a failure to read a list reports. -/
def ReadFault.violation? : ReadFault → Option GrammarError
  | .grammar e => some e.innermost
  | .typeset e => e.violation?

theorem ReadFault.violation?_nest (location : String) (f : ReadFault) :
    (f.nest location).violation? = f.violation? := by
  cases f <;> rfl

namespace Typeset

mutual

/-- The documents that read as a whole typeset. -/
inductive Readable (n : Naming) : Json → Prop
  /-- A string that names a type. -/
  | name {s : String} : n.namesForm s = true → Readable n (.string s)
  /-- A shape whose truthy property values are typesets; falsy ones are not read. -/
  | shape {members : List (String × Json)} :
      (∀ k j, (k, j) ∈ members → j.truthy = true → Readable n j) → Readable n (.object members)
  /-- A list whose items read at their positions. -/
  | list {items : List Json} :
      ItemsReadable n (startsWithQualifier items) 0 items → Readable n (.array items)

/-- The items of a list document from position `i` on, where `qualified` says whether the list
starts with a qualifier symbol. -/
inductive ItemsReadable (n : Naming) : Bool → Nat → List Json → Prop
  | nil {qualified : Bool} {i : Nat} : ItemsReadable n qualified i []
  | cons {qualified : Bool} {i : Nat} {j : Json} {rest : List Json} :
      ItemReadable n qualified i j → ItemsReadable n qualified (i + 1) rest →
        ItemsReadable n qualified i (j :: rest)

/-- The documents that read as the item at position `i` of a list. -/
inductive ItemReadable (n : Naming) : Bool → Nat → Json → Prop
  /-- A qualifier symbol, or a string that names a type. -/
  | name {qualified : Bool} {i : Nat} {s : String} :
      ((Qualifier.ofSymbol? s).isSome || n.namesForm s) = true →
        ItemReadable n qualified i (.string s)
  /-- At the leading position an object is a shape. -/
  | shape {qualified : Bool} {i : Nat} {members : List (String × Json)} :
      (i = 0 ∨ i = 1 ∧ qualified = true) →
        (∀ k j, (k, j) ∈ members → j.truthy = true → Readable n j) →
          ItemReadable n qualified i (.object members)
  /-- Anywhere else an object is an arguments object, whatever it holds. -/
  | args {qualified : Bool} {i : Nat} {members : List (String × Json)} :
      ¬(i = 0 ∨ i = 1 ∧ qualified = true) → ItemReadable n qualified i (.object members)
  /-- A nested list, with its positions counted from 0. -/
  | list {qualified : Bool} {i : Nat} {inner : List Json} :
      ItemsReadable n (startsWithQualifier inner) 0 inner →
        ItemReadable n qualified i (.array inner)

end

mutual

/-- Every violation of the grammar in a document standing as a whole typeset, in depth-first,
left-to-right order. -/
def offences (n : Naming) : Json → List GrammarError
  | .string s =>
    if n.namesForm s then []
    else if (Qualifier.ofSymbol? s).isSome then [.qualifierOnly]
    else [.unknownType s]
  | .object members => shapeOffences n members
  | .array items => itemsOffences n (startsWithQualifier items) 0 items
  | j => [.notATypeset j.compact]

/-- The violations in the truthy property values of a shape, property by property. -/
def shapeOffences (n : Naming) : List (String × Json) → List GrammarError
  | [] => []
  | (_, j) :: rest => (if j.truthy then offences n j else []) ++ shapeOffences n rest

/-- The violations in the items of a list document from position `i` on. -/
def itemsOffences (n : Naming) (qualified : Bool) : Nat → List Json → List GrammarError
  | _, [] => []
  | i, j :: rest => itemOffences n qualified i j ++ itemsOffences n qualified (i + 1) rest

/-- The violations in the item at position `i` of a list document. -/
def itemOffences (n : Naming) (qualified : Bool) (i : Nat) : Json → List GrammarError
  | .string s =>
    if (Qualifier.ofSymbol? s).isSome || n.namesForm s then [] else [.unknownType s]
  | .object members => if i = 0 ∨ i = 1 ∧ qualified = true then shapeOffences n members else []
  | .array inner => itemsOffences n (startsWithQualifier inner) 0 inner
  | _ => [.unexpected i (if i = 0 ∨ i = 1 ∧ qualified = true then .shape else .typeArgs)]

end

/-- `["string", {"min": 1}, [1]]`: the object after the type is its arguments, and the number
in the nested list stands at that list's leading position. -/
example : offences Naming.none
    (.array [.string "string", .object [("min", .number (.int 1))], .array [.number (.int 1)]]) =
      [.unexpected 0 .shape] := rfl

section Reading

variable {n : Naming}

theorem ruleOfName_cases (n : Naming) (s : String) :
    ((Qualifier.ofSymbol? s).isSome = true ∧ ∃ q, ruleOfName n s = .ok (.qualifier q)) ∨
      (n.namesForm s = true ∧ ∃ ts, ruleOfName n s = .ok (.form ts)) ∨
      ((Qualifier.ofSymbol? s).isSome = false ∧ n.namesForm s = false ∧
        ruleOfName n s = .error (.unknownType s)) := by
  cases symbol : Qualifier.ofSymbol? s with
  | some q => exact .inl ⟨rfl, q, by simp [ruleOfName, symbol]⟩
  | none =>
    cases validator : n.validator? s with
    | some v =>
        exact .inr (.inl ⟨by simp [Naming.namesForm, symbol, validator], .validator v,
          by simp [ruleOfName, symbol, validator]⟩)
    | none =>
      cases typeName : TypeName.ofName? s with
      | some t =>
          exact .inr (.inl ⟨by simp [Naming.namesForm, symbol, validator, typeName], .type t,
            by simp [ruleOfName, symbol, validator, typeName]⟩)
      | none =>
          exact .inr (.inr ⟨rfl, by simp [Naming.namesForm, symbol, validator, typeName],
            by simp [ruleOfName, symbol, validator, typeName]⟩)

theorem forall_truthy_cons {P : Json → Prop} {k : String} {j : Json}
    {rest : List (String × Json)} :
    (∀ k' j', (k', j') ∈ (k, j) :: rest → j'.truthy = true → P j') ↔
      (j.truthy = true → P j) ∧ ∀ k' j', (k', j') ∈ rest → j'.truthy = true → P j' := by
  simp only [List.mem_cons, Prod.mk.injEq]
  constructor
  · intro each
    exact ⟨each k j (.inl ⟨rfl, rfl⟩), fun k' j' later => each k' j' (.inr later)⟩
  · rintro ⟨first, others⟩ k' j' (⟨rfl, rfl⟩ | later)
    · exact first
    · exact others k' j' later

theorem shapeOfJson_cons_ok_iff {k : String} {j : Json} {rest : List (String × Json)} :
    (∃ props, shapeOfJson n ((k, j) :: rest) = .ok props) ↔
      (j.truthy = true → ∃ ts, ofJsonWith n j = .ok ts) ∧
        ∃ more, shapeOfJson n rest = .ok more := by
  by_cases truthy : j.truthy = true
  · cases value : ofJsonWith n j with
    | error e => simp [shapeOfJson, truthy, value, Except.map]
    | ok ts =>
        cases restRead : shapeOfJson n rest <;>
          simp [shapeOfJson, truthy, value, restRead, Except.map]
  · cases restRead : shapeOfJson n rest <;> simp [shapeOfJson, truthy, restRead]

theorem shapeOfJson_cons_error {k : String} {j : Json} {rest : List (String × Json)}
    {e : TypesetError} (read : shapeOfJson n ((k, j) :: rest) = .error e) :
    (j.truthy = true ∧ ofJsonWith n j = .error e) ∨
      ((j.truthy = true → ∃ ts, ofJsonWith n j = .ok ts) ∧ shapeOfJson n rest = .error e) := by
  by_cases truthy : j.truthy = true
  · cases value : ofJsonWith n j with
    | error e' =>
        simp only [shapeOfJson, truthy, value, Except.map, if_true, Except.error.injEq] at read
        subst read
        exact .inl ⟨truthy, rfl⟩
    | ok ts =>
        cases restRead : shapeOfJson n rest <;>
          simp [shapeOfJson, truthy, value, restRead, Except.map] at read
        exact .inr ⟨fun _ => ⟨ts, rfl⟩, by rw [read]⟩
  · cases restRead : shapeOfJson n rest <;> simp [shapeOfJson, truthy, restRead] at read
    exact .inr ⟨fun truthy' => absurd truthy' truthy, by rw [read]⟩

theorem rulesOfJson_cons_ok_iff {qualified : Bool} {i : Nat} {j : Json} {rest : List Json} :
    (∃ rules, rulesOfJson n qualified i (j :: rest) = .ok rules) ↔
      (∃ r, readItem n qualified i j = .ok r) ∧
        ∃ rs, rulesOfJson n qualified (i + 1) rest = .ok rs := by
  rw [rulesOfJson_cons]
  cases item : readItem n qualified i j with
  | error f => simp
  | ok r => cases restRead : rulesOfJson n qualified (i + 1) rest <;> simp

theorem rulesOfJson_cons_error {qualified : Bool} {i : Nat} {j : Json} {rest : List Json}
    {f : ReadFault} (read : rulesOfJson n qualified i (j :: rest) = .error f) :
    readItem n qualified i j = .error f ∨
      ((∃ r, readItem n qualified i j = .ok r) ∧
        rulesOfJson n qualified (i + 1) rest = .error f) := by
  rw [rulesOfJson_cons] at read
  cases item : readItem n qualified i j with
  | error f' =>
      simp only [item, Except.error.injEq] at read
      exact .inl (by rw [read])
  | ok r =>
      cases restRead : rulesOfJson n qualified (i + 1) rest <;> simp [item, restRead] at read
      exact .inr ⟨⟨r, rfl⟩, by rw [read]⟩

mutual

theorem readable_of_ofJsonWith :
    ∀ {j : Json} {ts : Typeset}, ofJsonWith n j = .ok ts → Readable n j ∧ offences n j = []
  | .string s, ts, read => by
      rcases ruleOfName_cases n s with ⟨_, q, named⟩ | ⟨form, t, _⟩ | ⟨_, _, named⟩
      · simp [ofJsonWith, named] at read
      · exact ⟨.name form, by simp [offences, form]⟩
      · simp [ofJsonWith, named] at read
  | .object members, ts, read => by
      cases shape : shapeOfJson n members with
      | error e => simp [ofJsonWith, shape, Except.map] at read
      | ok props =>
          obtain ⟨each, clean⟩ := readable_of_shapeOfJson shape
          exact ⟨.shape each, by simpa [offences] using clean⟩
  | .array items, ts, read => by
      cases list : rulesOfJson n (startsWithQualifier items) 0 items with
      | error f => cases f <;> simp [ofJsonWith, list] at read
      | ok rules =>
          obtain ⟨each, clean⟩ := readable_of_rulesOfJson list
          exact ⟨.list each, by simpa [offences] using clean⟩
  | .null, ts, read => by simp [ofJsonWith] at read
  | .bool b, ts, read => by simp [ofJsonWith] at read
  | .number x, ts, read => by simp [ofJsonWith] at read

theorem readable_of_shapeOfJson :
    ∀ {members : List (String × Json)} {props : List (String × Option Typeset)},
      shapeOfJson n members = .ok props →
        (∀ k j, (k, j) ∈ members → j.truthy = true → Readable n j) ∧
          shapeOffences n members = []
  | [], props, read => ⟨by simp, rfl⟩
  | (k, j) :: rest, props, read => by
      obtain ⟨value, more, restRead⟩ := shapeOfJson_cons_ok_iff.mp ⟨props, read⟩
      obtain ⟨restEach, restClean⟩ := readable_of_shapeOfJson restRead
      by_cases truthy : j.truthy = true
      · obtain ⟨ts, valueRead⟩ := value truthy
        obtain ⟨readable, clean⟩ := readable_of_ofJsonWith valueRead
        exact ⟨forall_truthy_cons.mpr ⟨fun _ => readable, restEach⟩,
          by simp [shapeOffences, truthy, clean, restClean]⟩
      · exact ⟨forall_truthy_cons.mpr ⟨fun truthy' => absurd truthy' truthy, restEach⟩,
          by simp [shapeOffences, truthy, restClean]⟩

theorem readable_of_rulesOfJson :
    ∀ {items : List Json} {qualified : Bool} {i : Nat} {rules : List Rule},
      rulesOfJson n qualified i items = .ok rules →
        ItemsReadable n qualified i items ∧ itemsOffences n qualified i items = []
  | [], qualified, i, rules, read => ⟨.nil, rfl⟩
  | j :: rest, qualified, i, rules, read => by
      obtain ⟨⟨r, item⟩, rs, restRead⟩ := rulesOfJson_cons_ok_iff.mp ⟨rules, read⟩
      obtain ⟨itemReadable, itemClean⟩ := readable_of_readItem item
      obtain ⟨restReadable, restClean⟩ := readable_of_rulesOfJson restRead
      exact ⟨.cons itemReadable restReadable, by simp [itemsOffences, itemClean, restClean]⟩

theorem readable_of_readItem :
    ∀ {j : Json} {qualified : Bool} {i : Nat} {r : Rule}, readItem n qualified i j = .ok r →
      ItemReadable n qualified i j ∧ itemOffences n qualified i j = []
  | .string s, qualified, i, r, read => by
      rcases ruleOfName_cases n s with ⟨symbol, _, _⟩ | ⟨form, _, _⟩ | ⟨_, _, named⟩
      · exact ⟨.name (by simp [symbol]), by simp [itemOffences, symbol]⟩
      · exact ⟨.name (by simp [form]), by simp [itemOffences, form]⟩
      · simp [readItem, named, Except.mapError] at read
  | .object members, qualified, i, r, read => by
      by_cases leading : i = 0 ∨ i = 1 ∧ qualified = true
      · cases shape : shapeOfJson n members with
        | error e => simp [readItem, leading, shape] at read
        | ok props =>
            obtain ⟨each, clean⟩ := readable_of_shapeOfJson shape
            exact ⟨.shape leading each, by simp [itemOffences, leading, clean]⟩
      · exact ⟨.args leading, by simp [itemOffences, leading]⟩
  | .array inner, qualified, i, r, read => by
      cases innerRead : rulesOfJson n (startsWithQualifier inner) 0 inner with
      | error f => simp [readItem, innerRead] at read
      | ok rules =>
          obtain ⟨each, clean⟩ := readable_of_rulesOfJson innerRead
          exact ⟨.list each, by simpa [itemOffences] using clean⟩
  | .null, qualified, i, r, read => by simp [readItem] at read
  | .bool b, qualified, i, r, read => by simp [readItem] at read
  | .number x, qualified, i, r, read => by simp [readItem] at read

end

mutual

theorem ofJsonWith_of_readable : ∀ {j : Json}, Readable n j → ∃ ts, ofJsonWith n j = .ok ts
  | .string s, readable => by
      cases readable with
      | name form =>
          rcases ruleOfName_cases n s with ⟨symbol, _, _⟩ | ⟨_, t, named⟩ | ⟨_, notForm, _⟩
          · simp [Naming.namesForm, symbol] at form
          · exact ⟨t, by simp [ofJsonWith, named]⟩
          · simp [form] at notForm
  | .object members, readable => by
      cases readable with
      | shape each =>
          obtain ⟨props, read⟩ := shapeOfJson_of_readable each
          exact ⟨.shape props, by simp [ofJsonWith, read, Except.map]⟩
  | .array items, readable => by
      cases readable with
      | list each =>
          obtain ⟨rules, read⟩ := rulesOfJson_of_readable each
          exact ⟨.list rules, by simp [ofJsonWith, read]⟩
  | .null, readable => by cases readable
  | .bool b, readable => by cases readable
  | .number x, readable => by cases readable

theorem shapeOfJson_of_readable :
    ∀ {members : List (String × Json)},
      (∀ k j, (k, j) ∈ members → j.truthy = true → Readable n j) →
        ∃ props, shapeOfJson n members = .ok props
  | [], _ => ⟨[], rfl⟩
  | (k, j) :: rest, each => by
      obtain ⟨first, others⟩ := forall_truthy_cons.mp each
      exact shapeOfJson_cons_ok_iff.mpr
        ⟨fun truthy => ofJsonWith_of_readable (first truthy), shapeOfJson_of_readable others⟩

theorem rulesOfJson_of_readable :
    ∀ {items : List Json} {qualified : Bool} {i : Nat},
      ItemsReadable n qualified i items → ∃ rules, rulesOfJson n qualified i items = .ok rules
  | [], qualified, i, _ => ⟨[], rfl⟩
  | j :: rest, qualified, i, readable => by
      cases readable with
      | cons item others =>
          exact rulesOfJson_cons_ok_iff.mpr
            ⟨readItem_of_readable item, rulesOfJson_of_readable others⟩

theorem readItem_of_readable :
    ∀ {j : Json} {qualified : Bool} {i : Nat},
      ItemReadable n qualified i j → ∃ r, readItem n qualified i j = .ok r
  | .string s, qualified, i, readable => by
      cases readable with
      | name named =>
          rcases ruleOfName_cases n s with ⟨_, q, read⟩ | ⟨_, t, read⟩ | ⟨symbol, form, _⟩
          · exact ⟨.qualifier q, by simp [readItem, read, Except.mapError]⟩
          · exact ⟨.form t, by simp [readItem, read, Except.mapError]⟩
          · simp [symbol, form] at named
  | .object members, qualified, i, readable => by
      cases readable with
      | shape leading each =>
          obtain ⟨props, read⟩ := shapeOfJson_of_readable each
          exact ⟨.form (.shape props), by simp [readItem, leading, read]⟩
      | args notLeading => exact ⟨.args (argsOfJson n members), by simp [readItem, notLeading]⟩
  | .array inner, qualified, i, readable => by
      cases readable with
      | list each =>
          obtain ⟨rules, read⟩ := rulesOfJson_of_readable each
          exact ⟨.form (.list rules), by simp [readItem, read]⟩
  | .null, qualified, i, readable => by cases readable
  | .bool b, qualified, i, readable => by cases readable
  | .number x, qualified, i, readable => by cases readable

end

theorem violation?_unexpected (qualified : Bool) (i : Nat) :
    (ReadFault.grammar (.unexpected i
        (if (i == 0 || (i == 1 && qualified)) = true then .shape else .typeArgs))).violation? =
      some (.unexpected i (if i = 0 ∨ i = 1 ∧ qualified = true then .shape else .typeArgs)) := by
  simp [ReadFault.violation?, GrammarError.innermost]

mutual

theorem ofJsonWith_error_first :
    ∀ {j : Json} {e : TypesetError}, ofJsonWith n j = .error e →
      ∃ v, e.violation? = some v ∧ (offences n j).head? = some v
  | .string s, e, read => by
      rcases ruleOfName_cases n s with ⟨symbol, _, named⟩ | ⟨_, _, named⟩ | ⟨symbol, form, named⟩
      · -- a qualifier symbol standing alone
        simp only [ofJsonWith, named, Except.error.injEq] at read
        subst read
        have notForm : n.namesForm s = false := by simp [Naming.namesForm, symbol]
        exact ⟨.qualifierOnly, rfl, by simp [offences, notForm, symbol]⟩
      · simp [ofJsonWith, named] at read
      · simp only [ofJsonWith, named, Except.error.injEq] at read
        subst read
        exact ⟨.unknownType s, rfl, by simp [offences, form, symbol]⟩
  | .object members, e, read => by
      cases shape : shapeOfJson n members with
      | error e' =>
          simp only [ofJsonWith, shape, Except.map, Except.error.injEq] at read
          subst read
          simpa [offences] using shapeOfJson_error_first shape
      | ok props => simp [ofJsonWith, shape, Except.map] at read
  | .array items, e, read => by
      cases list : rulesOfJson n (startsWithQualifier items) 0 items with
      | error f =>
          obtain ⟨v, reported, first⟩ := rulesOfJson_error_first list
          cases f with
          | grammar g =>
              simp only [ofJsonWith, list, Except.error.injEq] at read
              subst read
              exact ⟨v, reported, by simpa [offences] using first⟩
          | typeset e' =>
              simp only [ofJsonWith, list, Except.error.injEq] at read
              subst read
              exact ⟨v, reported, by simpa [offences] using first⟩
      | ok rules => simp [ofJsonWith, list] at read
  | .null, e, read => by
      simp only [ofJsonWith, Except.error.injEq] at read
      subst read
      exact ⟨_, rfl, rfl⟩
  | .bool b, e, read => by
      simp only [ofJsonWith, Except.error.injEq] at read
      subst read
      exact ⟨_, rfl, rfl⟩
  | .number x, e, read => by
      simp only [ofJsonWith, Except.error.injEq] at read
      subst read
      exact ⟨_, rfl, rfl⟩

theorem shapeOfJson_error_first :
    ∀ {members : List (String × Json)} {e : TypesetError}, shapeOfJson n members = .error e →
      ∃ v, e.violation? = some v ∧ (shapeOffences n members).head? = some v
  | [], e, read => by simp [shapeOfJson] at read
  | (k, j) :: rest, e, read => by
      rcases shapeOfJson_cons_error read with ⟨truthy, valueRead⟩ | ⟨value, restRead⟩
      · obtain ⟨v, reported, first⟩ := ofJsonWith_error_first valueRead
        exact ⟨v, reported, by simp [shapeOffences, truthy, List.head?_append, first]⟩
      · obtain ⟨v, reported, first⟩ := shapeOfJson_error_first restRead
        have clean : (if j.truthy then offences n j else []) = [] := by
          by_cases truthy : j.truthy = true
          · obtain ⟨ts, valueRead⟩ := value truthy
            simp [truthy, (readable_of_ofJsonWith valueRead).2]
          · simp [truthy]
        exact ⟨v, reported, by rw [shapeOffences, clean, List.nil_append, first]⟩

theorem rulesOfJson_error_first :
    ∀ {items : List Json} {qualified : Bool} {i : Nat} {f : ReadFault},
      rulesOfJson n qualified i items = .error f →
        ∃ v, f.violation? = some v ∧ (itemsOffences n qualified i items).head? = some v
  | [], qualified, i, f, read => by simp [rulesOfJson_nil] at read
  | j :: rest, qualified, i, f, read => by
      rcases rulesOfJson_cons_error read with item | ⟨⟨r, item⟩, restRead⟩
      · obtain ⟨v, reported, first⟩ := readItem_error_first item
        exact ⟨v, reported, by simp [itemsOffences, List.head?_append, first]⟩
      · obtain ⟨v, reported, first⟩ := rulesOfJson_error_first restRead
        exact ⟨v, reported, by simp [itemsOffences, (readable_of_readItem item).2, first]⟩

theorem readItem_error_first :
    ∀ {j : Json} {qualified : Bool} {i : Nat} {f : ReadFault},
      readItem n qualified i j = .error f →
        ∃ v, f.violation? = some v ∧ (itemOffences n qualified i j).head? = some v
  | .string s, qualified, i, f, read => by
      rcases ruleOfName_cases n s with ⟨_, _, named⟩ | ⟨_, _, named⟩ | ⟨symbol, form, named⟩
      · simp [readItem, named, Except.mapError] at read
      · simp [readItem, named, Except.mapError] at read
      · simp only [readItem, named, Except.mapError, Except.error.injEq] at read
        subst read
        exact ⟨.unknownType s, rfl, by simp [itemOffences, symbol, form]⟩
  | .object members, qualified, i, f, read => by
      by_cases leading : i = 0 ∨ i = 1 ∧ qualified = true
      · cases shape : shapeOfJson n members with
        | error e =>
            simp [readItem, leading, shape] at read
            subst read
            simpa [itemOffences, leading, ReadFault.violation?] using shapeOfJson_error_first shape
        | ok props => simp [readItem, leading, shape] at read
      · simp [readItem, leading] at read
  | .array inner, qualified, i, f, read => by
      cases innerRead : rulesOfJson n (startsWithQualifier inner) 0 inner with
      | error f' =>
          simp only [readItem, innerRead, Except.error.injEq] at read
          subst read
          simpa [itemOffences, ReadFault.violation?_nest] using rulesOfJson_error_first innerRead
      | ok rules => simp [readItem, innerRead] at read
  | .null, qualified, i, f, read => by
      simp only [readItem, Except.error.injEq] at read
      subst read
      exact ⟨_, violation?_unexpected qualified i, by simp [itemOffences]⟩
  | .bool b, qualified, i, f, read => by
      simp only [readItem, Except.error.injEq] at read
      subst read
      exact ⟨_, violation?_unexpected qualified i, by simp [itemOffences]⟩
  | .number x, qualified, i, f, read => by
      simp only [readItem, Except.error.injEq] at read
      subst read
      exact ⟨_, violation?_unexpected qualified i, by simp [itemOffences]⟩

end

end Reading

/-- A document reads as a typeset exactly when it belongs to the grammar of `Readable`; when it
does not, the error is a grammar violation whose innermost reason, under the locations of
nested lists, is the first offence met in depth-first, left-to-right order. -/
theorem ofJsonWith_acceptsExactly (n : Naming) (j : Json) :
    ((∃ ts, ofJsonWith n j = .ok ts) ↔ Readable n j) ∧
      ∀ e, ofJsonWith n j = .error e →
        ∃ doc reason, e = .invalid doc reason ∧ (offences n j).head? = some reason.innermost := by
  refine ⟨⟨?_, ofJsonWith_of_readable⟩, ?_⟩
  · rintro ⟨ts, read⟩
    exact (readable_of_ofJsonWith read).1
  · intro e read
    obtain ⟨v, reported, first⟩ := ofJsonWith_error_first read
    cases e with
    | invalid doc reason =>
        simp only [TypesetError.violation?, Option.some.injEq] at reported
        exact ⟨doc, reason, rfl, reported ▸ first⟩
    | _ => simp [TypesetError.violation?] at reported

theorem offences_eq_nil_iff (n : Naming) (j : Json) : offences n j = [] ↔ Readable n j := by
  constructor
  · intro clean
    cases read : ofJsonWith n j with
    | ok ts => exact (readable_of_ofJsonWith read).1
    | error e =>
        obtain ⟨v, -, first⟩ := ofJsonWith_error_first read
        simp [clean] at first
  · intro readable
    obtain ⟨ts, read⟩ := ofJsonWith_of_readable readable
    exact (readable_of_ofJsonWith read).2

end Typeset

end Conformance
