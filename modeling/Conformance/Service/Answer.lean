import Conformance.Service.Encode
import Conformance.Check.Named
import Conformance.Json.Read

/-!
# Answering requests

The library as a service: a request is a JSON object whose `op` names an operation,
and its answer is a JSON object.  Values in requests and answers use the tagged
encoding of `Value.ofTagged`; typesets are typeset documents in which strings
`<validator:NAME>` name the custom validators of `Named`.

A request the service cannot read is refused with `{"error": "DriverInput", "message"}`;
an error of the library is answered with `TypesetError.toJson`.  Every answer comes
from one total function, `Service.answer`.
-/

namespace Conformance

namespace Service

/-- Why a request gets no regular answer. -/
inductive Refusal where
  /-- The request is malformed. -/
  | request (message : String)
  /-- The library refused the call. -/
  | library (e : TypesetError)

/-- The answer to a refused request. -/
def Refusal.toJson : Refusal → Json
  | .request m => .object [("error", .string "DriverInput"), ("message", .string m)]
  | .library e => e.toJson

/-- A computation that may refuse the request. -/
abbrev Answering := Except Refusal

/-- Refuses a malformed request. -/
def refuse {α : Type} (message : String) : Answering α :=
  .error (.request message)

/-- A library result, with its error as the refusal. -/
def lift {α : Type} (r : Except TypesetError α) : Answering α :=
  r.mapError .library

/-- A member that must be present. -/
def field (req : Json) (key : String) : Answering Json :=
  match req.get? key with
  | some j => .ok j
  | none => refuse ("missing field " ++ key)

/-- A member that must be a string. -/
def stringField (req : Json) (key : String) : Answering String := do
  match ← field req key with
  | .string s => pure s
  | _ => refuse (key ++ " must be a string")

/-- A member read as a flag: only `true` sets it. -/
def flag (req : Json) (key : String) : Bool :=
  match req.get? key with
  | some (.bool true) => true
  | _ => false

/-- Reads a value; `fresh` is the identity of the next new function. -/
def decodeValue (fresh : Nat) (j : Json) : Answering (Value × Nat) :=
  (Value.ofTagged fresh j).mapError .request

/-- The member `value`; undefined when it is missing. -/
def valueField (req : Json) (fresh : Nat) : Answering (Value × Nat) :=
  match req.get? "value" with
  | some j => decodeValue fresh j
  | none => .ok (.undefined, fresh)

/-- Reads a typeset document whose markers name known validators. -/
def decodeTypeset (j : Json) : Answering Typeset :=
  match Named.unknownIn j with
  | some name => refuse ("unknown validator " ++ name)
  | none => lift (Typeset.ofJsonWith Named.naming j)

/-- The member `typeset`, read as a typeset. -/
def typesetField (req : Json) : Answering Typeset := do
  decodeTypeset (← field req "typeset")

/-- The qualifier a symbol stands for. -/
def decodeQualifier (s : String) : Answering Qualifier :=
  match Qualifier.ofSymbol? s with
  | some q => .ok q
  | none => .error (.library (.unknownQualifier s))

/-- The optional member `qualifier`. -/
def qualifierField (req : Json) : Answering (Option Qualifier) :=
  match req.get? "qualifier" with
  | none | some .null => .ok none
  | some (.string s) => some <$> decodeQualifier s
  | some _ => refuse "qualifier must be a string"

/-- The member `options` of a check. -/
def optionsField (req : Json) : CheckOptions :=
  { exactShapes := match req.get? "options" with
      | some o => flag o "exactShapes"
      | none => false }

/-- The type a name stands for. -/
def decodeType (s : String) : Answering TypeName :=
  match TypeName.ofName? s with
  | some t => .ok t
  | none => .error (.library (.unknownType s))

/-- The member `mode` of a split into alternatives: `include` (the default),
`exclude` or `default:SYMBOL`. -/
def qualifierModeField (req : Json) : Answering QualifierMode :=
  match req.get? "mode" with
  | none => .ok .include
  | some (.string "include") => .ok .include
  | some (.string "exclude") => .ok .exclude
  | some (.string s) =>
    if s.startsWith "default:" then .default <$> decodeQualifier (String.ofList (s.toList.drop 8))
    else refuse ("bad mode " ++ s)
  | some _ => refuse "mode must be a string"

/-- Reads where a value was found: `{"index": n}`, `{"prop": name}` or
`{"key": value}`. -/
def decodeParentKey (fresh : Nat) (j : Json) : Answering (ParentKey × Nat) :=
  match j.get? "index", j.get? "prop", j.get? "key" with
  | some (.number (.int i)), _, _ =>
    if 0 ≤ i then .ok (.index i.toNat, fresh) else refuse "bad parentKey"
  | some _, _, _ => refuse "bad parentKey"
  | none, some (.string s), _ => .ok (.prop s, fresh)
  | none, some _, _ => refuse "bad parentKey"
  | none, none, some k => (decodeValue fresh k).map fun (v, fresh) => (.key v, fresh)
  | none, none, none => refuse "bad parentKey"

/-- The context of a check of `v`: the member `context` with its parent, key and the
value the check started from (by default `v`), and the member `options`. -/
def contextField (req : Json) (v : Value) (fresh : Nat) : Answering Context := do
  let options := optionsField req
  match req.get? "context" with
  | none => pure (Context.root v options)
  | some c =>
    let (parent, fresh) ← match c.get? "parent" with
      | some j => (decodeValue fresh j).map fun (p, fresh) => (some p, fresh)
      | none => pure (none, fresh)
    let (parentKey, fresh) ← match c.get? "parentKey" with
      | some j => (decodeParentKey fresh j).map fun (k, fresh) => (some k, fresh)
      | none => pure (none, fresh)
    let start ← match c.get? "original" with
      | some j => (decodeValue fresh j).map Prod.fst
      | none => pure v
    pure { start, parent, parentKey, options }

/-- The engine with every standard validator and the named custom validators. -/
def standardEngine : Engine :=
  Engine.standard Named.checks

/-- The answer of a check. -/
def verdict (r : Except TypesetError Verdict) : Answering Json :=
  lift (r.map Verdict.toJson)

/-- `check`: a value against a typeset, with options. -/
def check (req : Json) : Answering Json := do
  let (v, _) ← valueField req 0
  let ts ← typesetField req
  verdict (standardEngine.check v ts (optionsField req))

/-- `verify`: the minimum viable value, or the mismatch's text and path. -/
def verify (req : Json) : Answering Json := do
  let (v, _) ← valueField req 0
  let ts ← typesetField req
  match ← lift (standardEngine.verify v ts) with
  | .ok mvv => pure (.object [("mvv", mvv.toTagged)])
  | .error m =>
    pure (.object [("verifyError", .string m.message), ("path", .array (m.path.map Json.string))])

/-- `check_with`: a check in a given context, of a whole typeset (`in`), of one
alternative (`type`), of a shape (`shape`) or of the alternatives of a list
(`array`). -/
def checkWith (req : Json) : Answering Json := do
  let (v, fresh) ← valueField req 0
  let ts ← typesetField req
  let q ← qualifierField req
  let ctx ← contextField req v fresh
  let mode ← match req.get? "mode" with
    | none => pure "in"
    | some (.string m) => pure m
    | some _ => refuse "mode must be a string"
  match mode with
  | "in" => verdict (standardEngine.checkIn v ts ctx)
  | "type" => verdict (standardEngine.checkWithType v ts ctx q)
  | "shape" =>
    match ts with
    | .shape props => verdict (standardEngine.checkWithShape v props ctx q)
    | _ => refuse "mode shape needs a shape typeset"
  | "array" => verdict (standardEngine.checkWithList v ts ctx q)
  | other => refuse ("bad mode " ++ other)

/-- `classify`: a typeset document read, written back, as a tree, and its
qualifier. -/
def classify (req : Json) : Answering Json := do
  let ts ← typesetField req
  pure (.object [("typeset", ts.toJson), ("display", .string ts.print), ("tree", ts.tree),
    ("qualifier", .string ts.qualifier.symbol)])

/-- The grammar options of a request. -/
def grammarOptions (req : Json) : GrammarOptions :=
  { deep := flag req "deep", fullyQualified := flag req "fullyQualified" }

/-- `validate`: the grammar check, with the violation and its innermost cause. -/
def validate (req : Json) : Answering Json := do
  let ts ← typesetField req
  match Typeset.validate (grammarOptions req) ts with
  | .ok () => pure (.object [("ok", .bool true)])
  | .error e =>
    pure (.object [("ok", .bool false), ("kind", .string e.code),
      ("innermost", .string e.innermost.code), ("reason", .string e.message),
      ("innermostReason", .string e.innermost.message),
      ("message", .string (TypesetError.invalid ts.print e).message)])

/-- `is_typeset_json`: whether a document, read as it is, is a well-formed typeset. -/
def isTypesetJson (req : Json) : Answering Json := do
  let j ← field req "typeset"
  pure (.object [("result", .bool (Typeset.isTypesetJson (grammarOptions req) j))])

/-- `fully_qualify`: the fully-qualified form of a typeset. -/
def fullyQualify (req : Json) : Answering Json := do
  let ts ← typesetField req
  let q ← qualifierField req
  pure (← lift (ts.fullyQualify q)).report

/-- `get_qualifier`: the qualifier a typeset states. -/
def getQualifier (req : Json) : Answering Json := do
  let ts ← typesetField req
  pure (.object [("qualifier", .string ts.qualifier.symbol)])

/-- Reads an arguments object as a type reads it. -/
def decodeArgs (j : Json) : Answering Args :=
  match j with
  | .object members => .ok (Typeset.argsOfJson Naming.none members)
  | _ => refuse "args must be an object"

/-- `to_typeset`: the typeset of a type with a qualifier and arguments. -/
def toTypeset (req : Json) : Answering Json := do
  let t ← decodeType (← stringField req "type")
  let q ← qualifierField req
  let args ← match req.get? "args" with
    | none | some .null => pure none
    | some j => some <$> decodeArgs j
  pure (← lift (typesetOf t q args (flag req "fullyQualified"))).report

/-- `subtypes`: the alternatives of a well-formed list, split twice. -/
def subtypes (req : Json) : Answering Json := do
  let ts ← typesetField req
  let mode ← qualifierModeField req
  let (units, _) ← lift (ts.subtypes mode)
  let (again, _) ← lift (ts.subtypes mode)
  pure (.object [("units", .array (units.map fun u => .object (Rule.unitReport u))),
    ("exhausted", .bool true), ("countAfterRestart", Json.ofNat again.length)])

/-- The steps of a split from `cursor` on, up to the first empty alternative. -/
def extractSteps (rules : List Rule) (mode : QualifierMode) : Nat → Nat → List Json
  | 0, _ => []
  | fuel + 1, cursor =>
    let (unit, next) := Rule.nextUnit rules cursor mode
    let step := Json.object (Rule.unitReport unit ++ [("cursor", Json.ofNat next)])
    if unit.isEmpty then [step] else step :: extractSteps rules mode fuel next

/-- `extract`: a list split step by step, with no grammar check. -/
def extract (req : Json) : Answering Json := do
  let ts ← typesetField req
  let mode ← qualifierModeField req
  let cursor ← match req.get? "cursor" with
    | none | some .null => pure 0
    | some (.number (.int i)) => if 0 ≤ i then pure i.toNat else refuse "cursor must be a count"
    | some _ => refuse "cursor must be a count"
  match ts with
  | .list rules =>
    pure (.object [("steps", .array (extractSteps rules mode (rules.length + 1) cursor))])
  | _ => refuse "extract needs a list typeset"

/-- `lint`: the arguments no type reads. -/
def lint (req : Json) : Answering Json := do
  let ts ← typesetField req
  pure (.object [("warnings", .array (ts.lint.map LintWarning.toJson))])

/-- `print_value`: how diagnostics write a value, its plain document, kind,
truthiness and whether it contains values. -/
def printValue (req : Json) : Answering Json := do
  let (v, _) ← valueField req 0
  pure (.object [("printed", .string v.print), ("json", v.toJson), ("kind", .string v.kind),
    ("truthy", .bool v.truthy), ("container", .bool v.isContainer)])

/-- `format_number`: a number as diagnostics write it. -/
def formatNumber (req : Json) : Answering Json := do
  let (v, _) ← decodeValue 0 (← field req "number")
  match v with
  | .number x => pure (.object [("formatted", .string (Conformance.formatNumber x))])
  | _ => refuse "number must be a number"

/-- `permits`: which qualifiers accept a value as absent. -/
def permits (req : Json) : Answering Json := do
  let (v, _) ← valueField req 0
  let each := Qualifier.all.map fun q => (q.symbol, Json.bool (q.permits v))
  pure (.object [("permits", .object each)])

/-- `predicates`: which types a value has, in registry order. -/
def predicates (req : Json) : Answering Json := do
  let (v, _) ← valueField req 0
  pure (.object [("predicates",
    .array (TypeName.all.map fun t => .array [.string t.name, .bool (t.holds v)]))])

/-- `type_info`: what the registry knows of a type. -/
def typeInfo (req : Json) : Answering Json := do
  let t ← decodeType (← stringField req "name")
  pure (.object [("name", .string t.name), ("hasArgs", .bool t.hasArgs),
    ("isObjectType", .bool t.isObjectType), ("argNames", .array (t.argNames.map Json.string))])

/-- `qualifier_info`: a qualifier's symbol and whether it is the default. -/
def qualifierInfo (req : Json) : Answering Json := do
  let q ← decodeQualifier (← stringField req "name")
  pure (.object [("symbol", .string q.symbol), ("isDefault", .bool (q == Qualifier.default))])

/-- A number argument as a value document. -/
def numberArg : Option Float → Json
  | some x => (Value.number x).toTagged
  | none => .null

/-- A string argument as a document. -/
def stringArg : Option String → Json
  | some s => .string s
  | none => .null

/-- The accessors of one argument. -/
def argReport (args : Args) : String × Arg → Json
  | (k, arg) =>
    let j := match arg with
      | .typeset ts => ts.toJson
      | .data d => d
    .object [("key", .string k), ("isTypeset", .bool (Args.typeset? args k).isSome),
      ("isShape", .bool (Args.shape? args k).isSome), ("number", numberArg (Args.number? args k)),
      ("count", numberArg (Args.count? args k)), ("string", stringArg (Args.string? args k)),
      ("nonEmptyString", stringArg (Args.nonEmptyString? args k)),
      ("flag", ((Args.flag? args k).map Json.bool).getD .null), ("json", j)]

/-- `args`: an arguments object read as a type reads it. -/
def args (req : Json) : Answering Json := do
  let a ← decodeArgs (← field req "args")
  pure (.object [("entries", .array (a.map (argReport a))), ("len", Json.ofNat a.length),
    ("json", Args.toJson a)])

/-- The answer listing an engine's types. -/
def typesReport (e : Engine) : Json :=
  .object [("types", .array (e.registeredTypes.map fun t => Json.string t.name))]

/-- One step on an engine: the engine after it and the step's answer. -/
def engineStep (e : Engine) (step : Json) : Answering (Engine × Json) := do
  match ← stringField step "op" with
  | "new" => let e := Engine.empty Named.checks; pure (e, typesReport e)
  | "standard" => let e := standardEngine; pure (e, typesReport e)
  | "register" =>
    let t ← decodeType (← stringField step "type")
    let (e, replaced) := e.register t
    pure (e, .object [("replaced", .bool replaced)])
  | "has" =>
    let t ← decodeType (← stringField step "type")
    pure (e, .object [("has", .bool (e.has t))])
  | "types" => pure (e, typesReport e)
  | "check" =>
    let (v, _) ← valueField step 0
    let ts ← typesetField step
    pure (e, ← verdict (e.check v ts (optionsField step)))
  | other => refuse ("bad step op " ++ other)

/-- The answers of steps run in order; a refused step answers with its refusal and
leaves the engine as it was. -/
def engineSteps (e : Engine) : List Json → List Json
  | [] => []
  | step :: rest =>
    match engineStep e step with
    | .ok (e, a) => a :: engineSteps e rest
    | .error r => r.toJson :: engineSteps e rest

/-- `engine`: steps on an engine that starts with no validators. -/
def engine (req : Json) : Answering Json := do
  match ← field req "steps" with
  | .array steps =>
    pure (.object [("steps", .array (engineSteps (Engine.empty Named.checks) steps))])
  | _ => refuse "steps must be an array"

/-- The operation a name stands for. -/
def operation : String → Option (Json → Answering Json)
  | "check" => some check
  | "verify" => some verify
  | "check_with" => some checkWith
  | "classify" => some classify
  | "validate" => some validate
  | "is_typeset_json" => some isTypesetJson
  | "fully_qualify" => some fullyQualify
  | "get_qualifier" => some getQualifier
  | "to_typeset" => some toTypeset
  | "subtypes" => some subtypes
  | "extract" => some extract
  | "lint" => some lint
  | "print_value" => some printValue
  | "format_number" => some formatNumber
  | "permits" => some permits
  | "predicates" => some predicates
  | "type_info" => some typeInfo
  | "qualifier_info" => some qualifierInfo
  | "args" => some args
  | "engine" => some engine
  | _ => none

/-- The answer to a request. -/
def answer (req : Json) : Json :=
  let reply : Answering Json := do
    let name ← stringField req "op"
    match operation name with
    | some run => run req
    | none => refuse ("unknown op " ++ name)
  match reply with
  | .ok j => j
  | .error r => r.toJson

/-- The answer to a line of text: a request, or a refusal when it is no JSON. -/
def answerLine (line : String) : Json :=
  match Json.parse line with
  | .ok req => answer req
  | .error e => (Refusal.request ("bad json: " ++ e)).toJson

end Service

end Conformance
