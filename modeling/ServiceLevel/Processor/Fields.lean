import ServiceLevel.Failure

/-!
# Typed fields

The built-in processors and the settings declare the types of their fields.  A
flag may be given as a truth value, as zero or one, or as one of a few words; a
text only as a text.  All fields with a wrong value are reported together, in
the order of their declaration.
-/

namespace ServiceLevel

/-- What is wrong with a field. -/
inductive FieldProblem where
  /-- A value that could be a flag but is none. -/
  | flagValue
  /-- A value of a type that flags do not have. -/
  | flagType
  | textType
  | listType
  /-- The whole is no object. -/
  | objectType
  deriving DecidableEq, Repr

/-- The name of a problem in messages. -/
def FieldProblem.name : FieldProblem → String
  | .flagValue => "bool_parsing"
  | .flagType => "bool_type"
  | .textType => "string_type"
  | .listType => "list_type"
  | .objectType => "model_type"

/-- A problem and the path of the field that has it. -/
structure FieldFault where
  path : String
  problem : FieldProblem
  deriving DecidableEq, Repr

/-- A field, or the faults found in it. -/
abbrev Field (α : Type) := Except (List FieldFault) α

namespace Field

/-- The words for a false flag. -/
def falseWords : List String := ["0", "off", "f", "false", "n", "no"]

/-- The words for a true flag. -/
def trueWords : List String := ["1", "on", "t", "true", "y", "yes"]

/-- Whether an integer fits in 64 bits. -/
def fits (value : Int) : Bool :=
  -9223372036854775808 ≤ value && value ≤ 9223372036854775807

/-- A flag given as an integer. -/
def wholeFlag (value : Int) : Except FieldProblem Bool :=
  if value = 0 then .ok false
  else if value = 1 then .ok true
  else if fits value then .error .flagValue
  else .error .flagType

/-- Whether a floating point number has no fraction. -/
def isWhole : Binary64 → Bool
  | .finite _ significand exponent =>
    let scaled := Binary64.scaleRatio significand 1 exponent
    scaled.1 % scaled.2 = 0
  | _ => false

/-- A value as a flag. -/
def flagOf : Json → Except FieldProblem Bool
  | .bool value => .ok value
  | .number (.whole value) => wholeFlag value
  | .number (.float value) =>
    match value.truncate? with
    | some whole => if isWhole value then wholeFlag whole else .error .flagType
    | none => .error .flagType
  | .text value =>
    let word := String.ofList (value.toList.map Char.toLower)
    if falseWords.contains word then .ok false
    else if trueWords.contains word then .ok true
    else .error .flagValue
  | _ => .error .flagType

/-- The flag of a field of an object, or what stands for it when it is missing. -/
def flag (data : Json) (name : String) (fallback : Bool) : Field Bool :=
  match data.field? name with
  | none => .ok fallback
  | some value =>
    match flagOf value with
    | .ok given => .ok given
    | .error problem => .error [⟨name, problem⟩]

/-- The text of a field of an object, or what stands for it when it is missing. -/
def text (data : Json) (name : String) (fallback : String) : Field String :=
  match data.field? name with
  | none => .ok fallback
  | some (.text value) => .ok value
  | some _ => .error [⟨name, .textType⟩]

/-- The faults of a field. -/
def faults {α : Type} : Field α → List FieldFault
  | .ok _ => []
  | .error found => found

/-- The failure of an object of the given title with faults in its fields. -/
def failure (title : String) (found : List FieldFault) : Failure :=
  .fault .fields
    ("<" ++ title ++ " " ++
      " ".intercalate (found.map fun fault => fault.path ++ ":" ++ fault.problem.name) ++ ">")

/-- Combine two fields; the faults of both are reported. -/
def both {α β : Type} (first : Field α) (second : Field β) : Field (α × β) :=
  match first, second with
  | .ok left, .ok right => .ok (left, right)
  | _, _ => .error (faults first ++ faults second)

end Field

/-- The document of a config: nothing when there is no text. -/
def readConfig (config : String) : Except Failure Json :=
  if config.isEmpty then .ok .null
  else
    match Json.read config with
    | .ok data => .ok data
    | .error problem => .error (.ofReadError problem)

/-- The settings of the error ratio processor. -/
structure ErrorRatioSettings where
  optimized : Bool
  deriving DecidableEq, Repr

/-- The settings of the debug processor. -/
structure DebugSettings where
  message : String
  showRequest : Bool
  showResult : Bool
  deriving DecidableEq, Repr

/-- The object of a config; nothing given is an empty one. -/
def configObject (title config : String) : Except Failure Json := do
  let data ← readConfig config
  if !data.isGiven then .ok (.object [])
  else
    match data with
    | .object _ => .ok data
    | _ => .error (Field.failure title [⟨"", .objectType⟩])

/-- Read the settings of the error ratio processor. -/
def ErrorRatioSettings.read (config : String) : Except Failure ErrorRatioSettings := do
  let data ← configObject "PluginConfig" config
  match Field.flag data "optimized" false with
  | .ok optimized => .ok ⟨optimized⟩
  | .error found => .error (Field.failure "PluginConfig" found)

/-- Read the settings of the debug processor. -/
def DebugSettings.read (config : String) : Except Failure DebugSettings := do
  let data ← configObject "DebugConfig" config
  let fields := Field.both (Field.text data "msg" "")
    (Field.both (Field.flag data "request" false) (Field.flag data "result" false))
  match fields with
  | .ok (message, showRequest, showResult) => .ok ⟨message, showRequest, showResult⟩
  | .error found => .error (Field.failure "DebugConfig" found)

end ServiceLevel
