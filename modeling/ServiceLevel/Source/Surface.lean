import ServiceLevel.Source.Value
import ServiceLevel.Naming

/-!
# What plugin code can reach

A plugin finds a fixed set of names and can import a fixed set of modules with a
fixed set of names each.  Everything else is out of its reach.
-/

namespace ServiceLevel.Source.Surface

/-- Given functions and types that take a fixed number of positional arguments. -/
def counted (count : Nat) (names : List String) : List (String × Value) :=
  names.map fun name => (name, .given name (some count))

/-- Given functions and types that take a varying number of arguments. -/
def uncounted (names : List String) : List (String × Value) :=
  names.map fun name => (name, .given name none)

/-- Names that stand for texts. -/
def texts (pairs : List (String × String)) : List (String × Value) :=
  pairs.map fun pair => (pair.1, .text pair.2)

/-- Names that stand for integers. -/
def integers (pairs : List (String × Nat)) : List (String × Value) :=
  pairs.map fun pair => (pair.1, .data (.ofInt pair.2))

/-- The faults that plugin code knows. -/
def faults : List Fault :=
  [.general, .value, .type, .key, .index, .runtime, .notImplemented, .stopIteration,
    .attribute, .importing, .lookup, .arithmetic, .zeroDivision, .overflow, .assertion]

/-- The name under which a module is imported. -/
def importName : String := "__import__"

/-- The symbol that stands for the names found without an import. -/
def builtinsName : String := "__builtins__"

/-- The name that writes to the log. -/
def printName : String := "print"

/-- The names that plugin code finds without an import. -/
def names : List (String × Value) :=
  counted 0 ["object"] ++
  counted 1
    ["abs", "all", "any", "callable", "chr", "float", "hash", "hex", "len", "list", "oct",
      "ord", "repr", "reversed", "tuple"] ++
  counted 2 ["divmod", "enumerate", "isinstance", "issubclass", "round", "sum"] ++
  counted 3 ["pow"] ++
  counted 4 ["property"] ++
  uncounted
    ["bool", "bytes", "dict", "filter", "frozenset", "int", "iter", "map", "max", "min",
      "next", "range", "set", "slice", "sorted", "str", "zip", "__build_class__", "super",
      "staticmethod", "classmethod", printName, importName] ++
  faults.map (fun fault => (fault.name, .fault fault)) ++
  [("True", .data (.bool true)), ("False", .data (.bool false)), ("None", .null)]

/-- Names of patterns of texts. -/
def patterns : List (String × Value) :=
  counted 2 ["compile"] ++
  counted 1 ["escape"] ++
  counted 3 ["findall", "finditer", "fullmatch", "match", "search"] ++
  counted 4 ["split"] ++
  counted 5 ["sub", "subn"] ++
  integers
    [("IGNORECASE", 2), ("MULTILINE", 8), ("DOTALL", 16), ("VERBOSE", 64), ("ASCII", 256),
      ("I", 2), ("M", 8), ("S", 16), ("X", 64), ("A", 256)]

/-- Names of mathematics. -/
def mathematics : List (String × Value) :=
  counted 1
    ["acos", "acosh", "asin", "asinh", "atan", "atanh", "cbrt", "ceil", "cos", "cosh",
      "degrees", "erf", "erfc", "exp", "exp2", "expm1", "fabs", "factorial", "floor", "frexp",
      "fsum", "gamma", "isfinite", "isinf", "isnan", "isqrt", "lgamma", "log10", "log1p",
      "log2", "modf", "radians", "sin", "sinh", "sqrt", "tan", "tanh", "trunc", "ulp"] ++
  counted 2
    ["atan2", "comb", "copysign", "dist", "fmod", "ldexp", "nextafter", "perm", "pow",
      "remainder"] ++
  uncounted ["gcd", "hypot", "isclose", "lcm", "log", "prod"] ++
  [("e", .data (.number (.float (.ofDecimal false 2718281828459045 (-15))))),
    ("pi", .data (.number (.float (.ofDecimal false 3141592653589793 (-15))))),
    ("tau", .data (.number (.float (.ofDecimal false 6283185307179586 (-15))))),
    ("inf", .data (.number (.float (.infinity false)))),
    ("nan", .data (.number (.float .nan)))]

/-- The lower case letters. -/
def lowercase : String := "abcdefghijklmnopqrstuvwxyz"

/-- The upper case letters. -/
def uppercase : String := "ABCDEFGHIJKLMNOPQRSTUVWXYZ"

/-- The decimal digits. -/
def digits : String := "0123456789"

/-- The punctuation marks. -/
def punctuation : String := "!\"#$%&\x27()*+,-./:;<=>?@[\\]^_\x60\x7b|\x7d~"

/-- The blanks. -/
def blanks : String := " \t\n\r\x0b\x0c"

/-- Names of characters. -/
def characters : List (String × Value) :=
  texts
    [("ascii_letters", lowercase ++ uppercase), ("ascii_lowercase", lowercase),
      ("ascii_uppercase", uppercase), ("digits", digits), ("hexdigits", digits ++ "abcdefABCDEF"),
      ("octdigits", "01234567"), ("punctuation", punctuation),
      ("printable", digits ++ lowercase ++ uppercase ++ punctuation ++ blanks),
      ("whitespace", blanks)] ++
  counted 2 ["capwords"]

/-- Names of the conventions for metrics, labels and rule groups. -/
def conventions : List (String × Value) :=
  texts
    [("PROM_SLI_ERROR_METRIC", Naming.errorRatioMetric),
      ("PROM_META_SLO_OBJECTIVE_RATIO_METRIC", Naming.objectiveMetric),
      ("PROM_META_SLO_ERROR_BUDGET_RATIO_METRIC", Naming.errorBudgetMetric),
      ("PROM_META_SLO_TIME_PERIOD_DAYS_METRIC", Naming.periodDaysMetric),
      ("PROM_META_SLO_CURRENT_BURN_RATE_RATIO_METRIC", Naming.currentBurnRateMetric),
      ("PROM_META_SLO_PERIOD_BURN_RATE_RATIO_METRIC", Naming.periodBurnRateMetric),
      ("PROM_META_SLO_PERIOD_ERROR_BUDGET_REMAINING_RATIO_METRIC", Naming.budgetRemainingMetric),
      ("PROM_META_SLO_INFO_METRIC", Naming.infoMetric),
      ("PROM_SLO_ID_LABEL_NAME", Naming.idLabel),
      ("PROM_SLO_NAME_LABEL_NAME", Naming.nameLabel),
      ("PROM_SLO_SERVICE_LABEL_NAME", Naming.serviceLabel),
      ("PROM_SLO_WINDOW_LABEL_NAME", Naming.windowLabel),
      ("PROM_SLO_SEVERITY_LABEL_NAME", Naming.severityLabel),
      ("PROM_SLO_VERSION_LABEL_NAME", Naming.versionLabel),
      ("PROM_SLO_MODE_LABEL_NAME", Naming.modeLabel),
      ("PROM_SLO_SPEC_LABEL_NAME", Naming.specLabel),
      ("PROM_SLO_OBJECTIVE_LABEL_NAME", Naming.objectiveLabel),
      ("PROM_RULE_GROUP_NAME_SLO_SLI_PREFIX", Naming.errorRatioGroup),
      ("PROM_RULE_GROUP_NAME_SLO_METADATA_PREFIX", Naming.metadataGroup),
      ("PROM_RULE_GROUP_NAME_SLO_ALERTS_PREFIX", Naming.alertGroup),
      ("PROM_RULE_GROUP_NAME_SLO_EXTRA_RULES_PREFIX", Naming.extraGroup),
      ("TPL_SLI_QUERY_WINDOW_VAR_NAME", Naming.windowVariable)] ++
  [("NAME_REGEXP", .record "re.Pattern" []), ("TPL_WINDOW_REGEXP", .record "re.Pattern" [])] ++
  counted 1 ["get_sli_error_metric", "get_slo_id_prom_labels"]

/-- The version of the plugins that give queries. -/
def indicatorVersion : String := "prometheus/v1"

/-- The version of the plugins that make processors. -/
def processorVersion : String := "prometheus/slo/v1"

/-- The name of the service in what a query plugin is told. -/
def serviceEntry : String := "service"

/-- The name of the definition in what a query plugin is told. -/
def sloEntry : String := "slo"

/-- The name of the objective in what a query plugin is told. -/
def objectiveEntry : String := "objective"

/-- Names of the domain. -/
def model : List (String × Value) :=
  uncounted
    ["Rule", "RuleGroup", "SLORules", "SLO", "SLI", "SLIRaw", "SLIEvents", "AlertMeta", "Info",
      "MWMBAlert", "MWMBAlertGroup"] ++
  [("AlertSeverity", .record "AlertSeverity" [("PAGE", "page"), ("TICKET", "ticket")])] ++
  texts
    [("SLO_PLUGIN_VERSION", processorVersion), ("SLI_PLUGIN_VERSION", indicatorVersion),
      ("SLI_PLUGIN_META_SERVICE", serviceEntry), ("SLI_PLUGIN_META_SLO", sloEntry),
      ("SLI_PLUGIN_META_OBJECTIVE", objectiveEntry)]

/-- The modules that plugin code can import, with their names. -/
def modules : List (String × List (String × Value)) :=
  [("re", patterns),
    ("json", uncounted ["dumps", "loads"]),
    ("math", mathematics),
    ("string", characters),
    ("copy", counted 1 ["copy"] ++ counted 3 ["deepcopy"]),
    ("typing",
      uncounted
        ["Any", "Callable", "Dict", "Iterable", "List", "Mapping", "Optional", "Sequence",
          "Set", "Tuple", "Union"]),
    ("slogen.conventions", conventions),
    ("slogen.promql",
      counted 1
        ["duration_to_prom_str", "parse_prom_duration", "labels_to_prom_filter",
          "labels_to_prom_group", "format_float", "format_float_plain"] ++
      uncounted ["merge_labels"]),
    ("slogen.template", counted 3 ["render_template"] ++ counted 1 ["template_variables"]),
    ("slogen.model", model),
    ("slogen.validation",
      counted 2 ["validate_slo"] ++
      uncounted ["PromQLDialectValidator", "MetricsQLDialectValidator"])]

/-- The package that holds some of the modules. -/
def package : String := "slogen"

/-- The part of a path behind the package, when it has that form. -/
def inPackage? (path : String) : Option String :=
  let start := (package ++ ".").toList
  if start.isPrefixOf path.toList then
    some (String.ofList (path.toList.drop start.length))
  else none

/-- The modules with their package, which holds those whose path begins with it. -/
def packages : List (String × List (String × Value)) :=
  modules ++
    [(package, modules.filterMap fun entry =>
      (inPackage? entry.1).map fun name => (name, .module entry.1))]

/-- Whether a module can be imported. -/
def importable (path : String) : Bool :=
  (packages.map Prod.fst).contains path

/-- Given functions that belong to the module with a path. -/
def bound (path : String) (parameters : Option Nat) (names : List String) :
    List (String × Value) :=
  names.map fun name => (name, .given (path ++ "." ++ name) parameters)

/-- The attributes that every module has beside its names. -/
def attributes (path : String) : List (String × Value) :=
  [("__name__", .text path), ("__doc__", .null), ("__loader__", .null), ("__package__", .null),
    ("__spec__", .null), ("__dict__", .record "dict" [("__name__", .text path)]),
    ("__annotations__", .record "dict" []), ("__class__", .given "module" (some 2))] ++
  bound path (some 0) ["__dir__", "__getstate__", "__hash__", "__reduce__", "__repr__",
    "__sizeof__", "__str__"] ++
  bound path (some 1)
    ["__delattr__", "__eq__", "__format__", "__ge__", "__getattribute__", "__gt__", "__le__",
      "__lt__", "__ne__", "__reduce_ex__"] ++
  bound path (some 2) ["__setattr__"] ++
  bound path none ["__init__", "__init_subclass__", "__new__", "__subclasshook__"]

/-- Names in ascending order. -/
def sorted (list : List String) : List String :=
  list.mergeSort fun left right => decide (left ≤ right)

/-- Everything that plugin code can reach: the names it finds and those of every module. -/
def exposed : List (String × List String) :=
  ("builtins", sorted (names.map Prod.fst)) ::
    modules.map fun entry => (entry.1, sorted (entry.2.map Prod.fst))

/-- The names of a module, or those found without an import. -/
def exposedBy (path : String) : Except Failure (List String) :=
  match exposed.lookup path with
  | some list => .ok list
  | none => .error (.fault .key (Text.quoted path))

end ServiceLevel.Source.Surface
