import ServiceLevel.Generation
import ServiceLevel.Proofs.Duration.RoundTrip
import ServiceLevel.Proofs.Entries

/-!
# What a rules file tells

The rules file leaves out the groups without rules and, of the others, the fields that are empty.
Two files are compared as documents are: objects as maps, in whatever order their fields stand,
arrays item by item, and texts by their characters.  How numbers and truth values compare, which
may stand in the labels of unchecked definitions, is left open: it is the same question for two
documents as for two label maps.

Rules that pass their check have one name, and durations of whole milliseconds have texts that
are told apart.  So nothing is lost: two files are the same exactly if their groups with rules
are, field by field.
-/

namespace ServiceLevel

namespace Json

/-! ## Documents side by side -/

section Documents

/-- A value that is no text and holds no others. -/
def isScalar : Json → Bool
  | .null | .bool _ | .number _ => true
  | .text _ | .array _ | .object _ => false

/-- Documents that are the same, objects being maps, for a comparison of scalars. -/
inductive Same (compare : Json → Json → Prop) : Json → Json → Prop where
  | scalar {left right : Json}
      (isScalar : left.isScalar = true)
      (isScalarToo : right.isScalar = true)
      (same : compare left right) :
      Same compare left right
  | text (value : String) : Same compare (.text value) (.text value)
  | array {items others : List Json}
      (each : List.Forall₂ (Same compare) items others) :
      Same compare (.array items) (.array others)
  | object {fields others : List (String × Json)}
      (each :
        ∀ name, Option.Rel (Same compare) (fields.lookup name) (others.lookup name)) :
      Same compare (.object fields) (.object others)

variable {compare : Json → Json → Prop}

theorem same_text_iff {value other : String} :
    Same compare (.text value) (.text other) ↔ value = other := by
  constructor
  · intro same
    cases same with
    | scalar isScalar => cases isScalar
    | text => rfl
  · rintro rfl
    exact .text value

theorem same_array_iff {items others : List Json} :
    Same compare (.array items) (.array others) ↔
      List.Forall₂ (Same compare) items others := by
  constructor
  · intro same
    cases same with
    | scalar isScalar => cases isScalar
    | array each => exact each
  · exact .array

theorem same_object_iff {fields others : List (String × Json)} :
    Same compare (.object fields) (.object others) ↔
      ∀ name, Option.Rel (Same compare) (fields.lookup name) (others.lookup name) := by
  constructor
  · intro same
    cases same with
    | scalar isScalar => cases isScalar
    | object each => exact each
  · exact .object

end Documents

/-! ## Objects with optional fields -/

section Optional

/-- The fields of an object, those without a value being left out. -/
def optional (fields : List (String × Option Json)) : List (String × Json) :=
  fields.filterMap fun field => field.2.map fun value => (field.1, value)

theorem optional_append (fields others : List (String × Option Json)) :
    optional (fields ++ others) = optional fields ++ optional others :=
  List.filterMap_append ..

theorem lookup_optional_of_notMem
    {fields : List (String × Option Json)}
    {name : String}
    (missing : name ∉ fields.map Prod.fst) :
    (optional fields).lookup name = none := by
  rw [List.lookup_eq_none_iff]
  rintro ⟨other, value⟩ member
  rcases List.mem_filterMap.mp member with ⟨field, isField, hasValue⟩
  rcases Option.map_eq_some_iff.mp hasValue with ⟨given, _, same⟩
  cases same
  rw [bne_iff_ne]
  rintro rfl
  exact missing (List.mem_map_of_mem isField)

theorem lookup_optional_cons
    {name : String}
    {value : Option Json}
    {rest : List (String × Option Json)}
    (fresh : name ∉ rest.map Prod.fst)
    (asked : String) :
    (optional ((name, value) :: rest)).lookup asked =
      if asked = name then value else (optional rest).lookup asked := by
  cases value with
  | none =>
      have skipped : optional ((name, none) :: rest) = optional rest := rfl
      rw [skipped]
      split
      · rename_i same
        rw [same, lookup_optional_of_notMem fresh]
      · rfl
  | some value =>
      have kept : optional ((name, some value) :: rest) = (name, value) :: optional rest := rfl
      rw [kept, Entries.lookup_pair]

variable {compare : Json → Json → Prop}

/-- Objects with the same optional fields are compared field by field. -/
theorem same_optional_iff
    {fields others : List (String × Option Json)}
    (sameNames : fields.map Prod.fst = others.map Prod.fst)
    (distinct : (fields.map Prod.fst).Nodup) :
    Same compare (.object (optional fields)) (.object (optional others)) ↔
      List.Forall₂ (fun field other => Option.Rel (Same compare) field.2 other.2)
        fields others := by
  rw [same_object_iff]
  induction fields generalizing others with
  | nil =>
      cases List.map_eq_nil_iff.mp sameNames.symm
      exact iff_of_true (fun _ => .none) .nil
  | cons field rest ih =>
      rcases List.map_eq_cons_iff.mp sameNames.symm with
        ⟨⟨name, otherValue⟩, otherRest, rfl, sameName, sameRest⟩
      rcases field with ⟨_, value⟩
      cases sameName
      have ⟨fresh, restDistinct⟩ := List.nodup_cons.mp distinct
      have freshToo : name ∉ otherRest.map Prod.fst := by
        rw [sameRest]
        exact fresh
      rw [List.forall₂_cons, ← ih sameRest.symm restDistinct]
      simp only [lookup_optional_cons fresh, lookup_optional_cons freshToo]
      constructor
      · intro each
        refine ⟨by simpa using each name, fun asked => ?_⟩
        by_cases isName : asked = name
        · rw [isName, lookup_optional_of_notMem fresh, lookup_optional_of_notMem freshToo]
          exact .none
        · simpa [isName] using each asked
      · rintro ⟨here, there⟩ asked
        split
        · exact here
        · exact there asked

end Optional

end Json

/-! ## Fields of rules -/

namespace Duration

/-- A duration that is absent, or a positive number of whole milliseconds. -/
def Exportable (duration : Option Duration) : Prop :=
  ∀ given ∈ duration, given.IsExact ∧ 0 < given.microseconds

/-- The text of a duration in a document. -/
def exported (duration : Option Duration) : Option Json :=
  duration.bind fun given => given.prometheus.toOption.map Json.text

theorem durationField_eq
    {duration : Option Duration}
    (exportable : Exportable duration)
    (name : String) :
    Rule.durationField name duration = .ok (Json.optional [(name, exported duration)]) := by
  cases duration with
  | none => rfl
  | some given =>
      have ⟨isExact, isPositive⟩ := exportable given rfl
      rcases isExact.exists_prometheus with ⟨text, written⟩
      have notZero : given.isZero = false :=
        decide_eq_false (Int.ne_of_gt isPositive)
      rw [Rule.durationField, notZero, exported, Option.bind_some, written]
      rfl

/-- Durations are told apart. -/
theorem rel_exported_iff
    {compare : Json → Json → Prop}
    {duration other : Option Duration}
    (exportable : Exportable duration)
    (exportableToo : Exportable other) :
    Option.Rel (Json.Same compare) (exported duration) (exported other) ↔ duration = other := by
  have exists_exported {duration : Duration} (exportable : Exportable (some duration)) :
      ∃ text, duration.prometheus = .ok text ∧ exported (some duration) = some (.text text) := by
    rcases (exportable duration rfl).1.exists_prometheus with ⟨text, written⟩
    refine ⟨text, written, ?_⟩
    rw [exported, Option.bind_some, written]
    rfl
  constructor
  · intro same
    cases duration with
    | none =>
        cases other with
        | none => rfl
        | some given =>
            rcases exists_exported exportableToo with ⟨text, _, isText⟩
            rw [isText] at same
            cases same
    | some given =>
        rcases exists_exported exportable with ⟨text, written, isText⟩
        rw [isText] at same
        cases other with
        | none => cases same
        | some otherGiven =>
            rcases exists_exported exportableToo with ⟨otherText, otherWritten, isOtherText⟩
            rw [isOtherText] at same
            cases same with
            | some sameText =>
                rw [Json.same_text_iff.mp sameText, ← otherWritten] at written
                rw [(exportable given rfl).1.eq_of_prometheus_eq
                  (exportableToo otherGiven rfl).1 written]
  · rintro rfl
    cases duration with
    | none => exact .none
    | some given =>
        rcases exists_exported exportable with ⟨text, _, isText⟩
        rw [isText]
        exact .some (.text text)

end Duration

namespace Labels

/-- Label maps that are the same as maps, for a comparison of scalars. -/
def SameMap (compare : Json → Json → Prop) (labels others : Labels) : Prop :=
  ∀ name, Option.Rel (Json.Same compare) (labels.get? name) (others.get? name)

/-- The object of a label map, if it has labels. -/
def exported (labels : Labels) : Option Json :=
  if labels.isEmpty then none else some (.object labels.pairs)

theorem mapField_eq (name : String) (labels : Labels) :
    Rule.mapField name labels = Json.optional [(name, labels.exported)] := by
  rw [Rule.mapField, exported]
  split <;> rfl

theorem get?_of_isEmpty
    {labels : Labels}
    (isEmpty : labels.isEmpty = true)
    (name : String) :
    labels.get? name = none := by
  rw [Entries.get?, List.isEmpty_iff.mp isEmpty]
  rfl

theorem exists_get?_of_not_isEmpty
    {labels : Labels}
    (notEmpty : ¬ labels.isEmpty = true) :
    ∃ name value, labels.get? name = some value := by
  rcases labels with ⟨_ | ⟨⟨name, value⟩, rest⟩, distinct⟩
  · exact absurd rfl notEmpty
  · exact ⟨name, value, List.lookup_cons_self⟩

theorem rel_exported_iff
    {compare : Json → Json → Prop}
    {labels others : Labels} :
    Option.Rel (Json.Same compare) labels.exported others.exported ↔
      labels.SameMap compare others := by
  rw [exported, exported]
  split <;> split
  · rename_i isEmpty otherIsEmpty
    refine iff_of_true .none fun name => ?_
    rw [get?_of_isEmpty isEmpty, get?_of_isEmpty otherIsEmpty]
    exact .none
  · rename_i isEmpty otherNotEmpty
    refine iff_of_false (fun impossible => by cases impossible) fun same => ?_
    rcases exists_get?_of_not_isEmpty otherNotEmpty with ⟨name, value, found⟩
    have here := same name
    rw [get?_of_isEmpty isEmpty, found] at here
    cases here
  · rename_i notEmpty otherIsEmpty
    refine iff_of_false (fun impossible => by cases impossible) fun same => ?_
    rcases exists_get?_of_not_isEmpty notEmpty with ⟨name, value, found⟩
    have here := same name
    rw [get?_of_isEmpty otherIsEmpty, found] at here
    cases here
  · constructor
    · rintro (same | _)
      exact Json.same_object_iff.mp same
    · exact fun same => .some (Json.same_object_iff.mpr same)

end Labels

/-! ## Rules -/

namespace Rule

/-- Rules that tell the same: what they record or alert on, and under which name. -/
structure SameContent (compare : Json → Json → Prop) (rule other : Rule) : Prop where
  record : rule.record = other.record
  alert :
    rule.alert.isGiven = true ∨ other.alert.isGiven = true →
      Json.Same compare rule.alert other.alert
  expression : rule.expression = other.expression
  hold : rule.hold = other.hold
  labels : rule.labels.SameMap compare other.labels
  annotations : rule.annotations.SameMap compare other.annotations

/-- A rule that passes its check and holds for no time or for whole milliseconds. -/
structure Exportable (rule : Rule) : Prop where
  valid : rule.validate = .ok ()
  hold : Duration.Exportable rule.hold

/-- The fields of the document of a rule. -/
def exported (rule : Rule) : List (String × Option Json) :=
  [("record", if rule.isRecording then some (.text rule.record) else none),
    ("alert", if rule.isRecording then none else some rule.alert),
    ("expr", some (.text rule.expression)),
    ("for", Duration.exported rule.hold),
    ("labels", rule.labels.exported),
    ("annotations", rule.annotations.exported)]

/-- The document of a rule, in which absent fields are left out. -/
def document (rule : Rule) : Json :=
  .object (Json.optional rule.exported)

theorem toJson_eq {rule : Rule} (exportable : rule.Exportable) :
    rule.toJson = .ok rule.document := by
  let named : List (String × Option Json) :=
    [("record", if rule.isRecording then some (.text rule.record) else none),
      ("alert", if rule.isRecording then none else some rule.alert),
      ("expr", some (.text rule.expression))]
  have names :
      [if rule.isRecording then ("record", Json.text rule.record) else ("alert", rule.alert),
          ("expr", .text rule.expression)] =
        Json.optional named := by
    cases isRecording : rule.isRecording <;> simp [named, isRecording, Json.optional]
  have fields :
      rule.exported =
        named ++ [("for", Duration.exported rule.hold)] ++ [("labels", rule.labels.exported)] ++
          [("annotations", rule.annotations.exported)] := rfl
  rw [toJson, Duration.durationField_eq exportable.hold, document, fields]
  simp only [Json.optional_append, ← Labels.mapField_eq, ← names]
  rfl

/-- A rule that passes its check alerts exactly if it does not record. -/
theorem Exportable.isGiven_alert {rule : Rule} (exportable : rule.Exportable) :
    rule.alert.isGiven = !rule.isRecording := by
  have valid := exportable.valid
  rw [validate] at valid
  split at valid
  · cases valid
  · rename_i apart
    cases given : rule.alert.isGiven <;> cases recording : rule.isRecording <;>
      simp [given, recording] at apart ⊢

/-- The names of rules are the same exactly if their fields are: each rule has one of the two. -/
theorem rel_names_iff
    {compare : Json → Json → Prop}
    {rule other : Rule}
    (exportable : rule.Exportable)
    (exportableToo : other.Exportable) :
    Option.Rel (Json.Same compare)
          (if rule.isRecording then some (.text rule.record) else none)
          (if other.isRecording then some (.text other.record) else none) ∧
        Option.Rel (Json.Same compare)
          (if rule.isRecording then none else some rule.alert)
          (if other.isRecording then none else some other.alert) ↔
      rule.record = other.record ∧
        (rule.alert.isGiven = true ∨ other.alert.isGiven = true →
          Json.Same compare rule.alert other.alert) := by
  have sameKind (same : rule.record = other.record) : rule.isRecording = other.isRecording := by
    rw [isRecording, isRecording, same]
  rw [exportable.isGiven_alert, exportableToo.isGiven_alert]
  cases recording : rule.isRecording <;> cases otherRecording : other.isRecording
  · have noRecord : rule.record = other.record := by
      simp only [isRecording, Bool.not_eq_false', String.isEmpty_iff] at recording otherRecording
      rw [recording, otherRecording]
    simp [noRecord]
  · have apart : rule.record ≠ other.record := fun same => by
      rw [← sameKind same, recording] at otherRecording
      cases otherRecording
    simp [apart]
  · have apart : rule.record ≠ other.record := fun same => by
      rw [← sameKind same, recording] at otherRecording
      cases otherRecording
    simp [apart]
  · simp [Json.same_text_iff]

/-- The documents of rules are the same exactly if the rules tell the same. -/
theorem same_document_iff
    {compare : Json → Json → Prop}
    {rule other : Rule}
    (exportable : rule.Exportable)
    (exportableToo : other.Exportable) :
    Json.Same compare rule.document other.document ↔ rule.SameContent compare other := by
  have distinct : (rule.exported.map Prod.fst).Nodup := by
    show ["record", "alert", "expr", "for", "labels", "annotations"].Nodup
    decide
  have sameNames : rule.exported.map Prod.fst = other.exported.map Prod.fst := rfl
  rw [document, document, Json.same_optional_iff sameNames distinct]
  simp only [exported, List.forall₂_cons, List.forall₂_nil_left_iff, and_true,
    Labels.rel_exported_iff, Duration.rel_exported_iff exportable.hold exportableToo.hold,
    ← and_assoc, rel_names_iff exportable exportableToo, Option.rel_some_some,
    Json.same_text_iff]
  constructor
  · rintro ⟨⟨⟨⟨⟨record, alert⟩, expression⟩, hold⟩, labels⟩, annotations⟩
    exact ⟨record, alert, expression, hold, labels, annotations⟩
  · rintro ⟨record, alert, expression, hold, labels, annotations⟩
    exact ⟨⟨⟨⟨⟨record, alert⟩, expression⟩, hold⟩, labels⟩, annotations⟩

end Rule

/-! ## Groups -/

/-- Items are related alike if each item on the left is to each on the right. -/
theorem forall₂_congr_of_mem
    {α β : Type}
    {left right : α → β → Prop}
    {items : List α}
    {others : List β}
    (each : ∀ item ∈ items, ∀ other ∈ others, left item other ↔ right item other) :
    List.Forall₂ left items others ↔ List.Forall₂ right items others := by
  induction items generalizing others with
  | nil => rw [List.forall₂_nil_left_iff, List.forall₂_nil_left_iff]
  | cons item rest ih =>
      cases others with
      | nil =>
          simp only [List.forall₂_nil_right_iff]
      | cons other otherRest =>
          rw [List.forall₂_cons, List.forall₂_cons,
            each item List.mem_cons_self other List.mem_cons_self,
            ih fun item member other otherMember =>
              each item (List.mem_cons_of_mem _ member) other
                (List.mem_cons_of_mem _ otherMember)]

namespace RuleGroup

/-- Groups that tell the same, rule by rule. -/
structure SameContent (compare : Json → Json → Prop) (group other : RuleGroup) : Prop where
  name : group.name = other.name
  interval : group.interval = other.interval
  rules : List.Forall₂ (Rule.SameContent compare) group.rules other.rules

/-- A group of such rules that is evaluated at no interval of its own or at whole milliseconds. -/
structure Exportable (group : RuleGroup) : Prop where
  interval : Duration.Exportable group.interval
  rules : ∀ rule ∈ group.rules, rule.Exportable

/-- The fields of the document of a group. -/
def exported (group : RuleGroup) : List (String × Option Json) :=
  [("name", some (.text group.name)), ("interval", Duration.exported group.interval),
    ("rules", some (.array (group.rules.map Rule.document)))]

/-- The document of a group, in which absent fields are left out. -/
def document (group : RuleGroup) : Json :=
  .object (Json.optional group.exported)

theorem rulesToJson_eq {rules : List Rule} (exportable : ∀ rule ∈ rules, rule.Exportable) :
    rulesToJson rules = .ok (rules.map Rule.document) := by
  induction rules with
  | nil => rfl
  | cons rule rest ih =>
      have ⟨exportable, restExportable⟩ := List.forall_mem_cons.mp exportable
      rw [rulesToJson, Rule.toJson_eq exportable, ih restExportable]
      rfl

theorem toJson_eq {group : RuleGroup} (exportable : group.Exportable) :
    group.toJson = .ok group.document := by
  have fields :
      group.exported =
        [("name", some (Json.text group.name))] ++
            [("interval", Duration.exported group.interval)] ++
          [("rules", some (.array (group.rules.map Rule.document)))] := rfl
  rw [toJson, Duration.durationField_eq exportable.interval, rulesToJson_eq exportable.rules,
    document, fields]
  simp only [Json.optional_append]
  rfl

/-- The documents of groups are the same exactly if the groups tell the same. -/
theorem same_document_iff
    {compare : Json → Json → Prop}
    {group other : RuleGroup}
    (exportable : group.Exportable)
    (exportableToo : other.Exportable) :
    Json.Same compare group.document other.document ↔ group.SameContent compare other := by
  have distinct : (group.exported.map Prod.fst).Nodup := by
    show ["name", "interval", "rules"].Nodup
    decide
  have sameNames : group.exported.map Prod.fst = other.exported.map Prod.fst := rfl
  have sameRules :
      List.Forall₂
          (fun rule otherRule => Json.Same compare rule.document otherRule.document)
          group.rules other.rules ↔
        List.Forall₂ (Rule.SameContent compare) group.rules other.rules :=
    forall₂_congr_of_mem fun rule member otherRule otherMember =>
      Rule.same_document_iff (exportable.rules rule member)
        (exportableToo.rules otherRule otherMember)
  rw [document, document, Json.same_optional_iff sameNames distinct]
  simp only [exported, List.forall₂_cons, List.forall₂_nil_left_iff, and_true,
    Duration.rel_exported_iff exportable.interval exportableToo.interval, Option.rel_some_some,
    Json.same_text_iff, Json.same_array_iff, List.forall₂_map_left_iff,
    List.forall₂_map_right_iff, sameRules]
  constructor
  · rintro ⟨name, interval, rules⟩
    exact ⟨name, interval, rules⟩
  · rintro ⟨name, interval, rules⟩
    exact ⟨name, interval, rules⟩

end RuleGroup

/-! ## Files -/

namespace RuleSet

theorem groupsToJson_eq
    {groups : List RuleGroup}
    (exportable : ∀ group ∈ groups, group.Exportable) :
    groupsToJson groups = .ok (groups.map RuleGroup.document) := by
  induction groups with
  | nil => rfl
  | cons group rest ih =>
      have ⟨exportable, restExportable⟩ := List.forall_mem_cons.mp exportable
      rw [groupsToJson, RuleGroup.toJson_eq exportable, ih restExportable]
      rfl

/-- The fields of a rules file. -/
def exported (groups : List RuleGroup) : List (String × Option Json) :=
  [("groups", some (.array (groups.map RuleGroup.document)))]

/-- The document of a rules file. -/
def document (groups : List RuleGroup) : Json :=
  .object (Json.optional (exported groups))

theorem fileOf_eq
    {groups : List RuleGroup}
    (exportable : ∀ group ∈ groups, group.Exportable) :
    fileOf groups = .ok (document groups) := by
  rw [fileOf, groupsToJson_eq exportable]
  rfl

/-- Rules files are the same exactly if their groups tell the same. -/
theorem same_document_iff
    {compare : Json → Json → Prop}
    {groups others : List RuleGroup}
    (exportable : ∀ group ∈ groups, group.Exportable)
    (exportableToo : ∀ group ∈ others, group.Exportable) :
    Json.Same compare (document groups) (document others) ↔
      List.Forall₂ (RuleGroup.SameContent compare) groups others := by
  have sameGroups :
      List.Forall₂
          (fun group otherGroup => Json.Same compare group.document otherGroup.document)
          groups others ↔
        List.Forall₂ (RuleGroup.SameContent compare) groups others :=
    forall₂_congr_of_mem fun group member otherGroup otherMember =>
      RuleGroup.same_document_iff (exportable group member) (exportableToo otherGroup otherMember)
  have distinct : ((exported groups).map Prod.fst).Nodup := by
    show ["groups"].Nodup
    decide
  have sameNames : (exported groups).map Prod.fst = (exported others).map Prod.fst := rfl
  rw [document, document, Json.same_optional_iff sameNames distinct]
  simp only [exported, List.forall₂_cons, List.forall₂_nil_left_iff, and_true,
    Option.rel_some_some, Json.same_array_iff, List.forall₂_map_left_iff,
    List.forall₂_map_right_iff, sameGroups]

end RuleSet

namespace Generated

/--
The groups of all objectives that have rules, one objective after another: of each the errors,
the metadata, the alerts and the extra groups, in this order.
-/
def filledGroups (results : List Generated) : List RuleGroup :=
  (results.flatMap fun result =>
    result.rules.errorRatio :: result.rules.metadata :: result.rules.alerts ::
      result.rules.extra).filter fun group => group.rules ≠ []

/-- The groups that go into the rules file are those that have rules, of all four kinds. -/
theorem groups_eq_filledGroups (results : List Generated) :
    groups results = filledGroups results := by
  have sameTest :
      (fun group : RuleGroup => !group.rules.isEmpty) =
        fun group => decide (group.rules ≠ []) := by
    funext group
    cases group.rules <;> rfl
  have ofOne (result : Generated) :
      result.rules.groups =
        (result.rules.errorRatio :: result.rules.metadata :: result.rules.alerts ::
          result.rules.extra).filter fun group => group.rules ≠ [] := by
    rw [RuleSet.groups, sameTest]
    rfl
  rw [groups, filledGroups, List.filter_flatMap]
  simp only [ofOne]

/--
The rules file loses nothing.  Take two generations whose groups with rules have no interval or
one of whole milliseconds, and whose rules pass their check and hold for no time or for whole
milliseconds.  Both have a rules file, and however scalars compare, the two files are the same
exactly if the groups with rules are, of all kinds and of all objectives, one by one: their names
and intervals, and rule by rule the metric or the alert, the expression, the time it has to hold,
and the labels and annotations as maps.
-/
theorem rulesFile_faithful
    {results others : List Generated}
    (exportable : ∀ group ∈ filledGroups results, group.Exportable)
    (exportableToo : ∀ group ∈ filledGroups others, group.Exportable) :
    ∃ document other,
      rulesFile results = .ok document ∧
        rulesFile others = .ok other ∧
        ∀ compare,
          Json.Same compare document other ↔
            List.Forall₂ (RuleGroup.SameContent compare)
              (filledGroups results) (filledGroups others) := by
  rw [← groups_eq_filledGroups] at exportable exportableToo ⊢
  rw [← groups_eq_filledGroups]
  exact
    ⟨_, _, RuleSet.fileOf_eq exportable, RuleSet.fileOf_eq exportableToo, fun _ =>
      RuleSet.same_document_iff exportable exportableToo⟩

/-- The labels of an alert, as pairs. -/
def alertLabels : List (String × String) :=
  [("severity", "page"), ("team", "red")]

/-- A generation of one alert, and of a group without rules. -/
def ofAlert (labels : List (String × String)) (minutes : Nat) (unused : String) : Generated where
  slo :=
    { id := "shop-orders", name := "orders", service := "shop", indicator := ⟨none, none⟩
      period := .ofMilliseconds 3600000, objective := .whole 99 }
  rules :=
    { metadata := { name := unused }
      alerts :=
        { name := "alerts"
          interval := some (.ofMilliseconds 60000)
          rules :=
            [{ expression := "up == 0", alert := .text "Down", labels := Labels.ofTexts labels
               hold := some (.ofMilliseconds (minutes * 60000)) }] } }

theorem rulesFile_faithful_of_reordered :
    ∃ document reordered delayed,
      rulesFile [ofAlert alertLabels 5 ""] = .ok document ∧
        rulesFile [ofAlert alertLabels.reverse 5 "unused"] = .ok reordered ∧
        rulesFile [ofAlert alertLabels 10 ""] = .ok delayed ∧
        ∀ compare,
          Json.Same compare document reordered ∧ ¬ Json.Same compare document delayed := by
  have exact {count : Nat} (inPrecision : count ≤ 2 ^ 53) (isPositive : 0 < count) :
      Duration.Exportable (some (.ofMilliseconds count)) := by
    intro given isGiven
    cases isGiven
    refine ⟨⟨count, inPrecision, rfl⟩, ?_⟩
    show (0 : Int) < (count : Int) * 1000
    omega
  have exportable (labels : List (String × String)) (minutes : Nat) (unused : String)
      (inPrecision : minutes * 60000 ≤ 2 ^ 53)
      (isPositive : 0 < minutes * 60000) :
      ∀ group ∈ filledGroups [ofAlert labels minutes unused], group.Exportable := by
    intro group isGroup
    cases List.mem_singleton.mp isGroup
    refine ⟨exact (by decide) (by decide), fun rule isRule => ?_⟩
    cases List.mem_singleton.mp isRule
    exact ⟨rfl, exact inPrecision isPositive⟩
  have sameLabels (compare : Json → Json → Prop) :
      Labels.SameMap compare (Labels.ofTexts alertLabels) (Labels.ofTexts alertLabels.reverse) := by
    intro name
    show Option.Rel _
      (((Entries.empty.put "severity" (Json.text "page")).put "team" (.text "red")).get? name)
      (((Entries.empty.put "team" (Json.text "red")).put "severity" (.text "page")).get? name)
    simp only [Entries.get?_put, Entries.get?_empty]
    by_cases isTeam : name = "team"
    · have apart : name ≠ "severity" := by
        rw [isTeam]
        decide
      rw [if_pos isTeam, if_neg apart, if_pos isTeam]
      exact .some (.text "red")
    · rw [if_neg isTeam, if_neg isTeam]
      split
      · exact .some (.text "page")
      · exact .none
  have ofDocument := exportable alertLabels 5 "" (by decide) (by decide)
  rcases rulesFile_faithful ofDocument
      (exportable alertLabels.reverse 5 "unused" (by decide) (by decide)) with
    ⟨document, reordered, written, reorderedWritten, sameReordered⟩
  rcases rulesFile_faithful ofDocument
      (exportable alertLabels 10 "" (by decide) (by decide)) with
    ⟨_, delayed, writtenToo, delayedWritten, sameDelayed⟩
  cases written.symm.trans writtenToo
  refine ⟨document, reordered, delayed, written, reorderedWritten, delayedWritten, ?_⟩
  intro compare
  rw [sameReordered, sameDelayed]
  constructor
  · refine .cons ⟨rfl, rfl, .cons ⟨rfl, fun _ => .text "Down", rfl, rfl, ?_, ?_⟩ .nil⟩ .nil
    · exact sameLabels compare
    · exact fun _ => .none
  · intro impossible
    have sameGroup := (List.forall₂_cons.mp impossible).1
    have sameRule := (List.forall₂_cons.mp sameGroup.rules).1
    have sameHold := sameRule.hold
    revert sameHold
    decide

end Generated

end ServiceLevel
