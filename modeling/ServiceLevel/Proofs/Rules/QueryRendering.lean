import ServiceLevel.Proofs.Rules.Recording
import ServiceLevel.Proofs.Slo.Accepted

/-!
# Rendering the queries of error ratios

The template of an error ratio puts the queries of an indicator in parentheses.  For bad
and for all events they are joined to one template, which is rendered as a whole and so
may fail although both of its queries can be rendered: exactly if the query of bad events
has an opening pair of braces that only the query of all events closes.  Otherwise the
rendered ratio is the one of the rendered queries.
-/

namespace ServiceLevel.ErrorRatio

open Template

/-! ## The ratio of two queries -/

/-- The ratio of two texts. -/
def ratioChars (error total : List Char) : List Char :=
  '(' :: (error ++ ')' :: '\n' :: '/' :: '\n' :: '(' :: (total ++ ')' :: ['\n']))

theorem toList_ratio (error total : String) :
    ("(" ++ error ++ ")\n/\n(" ++ total ++ ")\n").toList =
      ratioChars error.toList total.toList := by
  have opening : "(".toList = ['('] := by decide
  have between : ")\n/\n(".toList = [')', '\n', '/', '\n', '('] := by decide
  have closing : ")\n".toList = [')', '\n'] := by decide
  simp only [String.toList_append, opening, between, closing, ratioChars,
    List.append_assoc, List.cons_append, List.nil_append]

section Joint

variable {name : String} {value error total : List Char}

theorem not_doubles_lineEnd : ¬ Doubles '\x7d' ['\n'] := by
  rw [doubles_cons_iff]
  simp [Doubles]

/-- What stands behind the first query of a ratio. -/
theorem renders_behind_error
    (isTotal : Renders name total) :
    Renders name
      ('\n' :: '/' :: '\n' :: '(' :: (total ++ ')' :: ['\n'])) := by
  have lineEnd : Renders name ['\n'] :=
    (renders_cons_iff (by decide) (by decide)).mpr renders_nil
  have inParentheses : Renders name ('(' :: (total ++ ')' :: ['\n'])) :=
    isTotal.parenthesized lineEnd fun _ => not_doubles_lineEnd
  iterate 3 rw [renders_cons_iff (by decide) (by decide)]
  exact inParentheses

theorem renders_ratioChars_iff
    (isError : Renders name error)
    (isTotal : Renders name total)
    (closes : Doubles '\x7d' total) :
    Renders name (ratioChars error total) ↔ ¬ Dangling error := by
  constructor
  · intro renders dangling
    have foreign : Foreign ')' := ⟨by decide, by decide, by decide⟩
    have closesBehind :
        Doubles '\x7d'
          ('\n' :: '/' :: '\n' :: '(' :: (total ++ ')' :: ['\n'])) :=
      (closes.append_right [')', '\n']).append_left ['\n', '/', '\n', '(']
    rw [ratioChars, renders_cons_iff (by decide) (by decide)] at renders
    exact
      not_renders_of_dangling foreign (by decide) (by decide) dangling closesBehind
        renders
  · intro settled
    apply isError.parenthesized (renders_behind_error isTotal)
    intro dangling
    exact absurd dangling settled

theorem substitute_split_ratioChars
    (settled : ¬ Dangling error) :
    substitute value (split (ratioChars error total)) =
      ratioChars (substitute value (split error))
        (substitute value (split total)) := by
  have lineEnd : substitute value (split ['\n']) = ['\n'] := by
    rw [substitute_split_cons (by decide), substitute_split_nil]
  rw [ratioChars,
    substitute_split_parenthesized fun dangling => absurd dangling settled]
  iterate 3 rw [substitute_split_cons (by decide)]
  rw [substitute_split_parenthesized fun _ => not_doubles_lineEnd, lineEnd]
  rfl

end Joint

/-! ## Rules of rendered queries -/

theorem plainRule_eq_ok_iff
    {slo : Slo}
    {window : Duration}
    {rule : Rule} :
    plainRule slo window = .ok rule ↔
      ∃ template text expression,
        queryTemplate slo.indicator = .ok template ∧
          window.prometheus = .ok text ∧
          render title (windowData text) template = .ok expression ∧
          windowRule slo window expression = .ok rule := by
  constructor
  · intro made
    rcases Attempt.bind_eq_ok_iff.mp made with ⟨template, isTemplate, afterTemplate⟩
    rcases Attempt.bind_eq_ok_iff.mp afterTemplate with ⟨text, written, afterText⟩
    rcases Attempt.bind_eq_ok_iff.mp afterText with ⟨expression, rendered, recorded⟩
    exact ⟨template, text, expression, isTemplate, written, rendered, recorded⟩
  · rintro ⟨template, text, expression, isTemplate, written, rendered, recorded⟩
    rw [plainRule, isTemplate]
    refine Attempt.bind_eq_ok_iff.mpr ⟨template, rfl, ?_⟩
    refine Attempt.bind_eq_ok_iff.mpr ⟨text, written, ?_⟩
    exact Attempt.bind_eq_ok_iff.mpr ⟨expression, rendered, recorded⟩

theorem exists_windowRule
    {window : Duration}
    {text : String}
    (written : window.prometheus = .ok text)
    (slo : Slo)
    (expression : String) :
    ∃ rule, windowRule slo window expression = .ok rule := by
  have named : Naming.errorRatio window = .ok (Naming.errorRatioMetric ++ text) :=
    Attempt.bind_eq_ok_iff.mpr ⟨text, written, rfl⟩
  rw [windowRule, named, written]
  exact ⟨_, rfl⟩

/-- A window with a text has a rule exactly if the template of the indicator renders. -/
theorem exists_plainRule_iff
    {slo : Slo}
    {window : Duration}
    {template text : String}
    (isTemplate : queryTemplate slo.indicator = .ok template)
    (written : window.prometheus = .ok text) :
    (∃ rule, plainRule slo window = .ok rule) ↔
      Renders Naming.windowVariable template.toList := by
  constructor
  · rintro ⟨rule, made⟩
    rcases plainRule_eq_ok_iff.mp made with ⟨_, _, expression, isOther, _, rendered, _⟩
    rw [isTemplate] at isOther
    cases isOther
    exact (render_eq_ok_iff.mp rendered).1
  · intro renders
    have rendered :
        render title (windowData text) template =
          .ok (String.ofList
            (substitute text.toList (split template.toList))) :=
      render_eq_ok_iff.mpr ⟨renders, String.toList_ofList⟩
    rcases exists_windowRule written slo _ with ⟨rule, recorded⟩
    exact
      ⟨rule, plainRule_eq_ok_iff.mpr
        ⟨template, text, _, isTemplate, written, rendered, recorded⟩⟩

theorem expression_of_plainRule
    {slo : Slo}
    {window : Duration}
    {rule : Rule}
    (made : plainRule slo window = .ok rule) :
    ∃ template text,
      queryTemplate slo.indicator = .ok template ∧
        window.prometheus = .ok text ∧
        Renders Naming.windowVariable template.toList ∧
        rule.expression.toList =
          substitute text.toList (split template.toList) := by
  rcases plainRule_eq_ok_iff.mp made with
    ⟨template, text, expression, isTemplate, written, rendered, recorded⟩
  rcases render_eq_ok_iff.mp rendered with ⟨renders, same⟩
  rw [(windowRule_eq_ok recorded).2]
  exact ⟨template, text, isTemplate, written, renders, same⟩

/-! ## Rules of sound queries -/

section Sound

variable {slo : Slo} {events : EventQueries} {window : Duration}

theorem queryTemplate_of_events
    (isEvents : slo.indicator = ⟨none, some events⟩) :
    queryTemplate slo.indicator =
      .ok ("(" ++ events.error ++ ")\n/\n(" ++ events.total ++ ")\n") := by
  rw [isEvents]
  rfl

theorem queryTemplate_of_raw
    {query : String}
    (isRaw : slo.indicator = ⟨some query, none⟩) :
    ∃ template,
      queryTemplate slo.indicator = .ok template ∧
        template.toList = '(' :: (query.toList ++ [')']) := by
  rw [isRaw]
  refine ⟨_, rfl, ?_⟩
  have opening : "(".toList = ['('] := by decide
  have closing : ")".toList = [')'] := by decide
  simp only [String.toList_append, opening, closing, List.cons_append,
    List.nil_append]

theorem exists_plainRule_of_raw
    {query text : String}
    (isRaw : slo.indicator = ⟨some query, none⟩)
    (sound : Slo.SoundQuery query)
    (written : window.prometheus = .ok text) :
    ∃ rule, plainRule slo window = .ok rule := by
  rcases queryTemplate_of_raw isRaw with ⟨template, isTemplate, chars⟩
  have unclosed : ¬ Doubles '\x7d' [] := by decide
  apply (exists_plainRule_iff isTemplate written).mpr
  rw [chars]
  exact sound.renders.parenthesized renders_nil fun _ => unclosed

theorem expression_of_raw
    {query : String}
    {rule : Rule}
    (isRaw : slo.indicator = ⟨some query, none⟩)
    (made : plainRule slo window = .ok rule) :
    ∃ text,
      window.prometheus = .ok text ∧
        rule.expression.toList =
          '(' :: (substitute text.toList (split query.toList) ++ [')']) := by
  have unclosed : ¬ Doubles '\x7d' [] := by decide
  rcases queryTemplate_of_raw isRaw with ⟨template, isTemplate, chars⟩
  rcases expression_of_plainRule made with ⟨_, text, isOther, written, _, same⟩
  rw [isTemplate] at isOther
  cases isOther
  rw [chars, substitute_split_parenthesized fun _ => unclosed,
    substitute_split_nil] at same
  exact ⟨text, written, same⟩

/-- The ratio of two sound queries renders unless a brace of the first is left open. -/
theorem exists_plainRule_iff_of_events
    {text : String}
    (isEvents : slo.indicator = ⟨none, some events⟩)
    (error : Slo.SoundQuery events.error)
    (total : Slo.SoundQuery events.total)
    (written : window.prometheus = .ok text) :
    (∃ rule, plainRule slo window = .ok rule) ↔
      ¬ Dangling events.error.toList := by
  rw [exists_plainRule_iff (queryTemplate_of_events isEvents) written,
    toList_ratio]
  exact renders_ratioChars_iff error.renders total.renders total.closes

/-- If the ratio of two sound queries renders, then as the ratio of what they render as. -/
theorem expression_of_events
    {rule : Rule}
    (isEvents : slo.indicator = ⟨none, some events⟩)
    (error : Slo.SoundQuery events.error)
    (total : Slo.SoundQuery events.total)
    (made : plainRule slo window = .ok rule) :
    ∃ text,
      window.prometheus = .ok text ∧
        rule.expression.toList =
          ratioChars (substitute text.toList (split events.error.toList))
            (substitute text.toList (split events.total.toList)) := by
  rcases expression_of_plainRule made with
    ⟨template, text, isTemplate, written, renders, same⟩
  rw [queryTemplate_of_events isEvents] at isTemplate
  cases isTemplate
  rw [toList_ratio] at renders same
  have settled : ¬ Dangling events.error.toList :=
    (renders_ratioChars_iff error.renders total.renders total.closes).mp renders
  rw [substitute_split_ratioChars settled] at same
  exact ⟨text, written, same⟩

end Sound

end ServiceLevel.ErrorRatio
