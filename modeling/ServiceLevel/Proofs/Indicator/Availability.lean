import ServiceLevel.Indicator.Query
import ServiceLevel.Proofs.Query.Grammar
import ServiceLevel.Proofs.Slo.Accepted
import ServiceLevel.Proofs.Template.Joining

/-!
# Usable availability queries

The query of the availability of requests has a job and further matchers put into it as they are.
It always names the window.  It renders exactly if the job and the matchers do, each on its own and
with no brace left open, and then it is the query of what they render as.  Whether its brackets and
strings end is not settled by the plugin: the guard of a filter finds one matcher somewhere in it
and looks at nothing else, and the job is not looked at.  Matchers that are well structured and a
job that ends no string are enough.
-/

namespace ServiceLevel

open Template Query

namespace Availability

/-! ## The guard of a filter -/

/-- A text with a matcher somewhere in it: a name, an equals sign, a quoted value and a comma. -/
def HasMatcher (text : List Char) : Prop :=
  ∃ front c value behind,
    text = front ++ c :: '=' :: '"' :: (value ++ '"' :: ',' :: behind) ∧
      c ≠ '=' ∧ value ≠ [] ∧ ∀ v ∈ value, v ≠ '=' ∧ v ≠ ',' ∧ v ≠ '"'

theorem isValueChar_iff {c : Char} : isValueChar c ↔ c ≠ '=' ∧ c ≠ ',' ∧ c ≠ '"' := by
  simp [isValueChar, and_assoc]

theorem beginsWithValue_iff {text : List Char} :
    beginsWithValue text ↔
      ∃ value behind,
        text = '=' :: '"' :: (value ++ '"' :: ',' :: behind) ∧
          value ≠ [] ∧ ∀ v ∈ value, v ≠ '=' ∧ v ≠ ',' ∧ v ≠ '"' := by
  constructor
  · intro begins
    unfold beginsWithValue at begins
    split at begins
    · rename_i rest
      rw [Bool.and_eq_true, List.isPrefixOf_iff_prefix] at begins
      rcases begins with ⟨nonempty, behind, ends⟩
      refine ⟨rest.takeWhile isValueChar, behind, ?_, ?_, ?_⟩
      · have parts := List.takeWhile_append_dropWhile (p := isValueChar) (l := rest)
        rw [← ends] at parts
        exact congrArg (fun inner => '=' :: '"' :: inner) parts.symm
      · simpa using nonempty
      · intro v member
        exact isValueChar_iff.mp (List.mem_takeWhile_imp member)
    · cases begins
  · rintro ⟨value, behind, rfl, nonempty, areValue⟩
    have passes : ∀ v ∈ value, isValueChar v := fun v member =>
      isValueChar_iff.mpr (areValue v member)
    have ends : isValueChar '"' = false := by decide
    rw [beginsWithValue, List.takeWhile_append_of_pos passes,
      List.dropWhile_append_of_pos passes, List.takeWhile_cons_of_neg (by simp [ends]),
      List.dropWhile_cons_of_neg (by simp [ends]), List.append_nil, Bool.and_eq_true,
      List.isPrefixOf_iff_prefix]
    refine ⟨?_, behind, rfl⟩
    rw [List.isEmpty_eq_false_iff.mpr nonempty, Bool.not_false]

/-- The guard looks for one matcher and accepts whatever stands around it. -/
theorem holdsMatcher_iff {text : List Char} : holdsMatcher text ↔ HasMatcher text := by
  induction text with
  | nil =>
      refine iff_of_false Bool.false_ne_true ?_
      rintro ⟨front, c, value, behind, impossible, _⟩
      simp at impossible
  | cons c rest ih =>
      rw [holdsMatcher, Bool.or_eq_true, Bool.and_eq_true, decide_eq_true_eq, ih,
        beginsWithValue_iff]
      constructor
      · rintro
          (⟨notEquals, value, behind, rfl, nonempty, areValue⟩ |
            ⟨front, first, value, behind, rfl, others⟩)
        · exact ⟨[], c, value, behind, rfl, notEquals, nonempty, areValue⟩
        · exact ⟨c :: front, first, value, behind, rfl, others⟩
      · rintro ⟨front, first, value, behind, parts, notEquals, nonempty, areValue⟩
        cases front with
        | nil =>
            cases parts
            exact Or.inl ⟨notEquals, value, behind, rfl, nonempty, areValue⟩
        | cons _ others =>
            cases parts
            exact Or.inr ⟨others, first, value, behind, rfl, notEquals, nonempty, areValue⟩

/-- A filter is empty, or has a matcher somewhere between the characters at its ends. -/
theorem matchers_eq_ok_iff
    {filter matchers : String} :
    Availability.matchers filter = .ok matchers ↔
      (filter = "" ∧ matchers = "") ∨
        filter ≠ "" ∧
          matchers.toList = strip [','] (strip ['\x7b', '\x7d'] filter.toList) ++ [','] ∧
          HasMatcher matchers.toList := by
  rw [Availability.matchers]
  by_cases isEmpty : filter = ""
  · rw [if_pos (String.isEmpty_iff.mpr isEmpty), Except.ok.injEq, eq_comm]
    simp [isEmpty]
  · have apart : ¬ filter.isEmpty = true := mt String.isEmpty_iff.mp isEmpty
    simp only [if_neg apart, holdsMatcher_iff.symm, isEmpty, false_and, false_or, ne_eq,
      not_false_iff, true_and]
    constructor
    · intro made
      split at made
      · rename_i guarded
        rw [← Except.ok.inj made, String.toList_ofList]
        exact ⟨rfl, guarded⟩
      · cases made
    · rintro ⟨same, guarded⟩
      rw [same] at guarded
      rw [if_pos guarded, ← same, String.ofList_toList]

/-- The value of a filter gives nothing, text with a matcher, or what it is shown as. -/
theorem guarded_of_matchersOf
    {filter : Json}
    {matchers : String}
    (made : matchersOf filter = .ok matchers) :
    matchers = "" ∨ HasMatcher matchers.toList ∨
      filter.isGiven = false ∧ matchers = filter.display := by
  unfold matchersOf at made
  split_ifs at made with isNothing
  · rw [Bool.not_eq_true'] at isNothing
    exact Or.inr (Or.inr ⟨isNothing, (Except.ok.inj made).symm⟩)
  · split at made
    · rcases matchers_eq_ok_iff.mp made with ⟨_, isEmpty⟩ | ⟨_, _, found⟩
      · exact Or.inl isEmpty
      · exact Or.inr (Or.inl found)
    · cases made

/-! ## The query as pieces -/

/-- What a rate begins with. -/
def opening : String :=
  "sum(rate(http_request_duration_seconds_count\x7b"

/-- What a rate over a window ends with. -/
def ending (window : String) : String :=
  " \x7d[" ++ window ++ "]))"

/-- The rate of the requests of a job over a window given as text. -/
def rateOver (window matchers job further : String) : String :=
  opening ++ " " ++ matchers ++ "job=\"" ++ job ++ "\"" ++ further ++ ending window

/-- The matcher of the answers that count as failed. -/
def failed : String :=
  ",code=~\"(5..|429)\""

/-- The share of failed requests over a window given as text. -/
def queryOver (window matchers job : String) : String :=
  "\n" ++ rateOver window matchers job failed ++ "\n/\n" ++ rateOver window matchers job ""

/-- What stands between the first job and the second matchers. -/
def between (window : String) : String :=
  failed ++ ending window ++ "\n/\n" ++ opening

/-- The pieces of the query in front of the last one. -/
def pieces (window : String) (matchers job : List Char) : List (List Char × Char) :=
  [('\n' :: opening.toList, ' '), (matchers, 'j'), ("ob=".toList, '"'), (job, '"'),
    ((between window).toList, ' '), (matchers, 'j'), ("ob=".toList, '"'), (job, '"')]

theorem toList_rateOver (window matchers job further : String) (behind : List Char) :
    (rateOver window matchers job further).toList ++ behind =
      joined [(opening.toList, ' '), (matchers.toList, 'j'), ("ob=".toList, '"'), (job.toList, '"')]
        (further.toList ++ ((ending window).toList ++ behind)) := by
  have blank : " ".toList = [' '] := by decide
  have named : "job=\"".toList = 'j' :: ("ob=".toList ++ ['"']) := by decide
  have quote : "\"".toList = ['"'] := by decide
  rw [rateOver]
  simp only [joined, blank, named, quote, String.toList_append, List.append_assoc,
    List.cons_append, List.nil_append]

theorem toList_queryOver (window matchers job : String) :
    (queryOver window matchers job).toList =
      joined (pieces window matchers.toList job.toList) (ending window).toList := by
  have first := toList_rateOver window matchers job failed
    ("\n/\n".toList ++ (rateOver window matchers job "").toList)
  have second := toList_rateOver window matchers job "" []
  have lineEnd : "\n".toList = ['\n'] := by decide
  simp only [String.toList_empty, List.nil_append, List.append_nil] at second
  simp only [second, joined] at first
  rw [queryOver, pieces, between]
  simp only [String.toList_append, List.append_assoc, lineEnd, List.cons_append, List.nil_append,
    second, joined]
  exact congrArg (List.cons '\n') first

/-! ## Rendering -/

/-- The window as a query names it. -/
def placeholder : String :=
  "\x7b\x7b.window\x7d\x7d"

theorem requestRate_eq (matchers job further : String) :
    requestRate matchers job further = rateOver placeholder matchers job further := by
  have isOpening :
      "sum(rate(http_request_duration_seconds_count\x7b " = opening ++ " " := by
    decide +kernel
  have isEnding :
      " \x7d[\x7b\x7b.window\x7d\x7d]))" = ending placeholder := by
    decide +kernel
  exact
    congrArg₂
      (fun first last =>
        first ++ matchers ++ "job=\"" ++ job ++ "\"" ++ further ++ last)
      isOpening isEnding

theorem queryText_eq (matchers job : String) :
    queryText matchers job = queryOver placeholder matchers job := by
  rw [queryText, requestRate_eq, requestRate_eq]
  rfl

section Literals

variable {value : List Char}

theorem opening?_opening : opening? ('\n' :: opening.toList) = none := by
  decide +kernel

theorem opening?_between :
    opening? (between placeholder).toList =
      some
        ((failed ++ " \x7d[").toList, '.' :: Naming.windowVariable.toList,
          ("]))" ++ "\n/\n" ++ opening).toList) := by
  decide +kernel

theorem opening?_ending :
    opening? (ending placeholder).toList =
      some (" \x7d[".toList, '.' :: Naming.windowVariable.toList, "]))".toList) := by
  decide +kernel

theorem variableName?_window :
    variableName? ('.' :: Naming.windowVariable.toList) = some Naming.windowVariable := by
  decide +kernel

/-- All that the plugin puts around matchers and job renders. -/
theorem renders_literals :
    Renders Naming.windowVariable ('\n' :: opening.toList) ∧
      Renders Naming.windowVariable "ob=".toList ∧
      Renders Naming.windowVariable (between placeholder).toList ∧
      Renders Naming.windowVariable (ending placeholder).toList :=
  ⟨renders_of_none opening?_opening (by decide), renders_of_none rfl (by decide),
    renders_of_single opening?_between (by decide) variableName?_window
      (by decide),
    renders_of_single opening?_ending (by decide) variableName?_window
      (by decide)⟩

theorem substitute_between (window : String) :
    substitute window.toList (split (between placeholder).toList) = (between window).toList := by
  rw [substitute_of_single opening?_between (by decide)]
  simp only [between, ending, String.toList_append, List.append_assoc]

theorem substitute_ending (window : String) :
    substitute window.toList (split (ending placeholder).toList) = (ending window).toList := by
  rw [substitute_of_single opening?_ending (by decide)]
  simp only [ending, String.toList_append, List.append_assoc]

end Literals

section Pieces

variable {matchers job : List Char}

theorem areSettled_pieces
    (matchersSettled : ¬ Dangling matchers)
    (jobSettled : ¬ Dangling job) :
    AreSettled (pieces placeholder matchers job) := by
  have isOpening : ¬ Dangling ('\n' :: opening.toList) := by decide
  have isName : ¬ Dangling "ob=".toList := by decide
  have isBetween : ¬ Dangling (between placeholder).toList := by
    rw [dangling_iff_of_opening? opening?_between]
    decide
  have blank : ' ' ≠ '\x7b' ∧ ' ' ≠ '\x7d' := by decide
  have letter : 'j' ≠ '\x7b' ∧ 'j' ≠ '\x7d' := by decide
  have quote : '"' ≠ '\x7b' ∧ '"' ≠ '\x7d' := by decide
  simp only [AreSettled, pieces, List.forall_mem_cons]
  refine
    ⟨⟨isOpening, blank⟩, ⟨matchersSettled, letter⟩, ⟨isName, quote⟩, ⟨jobSettled, quote⟩,
      ⟨isBetween, blank⟩, ⟨matchersSettled, letter⟩, ⟨isName, quote⟩, ⟨jobSettled, quote⟩, ?_⟩
  intro part impossible
  cases impossible

/-- An action that a quotation mark stands in has no value, and so the first text closes its own. -/
theorem not_dangling_of_renders
    {name : String}
    {front behind : List Char}
    (closes : Doubles '\x7d' behind)
    (renders : Renders name (front ++ '"' :: behind)) :
    ¬ Dangling front := by
  intro dangling
  have foreign : Foreign '"' := ⟨by decide, by decide, by decide⟩
  exact not_renders_of_dangling foreign (by decide) (by decide) dangling closes renders

/-- The placeholders behind them close every brace that matchers or job leave open. -/
theorem settled_of_renders
    {last : List Char}
    (renders :
      Renders Naming.windowVariable (joined (pieces placeholder matchers job) last)) :
    ¬ Dangling matchers ∧ ¬ Dangling job := by
  let others : List (List Char × Char) :=
    [((between placeholder).toList, ' '), (matchers, 'j'), ("ob=".toList, '"'), (job, '"')]
  have closesBetween : Doubles '\x7d' (between placeholder).toList := by decide
  have closes : Doubles '\x7d' (joined others last) := closesBetween.append_right _
  have nameCloses : ¬ Doubles '\x7d' "ob=".toList := by decide
  constructor
  · intro dangling
    have parts :
        joined (pieces placeholder matchers job) last =
          ('\n' :: opening.toList ++ ' ' :: (matchers ++ 'j' :: "ob=".toList)) ++
            '"' :: (job ++ '"' :: joined others last) := by
      simp only [pieces, others, joined, List.append_assoc, List.cons_append]
    rw [parts] at renders
    refine not_dangling_of_renders ((closes.append_left ['"']).append_left job) renders ?_
    rw [dangling_append_iff (by decide) (by decide), dangling_append_iff (by decide) (by decide)]
    exact Or.inl (Or.inr ⟨dangling, nameCloses⟩)
  · intro dangling
    have parts :
        joined (pieces placeholder matchers job) last =
          ('\n' :: opening.toList ++ ' ' :: (matchers ++ 'j' :: ("ob=".toList ++ '"' :: job))) ++
            '"' :: joined others last := by
      simp only [pieces, others, joined, List.append_assoc, List.cons_append]
    rw [parts] at renders
    refine not_dangling_of_renders closes renders ?_
    rw [dangling_append_iff (by decide) (by decide), dangling_append_iff (by decide) (by decide),
      dangling_append_iff (by decide) (by decide)]
    exact Or.inl (Or.inl (Or.inl dangling))

theorem renders_pieces_iff :
    Renders Naming.windowVariable
        (joined (pieces placeholder matchers job) (ending placeholder).toList) ↔
      (¬ Dangling matchers ∧ ¬ Dangling job) ∧
        Renders Naming.windowVariable matchers ∧ Renders Naming.windowVariable job := by
  rcases renders_literals with ⟨isOpening, isName, isBetween, isEnding⟩
  have endingSettled : ¬ Dangling (ending placeholder).toList := by decide
  have none : ∀ part ∈ ([] : List (List Char × Char)), Renders Naming.windowVariable part.1 := by
    intro part impossible
    cases impossible
  constructor
  · intro renders
    have settled := settled_of_renders renders
    rw [renders_joined_iff (areSettled_pieces settled.1 settled.2) endingSettled, pieces] at renders
    simp only [List.forall_mem_cons] at renders
    exact ⟨settled, renders.1.2.1, renders.1.2.2.2.1⟩
  · rintro ⟨settled, isMatchers, isJob⟩
    rw [renders_joined_iff (areSettled_pieces settled.1 settled.2) endingSettled, pieces]
    simp only [List.forall_mem_cons]
    exact
      ⟨⟨isOpening, isMatchers, isName, isJob, isBetween, isMatchers, isName, isJob, none⟩,
        isEnding⟩

theorem substitute_pieces
    (matchersSettled : ¬ Dangling matchers)
    (jobSettled : ¬ Dangling job)
    (window : String) :
    substitute window.toList
        (split (joined (pieces placeholder matchers job) (ending placeholder).toList)) =
      joined
        (pieces window (substitute window.toList (split matchers))
          (substitute window.toList (split job)))
        (ending window).toList := by
  have isName : substitute window.toList (split "ob=".toList) = "ob=".toList :=
    substitute_of_none rfl
  rw [substitute_joined (areSettled_pieces matchersSettled jobSettled), substitute_ending]
  simp only [pieces, List.map_cons, List.map_nil, substitute_between, isName,
    substitute_of_none opening?_opening]

end Pieces

/-- The query renders piece by piece, unless a piece leaves a brace open. -/
theorem render_queryText_eq_ok_iff
    {title window matchers job expression : String} :
    render title (oneValue Naming.windowVariable window) (queryText matchers job) =
        .ok expression ↔
      (¬ Dangling matchers.toList ∧ ¬ Dangling job.toList) ∧
        ∃ shownMatchers shownJob,
          render title (oneValue Naming.windowVariable window) matchers = .ok shownMatchers ∧
            render title (oneValue Naming.windowVariable window) job = .ok shownJob ∧
            expression = queryOver window shownMatchers shownJob := by
  rw [render_eq_ok_iff, queryText_eq, toList_queryOver, renders_pieces_iff]
  constructor
  · rintro ⟨⟨settled, isMatchers, isJob⟩, same⟩
    refine
      ⟨settled, String.ofList (substitute window.toList (split matchers.toList)),
        String.ofList (substitute window.toList (split job.toList)),
        render_eq_ok_iff.mpr ⟨isMatchers, String.toList_ofList⟩,
        render_eq_ok_iff.mpr ⟨isJob, String.toList_ofList⟩, ?_⟩
    rw [← String.toList_inj, same, substitute_pieces settled.1 settled.2, toList_queryOver,
      String.toList_ofList, String.toList_ofList]
  · rintro ⟨settled, shownMatchers, shownJob, isMatchers, isJob, rfl⟩
    rcases render_eq_ok_iff.mp isMatchers with ⟨rendersMatchers, sameMatchers⟩
    rcases render_eq_ok_iff.mp isJob with ⟨rendersJob, sameJob⟩
    refine ⟨⟨settled, rendersMatchers, rendersJob⟩, ?_⟩
    rw [substitute_pieces settled.1 settled.2, toList_queryOver, sameMatchers, sameJob]

/-! ## The structure of the query -/

/-- A text without quotation marks and backslashes ends no string. -/
theorem stringBody_of_notMem
    {quote : Char}
    {text : List Char}
    (noQuote : quote ∉ text)
    (noBackslash : '\\' ∉ text) :
    StringBody quote text := by
  induction text with
  | nil => exact .nil
  | cons c rest ih =>
      rw [List.mem_cons, not_or] at noQuote noBackslash
      exact .char (Ne.symm noBackslash.1) (Ne.symm noQuote.1) (ih noQuote.2 noBackslash.2)

theorem closed_rateOver
    {matchers job further : String}
    (isMatchers : Closed matchers.toList)
    (isJob : StringBody '"' job.toList)
    (isFurther : Closed further.toList) :
    Closed (rateOver "1m" matchers job further).toList := by
  have opens : Leads [] ['\x7b', '(', '('] (opening ++ " ").toList := by decide
  have closes : Leads ['\x7b', '(', '('] [] (ending "1m").toList := by decide
  have named : Closed ("job=\"" ++ job ++ "\"").toList := by
    have isName : Closed "job=".toList := by decide
    have begins : "job=\"".toList = "job=".toList ++ ['"'] := by decide
    have quote : "\"".toList = ['"'] := by decide
    rw [String.toList_append, String.toList_append, begins, quote, List.append_assoc,
      List.append_assoc]
    exact isName.append (closed_quoted (by decide) isJob)
  have inside :
      Closed (matchers ++ ("job=\"" ++ job ++ "\"") ++ further).toList :=
    (isMatchers.append_text named).append_text isFurther
  have parts :
      rateOver "1m" matchers job further =
        (opening ++ " ") ++ (matchers ++ ("job=\"" ++ job ++ "\"") ++ further) ++
          ending "1m" := by
    simp only [rateOver, String.append_assoc]
  rw [parts]
  exact (opens.append_text (inside.within _)).append_text closes

theorem closed_queryOver
    {matchers job : String}
    (isMatchers : Closed matchers.toList)
    (isJob : StringBody '"' job.toList) :
    Closed (queryOver "1m" matchers job).toList := by
  have lineEnd : Closed "\n".toList := by decide
  have isFailed : Closed failed.toList := by decide
  have division : Closed "\n/\n".toList := by decide
  have nothing : Closed "".toList := by decide
  rw [queryOver]
  exact
    ((lineEnd.append_text (closed_rateOver isMatchers isJob isFailed)).append_text
      division).append_text (closed_rateOver isMatchers isJob nothing)

/-! ## The check of the query -/

/-- A text that renders with the sample window and leaves no brace open. -/
structure ShownAs (text shown : String) : Prop where
  settled : ¬ Dangling text.toList
  rendered : render "query" Dialect.sampleWindow text = .ok shown

theorem mentionsWindow_append
    {text : List Char}
    (mentions : Slo.mentionsWindow text)
    (front : List Char) :
    Slo.mentionsWindow (front ++ text) := by
  induction front with
  | nil => exact mentions
  | cons c rest ih =>
      rw [List.cons_append]
      by_cases isBrace : c = '\x7b'
      · rw [isBrace]
        unfold Slo.mentionsWindow
        exact Bool.or_eq_true_iff.mpr (Or.inr ih)
      · rw [Slo.mentionsWindow.eq_3 c _ isBrace]
        exact ih

/-- Whatever matchers and job are, the query ends with a reference to the window. -/
theorem mentionsWindow_queryText (matchers job : String) :
    Slo.mentionsWindow (queryText matchers job).toList := by
  have atEnd : Slo.mentionsWindow (ending placeholder).toList := by decide
  have parts :
      queryText matchers job =
        ("\n" ++ rateOver placeholder matchers job failed ++ "\n/\n" ++
          (opening ++ " " ++ matchers ++ "job=\"" ++ job ++ "\"" ++ "")) ++
          ending placeholder := by
    rw [queryText_eq, queryOver]
    simp only [rateOver, String.append_assoc]
  rw [parts, String.toList_append]
  exact mentionsWindow_append atEnd _

theorem trim_queryOver_ne_nil (window matchers job : String) :
    (Text.trim (queryOver window matchers job).toList).isEmpty = false := by
  have member : 's' ∈ (queryOver window matchers job).toList := by
    rw [toList_queryOver]
    exact List.mem_append_left _ (by decide)
  rw [List.isEmpty_eq_false_iff]
  exact List.ne_nil_of_mem (mem_trim (by decide) member)

/-- The query is accepted if it renders piece by piece, as a sentence of the grammar of queries. -/
theorem checkQueryTemplate_queryText_iff {matchers job : String} :
    Slo.checkQueryTemplate .metricsql (queryText matchers job) = .ok () ↔
      ∃ shownMatchers shownJob,
        ShownAs matchers shownMatchers ∧
          ShownAs job shownJob ∧
          Sentence (queryOver "1m" shownMatchers shownJob).toList := by
  have mentions := mentionsWindow_queryText matchers job
  have nonempty : (queryText matchers job).isEmpty = false := by
    cases isEmpty : (queryText matchers job).isEmpty with
    | false => rfl
    | true =>
        rw [String.isEmpty_iff.mp isEmpty] at mentions
        cases mentions
  rw [Slo.checkQueryTemplate_eq_ok_iff, Slo.checkQuery_eq_ok_iff]
  constructor
  · rintro ⟨_, _, expression, rendered, _, isStructured, _⟩
    rcases render_queryText_eq_ok_iff.mp rendered with
      ⟨settled, shownMatchers, shownJob, isMatchers, isJob, rfl⟩
    exact
      ⟨shownMatchers, shownJob, ⟨settled.1, isMatchers⟩, ⟨settled.2, isJob⟩,
        (checkStructure_eq_ok_iff_sentence _).mp isStructured⟩
  · rintro ⟨shownMatchers, shownJob, isMatchers, isJob, sentence⟩
    refine
      ⟨nonempty, mentions, _, ?_, trim_queryOver_ne_nil _ _ _,
        (checkStructure_eq_ok_iff_sentence _).mpr sentence, rfl⟩
    exact
      render_queryText_eq_ok_iff.mpr
        ⟨⟨isMatchers.settled, isJob.settled⟩, shownMatchers, shownJob, isMatchers.rendered,
          isJob.rendered, rfl⟩

end Availability

namespace IndicatorPlugin

open Availability

/-- A query of the availability is made of a job and of the matchers of a filter. -/
theorem exists_of_query_eq_ok
    {service slo : String}
    {objective : Quantity}
    {labels options : Labels}
    {content : String}
    {event : LogEvent}
    (made : availability.query service slo objective labels options = .ok (content, event)) :
    ∃ job matchers,
      options.get? "job" = some job ∧
        Availability.matchersOf ((options.get? "filter").getD (.text "")) = .ok matchers ∧
        content = queryText matchers job.display := by
  rcases Attempt.bind_eq_ok_iff.mp made with ⟨about, _, called⟩
  have isQuery : Availability.query labels options = .ok content := by
    simp only [call] at called
    cases asked : Availability.query labels options with
    | error failure =>
        rw [asked] at called
        cases called
    | ok text =>
        rw [asked] at called
        change (if text.isEmpty then _ else _) = _ at called
        split at called
        · cases called
        · cases called
          rfl
  rw [Availability.query] at isQuery
  split at isQuery
  · rename_i job given
    rcases Attempt.check_eq_ok_iff.mp isQuery with ⟨_, afterLabels⟩
    rcases Attempt.bind_eq_ok_iff.mp afterLabels with ⟨matchers, areMatchers, same⟩
    cases same
    exact ⟨job, matchers, (Option.filter_eq_some_iff.mp given).1, areMatchers, rfl⟩
  · cases isQuery

/--
When the query of the availability can be used.  It is put together from the job and the matchers
of the filter, which the guard lets through if it finds one matcher anywhere in them; a filter
that counts as nothing is not looked at.  It always refers to the window.  The check of queries
accepts it exactly if matchers and job render, each with no brace left open, and the query of
what they render as is a sentence of the grammar of brackets and strings.  Matchers that are a
sentence and a job that ends no string are enough.
-/
theorem query_accepted_iff
    {service slo : String}
    {objective : Quantity}
    {labels options : Labels}
    {content : String}
    {event : LogEvent}
    (made : availability.query service slo objective labels options = .ok (content, event)) :
    ∃ job matchers,
      options.get? "job" = some job ∧
        Availability.matchersOf ((options.get? "filter").getD (.text "")) = .ok matchers ∧
        (matchers = "" ∨ HasMatcher matchers.toList ∨
          ∃ filter,
            options.get? "filter" = some filter ∧
              filter.isGiven = false ∧ matchers = filter.display) ∧
        content = queryText matchers job.display ∧
        Slo.mentionsWindow content.toList ∧
        (Slo.checkQueryTemplate .metricsql content = .ok () ↔
          ∃ shownMatchers shownJob,
            ShownAs matchers shownMatchers ∧
              ShownAs job.display shownJob ∧
              Sentence (queryOver "1m" shownMatchers shownJob).toList) ∧
        ∀ shownMatchers shownJob,
          ShownAs matchers shownMatchers →
            ShownAs job.display shownJob →
              Sentence shownMatchers.toList →
                StringBody '"' shownJob.toList →
                  Slo.checkQueryTemplate .metricsql content = .ok () := by
  rcases exists_of_query_eq_ok made with ⟨job, matchers, isJob, areMatchers, rfl⟩
  have guarded :
      matchers = "" ∨ HasMatcher matchers.toList ∨
        ∃ filter,
          options.get? "filter" = some filter ∧
            filter.isGiven = false ∧ matchers = filter.display := by
    rcases guarded_of_matchersOf areMatchers with isEmpty | found | ⟨notGiven, shown⟩
    · exact Or.inl isEmpty
    · exact Or.inr (Or.inl found)
    · cases given : options.get? "filter" with
      | none =>
          rw [given] at shown
          exact Or.inl shown
      | some filter =>
          rw [given] at notGiven shown
          exact Or.inr (Or.inr ⟨filter, rfl, notGiven, shown⟩)
  refine
    ⟨job, matchers, isJob, areMatchers, guarded, rfl, mentionsWindow_queryText _ _,
      checkQueryTemplate_queryText_iff, ?_⟩
  intro shownMatchers shownJob matchersShown jobShown sentence inString
  apply checkQueryTemplate_queryText_iff.mpr
  exact
    ⟨shownMatchers, shownJob, matchersShown, jobShown,
      (closed_queryOver sentence.closed inString).sentence⟩

/-- The labels of a team, and the options of a job with a filter. -/
def teamLabels : Labels :=
  Labels.ofTexts [("owner", "team"), ("tier", "2")]

def filterOptions (filter : String) : Labels :=
  Labels.ofTexts [("job", "api"), ("filter", filter)]

/-- A filter in braces is used; one with a bracket in front of a matcher is let through as well. -/
theorem query_accepted_iff_of_filters :
    (∃ content event,
      availability.query "shop" "orders" (.whole 99) teamLabels
            (filterOptions "\x7benv=\"prod\"\x7d") =
          .ok (content, event) ∧
        Slo.checkQueryTemplate .metricsql content = .ok ()) ∧
      ∃ content event,
        availability.query "shop" "orders" (.whole 99) teamLabels
              (filterOptions "x=(,a=\"b\"") =
            .ok (content, event) ∧
          Slo.mentionsWindow content.toList ∧
          Slo.checkQueryTemplate .metricsql content ≠ .ok () := by
  have used :
      (availability.query "shop" "orders" (.whole 99) teamLabels
        (filterOptions "\x7benv=\"prod\"\x7d")).isOk := by
    decide +kernel
  have letThrough :
      (availability.query "shop" "orders" (.whole 99) teamLabels
        (filterOptions "x=(,a=\"b\"")).isOk := by
    decide +kernel
  have jobShown : ShownAs "api" "api" := ⟨by decide, by decide +kernel⟩
  rcases Attempt.exists_of_isOk used with ⟨⟨content, event⟩, made⟩
  rcases Attempt.exists_of_isOk letThrough with ⟨⟨other, otherEvent⟩, otherMade⟩
  constructor
  · rcases query_accepted_iff made with ⟨job, matchers, isJob, areMatchers, _, _, _, _, enough⟩
    have given :
        (filterOptions "\x7benv=\"prod\"\x7d").get? "job" = some (.text "api") := by
      decide
    have stripped :
        Availability.matchersOf
            (((filterOptions "\x7benv=\"prod\"\x7d").get? "filter").getD (.text "")) =
          .ok "env=\"prod\"," := by
      decide +kernel
    rw [given] at isJob
    rw [stripped] at areMatchers
    cases isJob
    cases areMatchers
    have matchersShown : ShownAs "env=\"prod\"," "env=\"prod\"," :=
      ⟨by decide, by decide +kernel⟩
    have inString : StringBody '"' "api".toList :=
      stringBody_of_notMem (by decide) (by decide)
    exact ⟨content, event, made, enough _ _ matchersShown jobShown (by decide) inString⟩
  · rcases query_accepted_iff otherMade with
      ⟨job, matchers, isJob, areMatchers, _, _, mentions, accepted, _⟩
    have given :
        (filterOptions "x=(,a=\"b\"").get? "job" = some (.text "api") := by
      decide
    have stripped :
        Availability.matchersOf
            (((filterOptions "x=(,a=\"b\"").get? "filter").getD (.text "")) =
          .ok "x=(,a=\"b\"," := by
      decide +kernel
    rw [given] at isJob
    rw [stripped] at areMatchers
    cases isJob
    cases areMatchers
    have matchersShown : ShownAs "x=(,a=\"b\"," "x=(,a=\"b\"," :=
      ⟨by decide, by decide +kernel⟩
    refine ⟨other, otherEvent, otherMade, mentions, ?_⟩
    intro isAccepted
    rcases accepted.mp isAccepted with
      ⟨shownMatchers, shownJob, otherMatchers, otherJob, sentence⟩
    cases matchersShown.rendered.symm.trans otherMatchers.rendered
    cases jobShown.rendered.symm.trans otherJob.rendered
    have notSentence : ¬ Sentence (queryOver "1m" "x=(,a=\"b\"," "api").toList := by
      decide +kernel
    exact notSentence sentence

end IndicatorPlugin

end ServiceLevel
