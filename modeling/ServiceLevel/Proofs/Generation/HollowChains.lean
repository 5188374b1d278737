import ServiceLevel.Proofs.Generation.Refusals
import ServiceLevel.Proofs.Slo.Accepted

/-!
# Chains that override with nothing

A chain is hollow if it overrides the standard processors and has no entries of its own.
No dialect accepts an objective with a hollow chain.  But the check is made by a processor,
and a hollow chain leaves no processor at all: nothing is checked, and the objective is
generated without rules.

So a hollow chain fails no generation.  A group that has one is generated exactly if the
alerts of its objective can be calculated and the group of the other objectives can be
generated: without processors the context is handed on as it is.
-/

namespace ServiceLevel

/-- A chain that overrides the standard processors, and has none of its own. -/
structure Chain.IsHollow (chain : Chain) : Prop where
  overrides : chain.overrides = true
  noEntries : chain.entries = []

theorem Chain.IsHollow.checkChain_ne_ok
    {chain : Chain}
    (isHollow : chain.IsHollow) :
    Slo.checkChain chain ≠ .ok () := by
  rw [Slo.checkChain, isHollow.overrides, isHollow.noEntries]
  intro impossible
  cases impossible

/-- No dialect accepts an objective with a hollow chain. -/
theorem Slo.validate_ne_ok_of_isHollow
    {slo : Slo}
    (isHollow : slo.chain.IsHollow)
    (dialect : Dialect) :
    slo.validate dialect ≠ .ok () := by
  intro valid
  exact isHollow.checkChain_ne_ok (validate_eq_ok_iff.mp valid).chain

/-- An objective with no rules in its groups. -/
def GenerationRequest.unruled (request : GenerationRequest) (slo : Slo) : Generated where
  slo := request.labelled slo
  rules := ({} : RuleSet).withNames slo.id

theorem GenerationRequest.groups_unruled (request : GenerationRequest) (slo : Slo) :
    (request.unruled slo).rules.groups = [] :=
  rfl

namespace Job

section

variable {origin : Origin} {calculate : AlertCalculation}

/-- A job without steps needs its alerts, makes no rules and leaves the context as it is. -/
theorem run_eq_ok_iff_of_no_steps
    {job : Job}
    (noSteps : job.steps = [])
    {proceedings : Proceedings}
    {made : Generated} :
    (∃ next, job.run origin calculate proceedings = (next, .ok made)) ↔
      (∃ alerts, calculate job.slo.id job.slo.objective job.slo.period = .ok alerts) ∧
        made = ⟨job.slo, ({} : RuleSet).withNames job.slo.id⟩ := by
  rcases calculated :
      calculate job.slo.id job.slo.objective job.slo.period with cause | alerts
  · rw [run_of_uncalculated calculated]
    simp [failed]
  · have ran :
        runSteps origin alerts job.steps (job.start proceedings.toShared) =
          (job.start proceedings.toShared, none) := by
      rw [noSteps, runSteps]
    rw [run_of_passed calculated ran]
    simp [start, eq_comm]

theorem context_run_of_no_steps
    {job : Job}
    (noSteps : job.steps = [])
    (proceedings : Proceedings) :
    (job.run origin calculate proceedings).1.context = proceedings.context := by
  rcases calculated :
      calculate job.slo.id job.slo.objective job.slo.period with cause | alerts
  · rw [run_of_uncalculated calculated]
    rfl
  · have ran :
        runSteps origin alerts job.steps (job.start proceedings.toShared) =
          (job.start proceedings.toShared, none) := by
      rw [noSteps, runSteps]
    rw [run_of_passed calculated ran]
    rfl

/-- Jobs succeed with one among them that has no steps exactly if they do without it. -/
theorem succeed_insert_iff
    {job : Job}
    (noSteps : job.steps = [])
    {jobs others : List Job}
    {first : Proceedings}
    {results : List Generated} :
    (∃ last, Succeed origin calculate (jobs ++ job :: others) first last results) ↔
      (∃ alerts, calculate job.slo.id job.slo.objective job.slo.period = .ok alerts) ∧
        ∃ front back last,
          results =
              front ++ ⟨job.slo, ({} : RuleSet).withNames job.slo.id⟩ :: back ∧
            front.length = jobs.length ∧
            Succeed origin calculate (jobs ++ others) first last (front ++ back) := by
  have sameContexts :
      ∀ other ∈ others, other.Respects Eq :=
    fun _ _ step _ => step.processor.respects_eq
  constructor
  · rintro ⟨last, succeed⟩
    obtain ⟨middle, front, _, inFront, _ | ⟨here, behind⟩, rfl⟩ :=
      succeed_append_iff.mp succeed
    obtain ⟨calculated, rfl⟩ := (run_eq_ok_iff_of_no_steps noSteps).mp ⟨_, here⟩
    have handedOn : (job.run origin calculate middle).1.context = middle.context :=
      context_run_of_no_steps noSteps middle
    rw [here] at handedOn
    obtain ⟨otherLast, others⟩ := behind.of_related sameContexts handedOn
    exact
      ⟨calculated, front, _, otherLast, rfl, inFront.length_eq,
        succeed_append_iff.mpr ⟨middle, front, _, inFront, others, rfl⟩⟩
  · rintro ⟨calculated, front, back, last, rfl, sameLength, succeed⟩
    obtain ⟨middle, earlier, later, inFront, behind, same⟩ :=
      succeed_append_iff.mp succeed
    obtain ⟨rfl, rfl⟩ :=
      List.append_inj same (sameLength.trans inFront.length_eq.symm)
    obtain ⟨next, here⟩ :
        ∃ next,
          job.run origin calculate middle =
            (next, .ok ⟨job.slo, ({} : RuleSet).withNames job.slo.id⟩) :=
      (run_eq_ok_iff_of_no_steps noSteps).mpr ⟨calculated, rfl⟩
    have handedOn : (job.run origin calculate middle).1.context = middle.context :=
      context_run_of_no_steps noSteps middle
    rw [here] at handedOn
    obtain ⟨otherLast, others⟩ := behind.of_related sameContexts handedOn.symm
    exact
      ⟨otherLast,
        succeed_append_iff.mpr
          ⟨middle, front, _, inFront, .cons here others, rfl⟩⟩

end

end Job

namespace Generator

section

variable
    {generator : Generator}
    {calculate : AlertCalculation}
    {request : GenerationRequest}
    {slo : Slo}

/-! ## Objectives without processors -/

theorem processorsOf_eq_nil_iff {entries : List ChainEntry} :
    generator.processorsOf entries = .ok [] ↔ entries = [] := by
  rw [processorsOf_eq_mapM, Attempt.mapM_eq_ok_iff, List.forall₂_nil_right_iff]

/-- No processors run if nothing is declared and the standard ones are left out or missing. -/
theorem processorsFor_eq_nil_iff :
    generator.processorsFor request.group (request.labelled slo) = .ok [] ↔
      generator.declaredFor request slo = [] ∧
        (slo.chain.overrides = true ∨ generator.standard = []) := by
  have entries :
      Chain.merge request.group.chain (request.labelled slo).chain generator.appEntries =
        Chain.sortEntries (generator.declaredFor request slo) := rfl
  have standard :
      (if (request.labelled slo).chain.overrides then [] else generator.standard) = [] ↔
        slo.chain.overrides = true ∨ generator.standard = [] := by
    show (if slo.chain.overrides then [] else generator.standard) = [] ↔ _
    split_ifs with overrides
    · simp [overrides]
    · simp [overrides]
  have nothing :
      generator.declaredFor request slo = [] ↔
        Chain.before (Chain.sortEntries (generator.declaredFor request slo)) = [] ∧
          Chain.after (Chain.sortEntries (generator.declaredFor request slo)) = [] := by
    rw [← List.append_eq_nil_iff, Chain.before_append_after, Chain.sortEntries,
      ← List.length_eq_zero_iff, ← List.length_eq_zero_iff, List.length_mergeSort]
  rw [processorsFor_eq_ok_iff, entries, ← standard, nothing]
  simp only [List.append_eq_nil_iff]
  constructor
  · rintro ⟨_, _, firsts, lasts, ⟨rfl, none⟩, rfl⟩
    exact ⟨⟨processorsOf_eq_nil_iff.mp firsts, processorsOf_eq_nil_iff.mp lasts⟩, none⟩
  · rintro ⟨⟨firsts, lasts⟩, none⟩
    exact
      ⟨[], [], processorsOf_eq_nil_iff.mpr firsts, processorsOf_eq_nil_iff.mpr lasts,
        ⟨rfl, none⟩, rfl⟩

theorem processorsFor_of_isHollow (isHollow : slo.chain.IsHollow) :
    generator.processorsFor request.group (request.labelled slo) = .ok [] := by
  refine processorsFor_eq_nil_iff.mpr ⟨?_, Or.inl isHollow.overrides⟩
  rw [declaredFor, isHollow.overrides, if_pos rfl, isHollow.noEntries]

/-- The job of an objective with a hollow chain has no steps. -/
theorem jobFor_of_isHollow (isHollow : slo.chain.IsHollow) :
    generator.jobFor request slo = .ok ⟨request.labelled slo, []⟩ := by
  refine jobFor_eq_ok_iff.mpr ⟨?_, [], processorsFor_of_isHollow isHollow, rfl⟩
  rw [Chain.copyFailure?, isHollow.noEntries, List.findSome?_nil]

/-! ## Groups with a hollow chain -/

theorem generate_only_eq_ok_singleton_iff {result : Generated} :
    (generator.generate calculate (request.only slo)).result = .ok [result] ↔
      generator.generateOne calculate request slo = .ok result := by
  rw [generate_only_eq_ok_iff]
  constructor
  · rintro ⟨_, made, same⟩
    cases same
    exact made
  · intro made
    exact ⟨result, made, rfl⟩

/-- Jobs for objectives with a hollow one among them are jobs for the others, and its own. -/
theorem forall₂_jobFor_of_isHollow
    {before after : List Slo}
    (isHollow : slo.chain.IsHollow)
    {jobs : List Job} :
    List.Forall₂ (fun other job => generator.jobFor request other = .ok job)
        (before ++ slo :: after) jobs ↔
      ∃ earlier later,
        jobs = earlier ++ ⟨request.labelled slo, []⟩ :: later ∧
          List.Forall₂ (fun other job => generator.jobFor request other = .ok job)
            before earlier ∧
          List.Forall₂ (fun other job => generator.jobFor request other = .ok job)
            after later := by
  constructor
  · intro made
    obtain ⟨earlier, job, later, rfl, inFront, here, behind⟩ :=
      Attempt.exists_split_of_forall₂ made.flip
    have isJob : generator.jobFor request slo = .ok job := here
    rw [jobFor_of_isHollow isHollow] at isJob
    cases isJob
    exact ⟨earlier, later, rfl, inFront.flip, behind.flip⟩
  · rintro ⟨earlier, later, rfl, inFront, behind⟩
    exact List.rel_append inFront (.cons (jobFor_of_isHollow isHollow) behind)

/-- The jobs of objectives with a hollow one among them succeed exactly if its alerts can be
calculated and those of the others succeed, with its result in between. -/
theorem exists_succeed_iff_of_isHollow
    {before after : List Slo}
    (isHollow : slo.chain.IsHollow)
    {results : List Generated} :
    (∃ jobs last,
      List.Forall₂ (fun other job => generator.jobFor request other = .ok job)
          (before ++ slo :: after) jobs ∧
        Job.Succeed request.origin calculate jobs {} last results) ↔
      (∃ alerts, calculate slo.id slo.objective slo.period = .ok alerts) ∧
        ∃ front back,
          results = front ++ request.unruled slo :: back ∧
            front.length = before.length ∧
            back.length = after.length ∧
            ∃ jobs last,
              List.Forall₂ (fun other job => generator.jobFor request other = .ok job)
                  (before ++ after) jobs ∧
                Job.Succeed request.origin calculate jobs {} last (front ++ back) := by
  have hollowJob {jobs others : List Job} :
      (∃ last,
        Job.Succeed request.origin calculate
          (jobs ++ ⟨request.labelled slo, []⟩ :: others) {} last results) ↔
        (∃ alerts, calculate slo.id slo.objective slo.period = .ok alerts) ∧
          ∃ front back last,
            results = front ++ request.unruled slo :: back ∧
              front.length = jobs.length ∧
              Job.Succeed request.origin calculate (jobs ++ others) {} last
                (front ++ back) :=
    Job.succeed_insert_iff rfl
  constructor
  · rintro ⟨jobs, last, made, succeed⟩
    obtain ⟨earlier, later, rfl, inFront, behind⟩ :=
      (forall₂_jobFor_of_isHollow isHollow).mp made
    obtain ⟨calculated, front, back, otherLast, same, frontLength, others⟩ :=
      hollowJob.mp ⟨last, succeed⟩
    have sameLength := others.length_eq
    rw [List.length_append, List.length_append, frontLength, Nat.add_left_cancel_iff,
      ← behind.length_eq] at sameLength
    exact
      ⟨calculated, front, back, same, frontLength.trans inFront.length_eq.symm, sameLength, _,
        otherLast, List.rel_append inFront behind, others⟩
  · rintro ⟨calculated, front, back, same, frontLength, _, jobs, last, made, succeed⟩
    have inFront := (List.forall₂_take_append jobs before after made.flip).flip
    have behind := (List.forall₂_drop_append jobs before after made.flip).flip
    rw [← List.take_append_drop before.length jobs] at succeed
    obtain ⟨otherLast, others⟩ :=
      hollowJob.mpr
        ⟨calculated, front, back, last, same, frontLength.trans inFront.length_eq, succeed⟩
    exact
      ⟨_, otherLast, (forall₂_jobFor_of_isHollow isHollow).mpr ⟨_, _, rfl, inFront, behind⟩,
        others⟩

/-- A group with a hollow chain is generated exactly if the group without it is. -/
theorem generate_eq_ok_iff_without_hollow
    {before after : List Slo}
    (parts : request.group.slos = before ++ slo :: after)
    (isHollow : slo.chain.IsHollow)
    {results : List Generated} :
    (generator.generate calculate request).result = .ok results ↔
      (request.group.slos.map Slo.id).Nodup ∧
        (∃ alerts, calculate slo.id slo.objective slo.period = .ok alerts) ∧
        ∃ front back,
          results = front ++ request.unruled slo :: back ∧
            front.length = before.length ∧
            back.length = after.length ∧
            (before ++ after ≠ [] →
              (generator.generate calculate (request.withSlos (before ++ after))).result =
                .ok (front ++ back)) := by
  rw [generate_eq_ok_iff_succeed, parts]
  constructor
  · rintro ⟨⟨_, distinct⟩, succeeds⟩
    obtain ⟨calculated, front, back, same, frontLength, backLength, others⟩ :=
      (exists_succeed_iff_of_isHollow isHollow).mp succeeds
    refine ⟨distinct, calculated, front, back, same, frontLength, backLength, ?_⟩
    intro nonempty
    refine generate_eq_ok_iff_succeed.mpr ⟨⟨nonempty, ?_⟩, others⟩
    exact distinct.sublist (((List.sublist_cons_self _ _).append_left _).map _)
  · rintro ⟨distinct, calculated, front, back, same, frontLength, backLength, generated⟩
    have others :
        ∃ jobs last,
          List.Forall₂ (fun other job => generator.jobFor request other = .ok job)
              (before ++ after) jobs ∧
            Job.Succeed request.origin calculate jobs {} last (front ++ back) := by
      rcases eq_or_ne (before ++ after) [] with isEmpty | nonempty
      · obtain ⟨rfl, rfl⟩ := List.append_eq_nil_iff.mp isEmpty
        obtain rfl := List.length_eq_zero_iff.mp frontLength
        obtain rfl := List.length_eq_zero_iff.mp backLength
        exact ⟨[], {}, .nil, .nil _⟩
      · exact (generate_eq_ok_iff_succeed.mp (generated nonempty)).2
    exact
      ⟨⟨List.append_ne_nil_of_right_ne_nil _ (List.cons_ne_nil _ _), distinct⟩,
        (exists_succeed_iff_of_isHollow isHollow).mpr
          ⟨calculated, front, back, same, frontLength, backLength, others⟩⟩

/-- Without processors an objective needs its alerts, and gets no rules. -/
theorem generateOne_eq_ok_iff_of_isHollow
    (isHollow : slo.chain.IsHollow)
    {result : Generated} :
    generator.generateOne calculate request slo = .ok result ↔
      (∃ alerts, calculate slo.id slo.objective slo.period = .ok alerts) ∧
        result = request.unruled slo := by
  have alone : (request.only slo).group.slos = [] ++ slo :: [] := rfl
  rw [← generate_only_eq_ok_singleton_iff, generate_eq_ok_iff_without_hollow alone isHollow]
  constructor
  · rintro ⟨_, calculated, front, back, same, noFront, noBack, _⟩
    rw [List.length_eq_zero_iff.mp noFront, List.length_eq_zero_iff.mp noBack] at same
    exact ⟨calculated, List.singleton_inj.mp same⟩
  · rintro ⟨calculated, rfl⟩
    exact
      ⟨List.nodup_singleton _, calculated, [], [], rfl, rfl, rfl,
        fun impossible => absurd rfl impossible⟩

/--
A hollow chain is accepted by no dialect, but nothing checks it.  A group that has one is
generated exactly if its identifiers differ, the alerts of the objective can be calculated,
and the group of the objectives in front and behind can be generated.  The results are those
of this group, and in its place the objective without any rules.  Where no processor reads
the context, these objectives may as well be generated alone.
-/
theorem generate_eq_ok_iff_of_isHollow
    {before after : List Slo}
    (parts : request.group.slos = before ++ slo :: after)
    (isHollow : slo.chain.IsHollow) :
    (∀ dialect, (request.labelled slo).validate dialect ≠ .ok ()) ∧
      (request.unruled slo).rules.groups = [] ∧
      (∀ results,
        (generator.generate calculate request).result = .ok results ↔
          (request.group.slos.map Slo.id).Nodup ∧
            (∃ alerts, calculate slo.id slo.objective slo.period = .ok alerts) ∧
            ∃ front back,
              results = front ++ request.unruled slo :: back ∧
                front.length = before.length ∧
                back.length = after.length ∧
                (before ++ after ≠ [] →
                  (generator.generate calculate
                      (request.withSlos (before ++ after))).result =
                    .ok (front ++ back))) ∧
      (generator.IgnoresContext request →
        ∀ results,
          (generator.generate calculate request).result = .ok results ↔
            (request.group.slos.map Slo.id).Nodup ∧
              (∃ alerts, calculate slo.id slo.objective slo.period = .ok alerts) ∧
              ∃ front back,
                results = front ++ request.unruled slo :: back ∧
                  List.Forall₂
                    (fun other result =>
                      (generator.generate calculate (request.only other)).result =
                        .ok [result])
                    before front ∧
                  List.Forall₂
                    (fun other result =>
                      (generator.generate calculate (request.only other)).result =
                        .ok [result])
                    after back) := by
  refine
    ⟨Slo.validate_ne_ok_of_isHollow isHollow, request.groups_unruled slo,
      fun _ => generate_eq_ok_iff_without_hollow parts isHollow, fun ignores results => ?_⟩
  simp only [generate_only_eq_ok_singleton_iff]
  rw [generate_eq_ok_iff ignores, parts]
  constructor
  · rintro ⟨⟨_, distinct⟩, generated⟩
    rcases Attempt.exists_split_of_forall₂ generated.flip with
      ⟨front, result, back, rfl, inFront, here, behind⟩
    rcases (generateOne_eq_ok_iff_of_isHollow isHollow).mp here with ⟨calculated, rfl⟩
    exact ⟨distinct, calculated, front, back, rfl, inFront.flip, behind.flip⟩
  · rintro ⟨distinct, calculated, front, back, rfl, inFront, behind⟩
    have here : generator.generateOne calculate request slo = .ok (request.unruled slo) :=
      (generateOne_eq_ok_iff_of_isHollow isHollow).mpr ⟨calculated, rfl⟩
    exact
      ⟨⟨List.append_ne_nil_of_right_ne_nil _ (List.cons_ne_nil _ _), distinct⟩,
        List.rel_append inFront (.cons here behind)⟩

/-- An objective whose chain overrides with nothing. -/
def hollowSlo : Slo :=
  { orderedSlo true with chain := ⟨[], true⟩ }

theorem generate_eq_ok_iff_of_isHollow_of_standard :
    ∃ (generator : Generator) (calculate : AlertCalculation) (request : GenerationRequest),
      Generator.make false [] none = .ok generator ∧
        request.group.slos = [hollowSlo] ∧
        (generator.generate calculate request).result = .ok [request.unruled hollowSlo] ∧
        (request.unruled hollowSlo).rules.groups = [] ∧
        (request.labelled hollowSlo).validate .prometheus ≠ .ok () := by
  let alert : BurnAlert :=
    ⟨"alert", ⟨300000000⟩, ⟨3600000000⟩, .whole 14, .whole 1, .page⟩
  let calculate : AlertCalculation :=
    fun _ _ _ => .ok ⟨alert, alert, alert, alert⟩
  let request : GenerationRequest := { group := ⟨[hollowSlo], {}⟩ }
  have isMade : (Generator.make false [] none).isOk = true := by decide +kernel
  rcases Attempt.exists_of_isOk isMade with ⟨generator, made⟩
  have parts : request.group.slos = [] ++ hollowSlo :: [] := rfl
  have isHollow : hollowSlo.chain.IsHollow := ⟨rfl, rfl⟩
  obtain ⟨refused, noGroups, generated, _⟩ :=
    generate_eq_ok_iff_of_isHollow parts isHollow
  refine ⟨generator, calculate, request, made, rfl, ?_, noGroups, refused .prometheus⟩
  exact
    (generated _).mpr
      ⟨List.nodup_singleton _, ⟨_, rfl⟩, [], [], rfl, rfl, rfl,
        fun impossible => absurd rfl impossible⟩

end

end Generator

end ServiceLevel
