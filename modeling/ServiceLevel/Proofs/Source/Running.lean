import ServiceLevel.Source.Execution

/-!
# Runs that end well

Plugin code works on a sandbox or its memory and ends with a value or with a failure, and the first
failure ends a run.  So a run ends well exactly if each of its steps does, one after
another, and each lemma here says so for one way of putting steps together.
-/

namespace ServiceLevel.Source

variable {α β σ : Type}

/-! ## Steps -/

theorem bind_eq_ok_iff
    {first : ExceptT Failure (StateM σ) α}
    {next : α → ExceptT Failure (StateM σ) β}
    {before after : σ}
    {result : β} :
    (first >>= next) before = (.ok result, after) ↔
      ∃ value between,
        first before = (.ok value, between) ∧
          next value between = (.ok result, after) := by
  simp only [bind, ExceptT.bind, ExceptT.mk, StateT.bind]
  rcases first before with ⟨failure | value, between⟩
  · constructor
    · intro impossible
      cases impossible
    · rintro ⟨_, _, impossible, _⟩
      cases impossible
  · constructor
    · intro continued
      exact ⟨value, between, rfl, continued⟩
    · rintro ⟨_, _, same, continued⟩
      cases same
      exact continued

theorem pure_eq_ok_iff
    {value result : α}
    {before after : σ} :
    (pure value : ExceptT Failure (StateM σ) α) before = (.ok result, after) ↔
      value = result ∧ after = before := by
  show (Except.ok value, before) = (Except.ok result, after) ↔ _
  simp [eq_comm]

theorem get_eq_ok_iff {before after found : σ} :
    (get : ExceptT Failure (StateM σ) σ) before = (.ok found, after) ↔
      found = before ∧ after = before := by
  show (Except.ok before, before) = (Except.ok found, after) ↔ _
  simp [eq_comm]

theorem modify_eq_ok_iff
    {change : σ → σ}
    {before after : σ} :
    (modify change : ExceptT Failure (StateM σ) Unit) before = (.ok (), after) ↔
      after = change before := by
  show (Except.ok (), change before) = (Except.ok (), after) ↔ _
  simp [eq_comm]

theorem liftExcept_eq_ok_iff
    {attempt : Except Failure α}
    {before after : σ}
    {value : α} :
    (liftExcept attempt : ExceptT Failure (StateM σ) α) before =
        (.ok value, after) ↔
      attempt = .ok value ∧ after = before := by
  cases attempt with
  | error failure =>
      show (Except.error failure, before) = (Except.ok value, after) ↔ _
      simp
  | ok other =>
      show (Except.ok other, before) = (Except.ok value, after) ↔ _
      simp [eq_comm]

/-- A step for each item of a list: the first one, then the others. -/
theorem forM_cons_eq_ok_iff
    {step : α → ExceptT Failure (StateM σ) Unit}
    {item : α}
    {rest : List α}
    {before after : σ} :
    (item :: rest).forM step before = (.ok (), after) ↔
      ∃ between,
        step item before = (.ok (), between) ∧
          rest.forM step between = (.ok (), after) := by
  show (step item >>= fun _ => rest.forM step) before = _ ↔ _
  rw [bind_eq_ok_iff]
  constructor
  · rintro ⟨_, between, here, others⟩
    exact ⟨between, here, others⟩
  · rintro ⟨between, here, others⟩
    exact ⟨(), between, here, others⟩

theorem forM_nil_eq_ok_iff
    {step : α → ExceptT Failure (StateM σ) Unit}
    {before after : σ} :
    [].forM step before = (.ok (), after) ↔ after = before := by
  show (Except.ok (), before) = (Except.ok (), after) ↔ _
  simp [eq_comm]

/-- Evaluating expressions changes the memory of a sandbox and no symbol. -/
theorem evaluating_eq_ok_iff
    {library : Library}
    {code : Scope → Run α}
    {before after : Sandbox}
    {value : α} :
    evaluating library code before = (.ok value, after) ↔
      ∃ memory,
        code (.top library before.symbols) before.toMemory = (.ok value, memory) ∧
          after = { before with toMemory := memory } := by
  rw [evaluating]
  rcases code (.top library before.symbols) before.toMemory with ⟨result, memory⟩
  constructor
  · intro same
    cases same
    exact ⟨memory, rfl, rfl⟩
  · rintro ⟨_, same, rfl⟩
    cases same
    rfl

/-! ## Sources -/

/-- A source runs to its end if it is one, the guard passes it and its statements pass. -/
theorem Sandbox.run_eq_ok_iff
    {library : Library}
    {source : Source}
    {before after : Sandbox} :
    before.run library source = (.ok (), after) ↔
      source.isWellFormed ∧
        source.guard Surface.importable = .ok () ∧
        source.hasDistinctParameters ∧
        runAll library source.statements before = (.ok (), after) := by
  rw [run]
  cases source.isWellFormed with
  | false => simp
  | true =>
      cases source.guard Surface.importable with
      | error refused => simp
      | ok passed =>
          cases source.hasDistinctParameters with
          | false => simp
          | true =>
              rcases runAll library source.statements before with ⟨cause | done, stop⟩
              · constructor
                · intro impossible
                  cases impossible
                · rintro ⟨_, _, _, impossible⟩
                  cases impossible
              · constructor
                · intro same
                  cases same
                  exact ⟨rfl, rfl, rfl, rfl⟩
                · rintro ⟨_, _, _, same⟩
                  cases same
                  rfl

end ServiceLevel.Source
