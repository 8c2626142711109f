import BoundSql.Proofs.Statement.Calls

/-!
# Runs

What a program sees that makes calls one after another and goes on after failures. The calls that
succeed are a `Run`, in which every call succeeds, and lead to the same builder.

Main statement: `failed_calls_leave_no_trace`. A run gives the same answers and the same builder
without its failed calls.
-/

namespace BoundSql

namespace Builder

/-! ## Going on after failures -/

/-- What the calls of a run give, one after another; a call that fails does not end the run. -/
def outcomes (b : Builder) : List Call → List (Except QueryError Response)
  | [] => []
  | call :: rest => b.outcome call :: (b.after call).outcomes rest

/-- The builder after a run. -/
def afterAll (b : Builder) (calls : List Call) : Builder :=
  calls.foldl after b

/-- The calls of a run that succeed. -/
def accepted (b : Builder) : List Call → List Call
  | [] => []
  | call :: rest =>
    if (b.outcome call).isOk then call :: (b.after call).accepted rest
    else (b.after call).accepted rest

/-- The builder after a call that fails is the builder before it. -/
theorem after_of_not_isOk {b : Builder} {call : Call} (h : (b.outcome call).isOk = false) :
    b.after call = b := by
  unfold outcome at h
  unfold after
  cases hc : apply call b with
  | ok r b' => simp [hc, Except.isOk, Except.toBool] at h
  | error e b' => exact apply_error hc

theorem outcomes_append (b : Builder) (calls : List Call) (call : Call) :
    b.outcomes (calls ++ [call]) = b.outcomes calls ++ [(b.afterAll calls).outcome call] := by
  induction calls generalizing b with
  | nil => rfl
  | cons first rest ih =>
    rw [List.cons_append, outcomes, outcomes, ih]
    rfl

theorem afterAll_append (b : Builder) (calls : List Call) (call : Call) :
    b.afterAll (calls ++ [call]) = (b.afterAll calls).after call := by
  simp [afterAll]

/-- Without the failed calls the outcomes are the same, less those that failed. -/
theorem outcomes_accepted (b : Builder) (calls : List Call) :
    b.outcomes (b.accepted calls) = (b.outcomes calls).filter (·.isOk) := by
  induction calls generalizing b with
  | nil => rfl
  | cons call rest ih =>
    rw [accepted, outcomes]
    cases hc : (b.outcome call).isOk with
    | true => rw [if_pos rfl, outcomes, ih, List.filter_cons_of_pos hc]
    -- A failed call leaves the builder as it was, so the rest starts from the same one.
    | false =>
      rw [if_neg Bool.false_ne_true, after_of_not_isOk hc, ih,
        List.filter_cons_of_neg (by simp [hc])]

/-- Without the failed calls the builder at the end is the same. -/
theorem afterAll_accepted (b : Builder) (calls : List Call) :
    b.afterAll (b.accepted calls) = b.afterAll calls := by
  induction calls generalizing b with
  | nil => rfl
  | cons call rest ih =>
    rw [accepted]
    cases hc : (b.outcome call).isOk with
    | true => exact ih (b.after call)
    | false =>
      have unchanged : b.after call = b := after_of_not_isOk hc
      have tail : b.afterAll (b.accepted rest) = b.afterAll rest := ih b
      simpa [afterAll, unchanged] using tail

/-! ## Runs without failures -/

/-- Calls that succeed one after another, from one builder to another. -/
inductive Run (start : Builder) : List Call → Builder → Prop where
  | start : Run start [] start
  | call {calls : List Call} {call : Call} {b b' : Builder} {r : Response} :
      Run start calls b → apply call b = .ok r b' → Run start (calls ++ [call]) b'

/-- A call in front of a run, from where the run starts. -/
theorem Run.cons {b b' last : Builder} {call : Call} {r : Response} {calls : List Call}
    (hcall : apply call b = .ok r b') (hrest : Run b' calls last) :
    Run b (call :: calls) last := by
  -- A run grows at its end, so the induction is on the calls that follow.
  induction hrest with
  | start => exact .call .start hcall
  | call _ hnext ih => exact .call ih hnext

/-- Whatever the calls, those that succeed lead to the builder after all of them. -/
theorem run_accepted (b : Builder) (calls : List Call) :
    Run b (b.accepted calls) (b.afterAll calls) := by
  induction calls generalizing b with
  | nil => exact .start
  | cons call rest ih =>
    have hrest : Run (b.after call) ((b.after call).accepted rest) (b.afterAll (call :: rest)) :=
      ih (b.after call)
    rw [accepted]
    cases hc : apply call b with
    | ok r b' =>
      have hafter : b.after call = b' := by simp [after, hc]
      have hok : (b.outcome call).isOk = true := by simp [outcome, hc, Except.isOk, Except.toBool]
      rw [if_pos hok]
      rw [hafter] at hrest ⊢
      exact .cons hc hrest
    | error e b' =>
      have hfail : (b.outcome call).isOk = false := by
        simp [outcome, hc, Except.isOk, Except.toBool]
      rw [if_neg (by simp [hfail])]
      rw [after_of_not_isOk hfail] at hrest ⊢
      exact hrest

/-- If all calls succeed, they are a run. -/
theorem run_of_outcomes {b : Builder} {calls : List Call}
    (h : ∀ o ∈ b.outcomes calls, o.isOk = true) : Run b calls (b.afterAll calls) := by
  -- No call is left out, since none failed.
  have haccepted : b.accepted calls = calls := by
    induction calls generalizing b with
    | nil => rfl
    | cons call rest ih =>
      simp only [outcomes, List.mem_cons, forall_eq_or_imp] at h
      rw [accepted, if_pos h.1, ih h.2]
  have hrun := run_accepted b calls
  rwa [haccepted] at hrun

/-! ## Failed calls -/

/-- A call that fails leaves every part of the builder as it was. So the calls of a run that
failed can be left out: what the others give and the builder at the end stay the same. -/
theorem failed_calls_leave_no_trace :
    (∀ (b b' : Builder) (call : Call) (e : QueryError), apply call b = .error e b' → b' = b) ∧
      ∀ (b : Builder) (calls : List Call),
        b.outcomes (b.accepted calls) = (b.outcomes calls).filter (·.isOk) ∧
          b.afterAll (b.accepted calls) = b.afterAll calls := by
  constructor
  · intro b b' call e h
    exact apply_error h
  · intro b calls
    exact ⟨outcomes_accepted b calls, afterAll_accepted b calls⟩

/-- A condition that fails at its second member, after the first one was bound. -/
def halfCompiled : Call :=
  .filter (.tree (.all [.eq "id" (.int 1), .any []]))

theorem half_compiled_condition_leaves_no_trace :
    ∃ b e b', b = new.afterAll [.update (.name "t"), .set (.mapping [("id", .int 2)])] ∧
      apply halfCompiled b = .error e b' ∧ b' = b := by
  obtain ⟨b, hb⟩ : ∃ b, b = new.afterAll [.update (.name "t"), .set (.mapping [("id", .int 2)])] :=
    ⟨_, rfl⟩
  have hfails : ∃ e b', apply halfCompiled b = .error e b' := by
    rw [hb]
    exact ⟨_, _, rfl⟩
  obtain ⟨e, b', h⟩ := hfails
  exact ⟨b, e, b', hb, h, failed_calls_leave_no_trace.1 b b' halfCompiled e h⟩

end Builder

end BoundSql
