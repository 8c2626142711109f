import Mathlib.Data.List.Induction
import BoundSql.Proofs.Statement.Runs

/-!
# Drafts

What calls put down, read off the calls alone: the parts of the statement with their texts in the
order of the calls, and the bindings. A draft knows no rules about which call may follow which,
and nothing of the order in which a statement is rendered.

Main statement: `tracks_of_run`. On a run without failures, under any rules, the builder holds what
the draft of the run's calls holds, and a rendered text is the one that it would render now.
-/

namespace BoundSql

namespace Builder

/-! ## Parts -/

/-- What a call puts down: a clause, or a whole custom statement. -/
inductive Part where
  | clause (c : Clause)
  | custom
deriving DecidableEq, Repr

/-- The part that a call puts down. -/
def Call.part? : Call → Option Part
  | .setQuery _ _ => some .custom
  | call => call.clause?.map .clause

/-- The kind of the statement that a part starts. -/
def Part.kind? (table : RuleTable) : Part → Option Kind
  | clause c => table.startedBy? c
  | custom => some .custom

/-- The kind of a statement with some parts; a later one that starts a statement wins. -/
def kindOf (table : RuleTable) (parts : List Part) : Option Kind :=
  parts.foldl (fun k part => (part.kind? table).or k) none

/-- The text that a call puts after all parts. -/
def Call.appended? : Call → Option String
  | .append sql => some sql
  | _ => none

/-- The text of the last call that appends one. -/
def lastAppended (calls : List Call) : Option String :=
  calls.foldl (fun last call => call.appended?.or last) none

/-! ## Drafts -/

/-- The parts put down so far with their texts, and the bindings. -/
structure Draft where
  parts : List (Part × String)
  params : Params

namespace Draft

/-- Nothing put down. -/
def empty : Draft := ⟨[], .empty⟩

/-- The parts in the order of the calls. -/
def shape (d : Draft) : List Part :=
  d.parts.map (·.1)

/-- The texts one after another. -/
def text (d : Draft) : String :=
  String.join (d.parts.map (·.2))

/-- The text put down last for a part. -/
def textOf? (d : Draft) (part : Part) : Option String :=
  d.parts.reverse.lookup part

/-- The draft after a call, if the call's argument can be used. -/
def add (table : RuleTable) (d : Draft) : Call → Except QueryError Draft
  | .setQuery sql bound => .ok ⟨d.parts ++ [(.custom, sql)], bound⟩
  | call =>
    match call.clause? with
    | none => .ok d
    | some c =>
      (call.write (kindOf table d.shape) d.params).map fun w =>
        ⟨d.parts ++ [(.clause c, w.text)], w.params⟩

/-- The draft of calls. -/
def ofCalls (table : RuleTable) (calls : List Call) : Except QueryError Draft :=
  calls.foldlM (add table) empty

variable {table : RuleTable}

/-- A part put down last has the text put down with it, and any other part the text that it had. -/
theorem textOf?_append (parts : List (Part × String)) (p q : Params) (part other : Part)
    (text : String) :
    textOf? ⟨parts ++ [(part, text)], p⟩ other =
      if other = part then some text else textOf? ⟨parts, q⟩ other := by
  by_cases h : other = part
  · simp [textOf?, h]
  · have hne : (other == part) = false := by simpa using h
    simp [textOf?, List.lookup_cons, h, hne]

/-- A part has a text exactly if it was put down. -/
theorem textOf?_isSome (d : Draft) (part : Part) :
    (d.textOf? part).isSome = decide (part ∈ d.shape) := by
  rw [Bool.eq_iff_iff, decide_eq_true_iff]
  simp only [textOf?, List.lookup_isSome_iff, shape, List.mem_reverse, List.mem_map, beq_iff_eq]
  constructor
  · rintro ⟨p, hp, rfl⟩
    exact ⟨p, hp, rfl⟩
  · rintro ⟨p, hp, rfl⟩
    exact ⟨p, hp, rfl⟩

/-- Where every part was put down once, its text is the one that was put down with it. -/
theorem textOf?_eq_some_iff {d : Draft} (once : d.shape.Nodup) {part : Part} {text : String} :
    d.textOf? part = some text ↔ (part, text) ∈ d.parts := by
  obtain ⟨parts, p⟩ := d
  induction parts using List.reverseRecOn with
  | nil => simp [textOf?]
  | append_singleton parts last ih =>
    obtain ⟨other, text'⟩ := last
    have hshape : shape ⟨parts ++ [(other, text')], p⟩ = shape ⟨parts, p⟩ ++ [other] := by
      simp [shape]
    rw [hshape, List.nodup_append] at once
    -- the part put down last was not there before
    have hnew : ∀ t, (other, t) ∉ parts := by
      intro t ht
      exact once.2.2 other (List.mem_map.2 ⟨_, ht, rfl⟩) other (by simp) rfl
    rw [textOf?_append _ _ p]
    by_cases h : part = other
    · subst h
      simp [hnew, eq_comm]
    · simp [h, ih once.1]

/-- A part put down last decides about the kind if it starts a statement. -/
theorem kindOf_append (parts : List Part) (part : Part) :
    kindOf table (parts ++ [part]) = (part.kind? table).or (kindOf table parts) := by
  simp [kindOf]

/-- A call with a clause puts it down. -/
theorem part?_of_clause {call : Call} {c : Clause} (h : call.clause? = some c) :
    call.part? = some (.clause c) := by
  cases call <;> simp_all [Call.part?, Call.clause?]

/-- A call without a clause adds a part only if it is a whole statement. -/
theorem part?_of_no_clause {call : Call} (h : call.clause? = none)
    (structured : call.part? ≠ some .custom) : call.part? = none := by
  cases call with
  | setQuery sql values => exact absurd rfl structured
  | _ => simp [Call.part?, h]

/-- A call that asks for the statement puts nothing down. -/
theorem part?_of_answer {call : Call} {answer : Rendered → Answer}
    (h : call.answer? = some answer) : call.part? = none := by
  cases call <;> simp_all [Call.answer?, Call.part?, Call.clause?]

/-- A call with a clause adds what its argument writes. -/
theorem add_of_clause {call : Call} {c : Clause} (h : call.clause? = some c) (d : Draft) :
    d.add table call =
      (call.write (kindOf table d.shape) d.params).map fun w =>
        ⟨d.parts ++ [(.clause c, w.text)], w.params⟩ := by
  cases call <;> simp_all [add, Call.clause?]

/-- A call that puts nothing down leaves the draft as it is. -/
theorem add_of_part?_eq_none {call : Call} (h : call.part? = none) (d : Draft) :
    d.add table call = .ok d := by
  cases call <;> simp_all [add, Call.part?, Call.clause?]

/-- The draft of one call more is the draft before it with what that call adds. -/
theorem ofCalls_append (calls : List Call) (call : Call) :
    ofCalls table (calls ++ [call]) = (ofCalls table calls).bind (add table · call) := by
  simp only [ofCalls, List.foldlM_append, List.foldlM_cons, List.foldlM_nil]
  cases calls.foldlM (add table) empty with
  | error e => rfl
  | ok d =>
    show (add table d call >>= pure) = add table d call
    cases add table d call <;> rfl

/-- A call with a clause that a draft takes has been written behind the other parts. -/
theorem exists_of_add {call : Call} {c : Clause} {d d' : Draft} (hc : call.clause? = some c)
    (h : d.add table call = .ok d') :
    ∃ w, call.write (kindOf table d.shape) d.params = .ok w ∧
      d' = ⟨d.parts ++ [(.clause c, w.text)], w.params⟩ := by
  rw [add_of_clause hc] at h
  cases hw : call.write (kindOf table d.shape) d.params with
  | error e => simp [hw, Except.map] at h
  | ok w =>
    simp only [hw, Except.map, Except.ok.injEq] at h
    exact ⟨w, rfl, h.symm⟩

/-- The shape of a draft grows by the part of the call. -/
theorem shape_of_add {d d' : Draft} {call : Call} (h : d.add table call = .ok d') :
    d'.shape = d.shape ++ call.part?.toList := by
  -- a call puts down nothing, a custom statement or a clause
  cases hp : call.part? with
  | none =>
    rw [add_of_part?_eq_none hp] at h
    cases h
    simp
  | some part =>
    cases hc : call.clause? with
    | none =>
      cases call with
      | setQuery sql bound =>
        cases h
        cases hp
        simp [shape]
      | _ => simp_all [Call.part?, Call.clause?]
    | some c =>
      obtain ⟨w, -, rfl⟩ := exists_of_add hc h
      have hpart : part = .clause c := by
        simpa [hp] using part?_of_clause hc
      simp [shape, hpart]

/-- The shape of a draft is the list of the parts that its calls put down. -/
theorem shape_of_ofCalls {calls : List Call} {d : Draft} (h : ofCalls table calls = .ok d) :
    d.shape = calls.filterMap Call.part? := by
  -- Calls are added at the end, so the induction takes the last one off.
  induction calls using List.reverseRecOn generalizing d with
  | nil =>
    cases h
    rfl
  | append_singleton calls call ih =>
    rw [ofCalls_append] at h
    cases hd : ofCalls table calls with
    | error e => simp [hd, Except.bind] at h
    | ok before =>
      rw [hd] at h
      rw [shape_of_add h, ih hd, List.filterMap_append]
      cases hp : call.part? <;> simp [hp]

/-- A clause of the draft after a call was there before, or the call has written it. -/
theorem mem_parts_of_add {d d' : Draft} {call : Call} {c : Clause} {text : String}
    (h : d.add table call = .ok d') (hmem : (Part.clause c, text) ∈ d'.parts) :
    (Part.clause c, text) ∈ d.parts ∨
      call.clause? = some c ∧ ∃ k p w, call.write k p = .ok w ∧ w.text = text := by
  cases hcall : call.clause? with
  | none =>
    cases call with
    -- a custom statement is another part, so that the clause was there
    | setQuery sql bound =>
      cases h
      simpa using hmem
    | append sql | statement | bindings | build =>
      cases h
      exact .inl hmem
    | _ => cases hcall
  | some e =>
    obtain ⟨w, hw, rfl⟩ := exists_of_add hcall h
    -- the call adds one part behind the others, and that one is its own
    rcases List.mem_append.1 hmem with hbefore | hnew
    · exact .inl hbefore
    · cases List.mem_singleton.1 hnew
      exact .inr ⟨rfl, _, _, w, hw, rfl⟩

/-- Whatever a draft has for a clause was written by one of its calls. -/
theorem exists_of_mem_parts {calls : List Call} {d : Draft} {c : Clause} {text : String}
    (h : ofCalls table calls = .ok d) (hmem : (Part.clause c, text) ∈ d.parts) :
    ∃ call ∈ calls, call.clause? = some c ∧
      ∃ k p w, call.write k p = .ok w ∧ w.text = text := by
  induction calls using List.reverseRecOn generalizing d with
  | nil =>
    cases h
    cases hmem
  | append_singleton calls last ih =>
    rw [ofCalls_append] at h
    cases hbefore : ofCalls table calls with
    | error e => simp [hbefore, Except.bind] at h
    | ok before =>
      rw [hbefore] at h
      -- either an earlier call has written it, or the last one
      rcases mem_parts_of_add h hmem with hold | ⟨hc, hwritten⟩
      · obtain ⟨call, hcall, hwritten⟩ := ih hbefore hold
        exact ⟨call, List.mem_append_left _ hcall, hwritten⟩
      · exact ⟨last, by simp, hc, hwritten⟩

/-! ## Builders and their drafts -/

/-- The builder holds what the draft holds. -/
structure Agrees (d : Draft) (b : Builder) : Prop where
  kind : b.kind = kindOf b.table d.shape
  clauses : ∀ c, b.clauses c = d.textOf? (.clause c)
  custom : b.custom = d.textOf? .custom
  params : b.params = d.params

/-- A builder with rules alone holds nothing. -/
theorem agrees_empty (table : RuleTable) : empty.Agrees (withRules table) :=
  ⟨rfl, fun _ => rfl, rfl, rfl⟩

/-- A builder has the clauses that its draft has. -/
theorem Agrees.has {d : Draft} {b : Builder} (h : d.Agrees b) (c : Clause) :
    b.has c = (d.textOf? (.clause c)).isSome := by
  rw [Builder.has, h.clauses]

/-- Extending a builder is adding a part to the draft. -/
theorem Agrees.extend {d : Draft} {b : Builder} (h : d.Agrees b) (c : Clause) (w : Writing) :
    Agrees ⟨d.parts ++ [(.clause c, w.text)], w.params⟩ (b.extend c w) := by
  refine ⟨?_, ?_, ?_, rfl⟩
  · -- kind: the clause decides if it starts a statement
    show (b.table.startedBy? c).or b.kind = kindOf b.table _
    simp only [shape, List.map_append, List.map_cons, List.map_nil]
    rw [kindOf_append, h.kind]
    rfl
  · -- clauses: only the text of this one changes
    intro e
    show (if e = c then some w.text else b.clauses e) = _
    rw [textOf?_append _ _ d.params, h.clauses]
    simp
  · -- custom: a clause is no custom statement
    show b.custom = _
    rw [textOf?_append _ _ d.params, h.custom]
    simp

/-- The texts and bindings of a draft are not touched by what is appended or kept. -/
theorem Agrees.congr {d : Draft} {b b' : Builder} (h : d.Agrees b) (ht : b'.table = b.table)
    (hk : b'.kind = b.kind) (hc : b'.clauses = b.clauses) (hu : b'.custom = b.custom)
    (hp : b'.params = b.params) : d.Agrees b' :=
  ⟨by rw [ht, hk, h.kind], by rw [hc]; exact h.clauses, hu.trans h.custom, hp.trans h.params⟩

/-- What a call that succeeds does to a builder it does to the draft. -/
theorem Agrees.step {d : Draft} {b b' : Builder} {call : Call} {r : Response} (h : d.Agrees b)
    (hstep : Step b call r b') :
    ∃ d', d.add b.table call = .ok d' ∧ d'.Agrees b' := by
  cases hstep with
  | clause hc legal written =>
    rw [h.kind, h.params] at written
    refine ⟨_, ?_, h.extend _ _⟩
    rw [add_of_clause hc, written]
    rfl
  | append sql fresh => exact ⟨d, rfl, h.congr rfl rfl rfl rfl rfl⟩
  -- a custom statement takes the kind and the bindings, and leaves the clauses
  | setQuery sql bound fresh hk =>
    refine ⟨_, rfl, ?_, ?_, ?_, rfl⟩
    · simp only [shape, List.map_append, List.map_cons, List.map_nil]
      rw [kindOf_append]
      rfl
    · intro c
      rw [textOf?_append _ _ d.params]
      simpa using h.clauses c
    · rw [textOf?_append _ _ d.params]
      simp
  | render ha fresh text =>
    exact ⟨d, add_of_part?_eq_none (part?_of_answer ha) d, h.congr rfl rfl rfl rfl rfl⟩
  | again ha kept => exact ⟨d, add_of_part?_eq_none (part?_of_answer ha) d, h⟩

/-! ## Runs -/

/-- The builder holds what its calls put down, the text that they append, and, once it was
rendered, the text that it would render now. -/
structure Tracks (table : RuleTable) (calls : List Call) (d : Draft) (b : Builder) : Prop where
  table_eq : b.table = table
  draft : ofCalls table calls = .ok d
  agrees : d.Agrees b
  appended : b.appended = lastAppended calls
  kept : ∀ sql, b.rendered = some sql → b.render = .ok sql

/-- The last call that appends decides. -/
theorem lastAppended_append (calls : List Call) (call : Call) :
    lastAppended (calls ++ [call]) = call.appended?.or (lastAppended calls) := by
  simp [lastAppended]

/-- A call with a clause appends nothing. -/
theorem appended?_of_clause {call : Call} {c : Clause} (h : call.clause? = some c) :
    call.appended? = none := by
  cases call <;> simp_all [Call.appended?, Call.clause?]

/-- A call that asks for the statement appends nothing. -/
theorem appended?_of_answer {call : Call} {answer : Rendered → Answer}
    (h : call.answer? = some answer) : call.appended? = none := by
  cases call <;> simp_all [Call.appended?, Call.answer?]

/-- A step appends what its call appends. -/
theorem appended_of_step {b b' : Builder} {call : Call} {r : Response} (h : Step b call r b') :
    b'.appended = call.appended?.or b.appended := by
  cases h with
  | clause hc legal written =>
    rw [appended?_of_clause hc]
    rfl
  | append sql fresh => rfl
  | setQuery sql bound fresh hk => rfl
  | render ha fresh text =>
    rw [appended?_of_answer ha]
    rfl
  | again ha kept =>
    rw [appended?_of_answer ha]
    rfl

/-- No call changes the rules. -/
theorem table_of_step {b b' : Builder} {call : Call} {r : Response} (h : Step b call r b') :
    b'.table = b.table := by
  cases h <;> rfl

/-- A step of the builder is a step of its draft, and the draft follows. -/
theorem Tracks.step {calls : List Call} {call : Call} {d : Draft} {b b' : Builder} {r : Response}
    (h : Tracks table calls d b) (hstep : Step b call r b') :
    ∃ d', d.add table call = .ok d' ∧ Tracks table (calls ++ [call]) d' b' := by
  obtain ⟨d', hadd, hagrees⟩ := h.agrees.step hstep
  rw [h.table_eq] at hadd
  refine ⟨d', hadd, (table_of_step hstep).trans h.table_eq, ?_, hagrees, ?_, ?_⟩
  · rw [ofCalls_append, h.draft]
    exact hadd
  · rw [appended_of_step hstep, h.appended, lastAppended_append]
  · -- A text that is kept was kept before, or has just been rendered.
    intro sql hsql
    rcases hstep.kept hsql with rfl | ⟨text, rfl⟩
    · exact h.kept sql hsql
    · exact text

/-- A call that asks for the statement gives the text that the builder would render now. -/
theorem Tracks.render_of_outcome {calls : List Call} {call : Call} {d : Draft} {b : Builder}
    {answer : Rendered → Answer} {r : Response} (h : Tracks table calls d b)
    (ha : call.answer? = some answer) (hok : b.outcome call = .ok r) :
    ∃ sql events, b.render = .ok sql ∧ r = ⟨answer ⟨sql, b.params, events⟩, events⟩ := by
  obtain ⟨sql, events, hsql, rfl⟩ := outcome_of_answer ha hok
  refine ⟨sql, events, ?_, rfl⟩
  -- a text that is kept is the one that would be rendered now
  rcases hsql with kept | text
  · exact h.kept sql kept
  · exact text

/-- On a run without failures the builder tracks the draft of the calls. -/
theorem tracks_of_run {calls : List Call} {b : Builder} (h : Run (withRules table) calls b) :
    ∃ d, Tracks table calls d b := by
  -- The draft grows with the run: `Tracks.step` is the step, and the empty draft the start.
  induction h with
  | start => exact ⟨empty, rfl, rfl, agrees_empty table, rfl, by simp [withRules]⟩
  | call _ hcall ih =>
    obtain ⟨d, htracks⟩ := ih
    obtain ⟨d', -, htracks'⟩ := htracks.step (apply_eq_ok_iff.1 hcall)
    exact ⟨d', htracks'⟩

end Draft

end Builder

end BoundSql
