import BoundSql.Proofs.Statement.Runs

/-!
# Legality

When a clause may be added, under any rules. A clause starts the statement, or it is one that the
kind of the statement allows and finds there what it needs.

Main statements: `legal_of_not_refused`; `Run.kind`, the kind does not change once it is set.
-/

namespace BoundSql

/-- A clause that starts a kind is the establishing one of its rules. -/
theorem RuleTable.exists_of_startedBy? {table : RuleTable} {c : Clause} {k : Kind}
    (h : table.startedBy? c = some k) :
    ∃ rules, table.rules? k = some rules ∧ rules.establishing = c := by
  have hstarts : table.starts c k = true := List.find?_some h
  unfold RuleTable.starts at hstarts
  cases hrules : table.rules? k with
  | none => simp [hrules] at hstarts
  | some rules => exact ⟨rules, rfl, by simpa [hrules] using hstarts⟩

namespace Builder

/-! ## Legality -/

/-- Why a clause may be added: it starts the statement, or the kind allows it and all that it needs
is there. -/
inductive Legal (b : Builder) (c : Clause) : Prop where
  | starts {k : Kind} (hc : b.table.startedBy? c = some k) (hk : b.kind = none)
  | follows {k : Kind} {rules : KindRules} (hc : b.table.startedBy? c = none)
      (hk : b.kind = some k) (hrules : b.table.rules? k = some rules) (allowed : c ∈ rules.order)
      (supported : ∀ d ∈ rules.prerequisitesOf c, b.has d = true)

/-- A clause that its kind does not refuse is allowed and has what it needs. -/
theorem follows_of_dependentRefusal? {b : Builder} {c : Clause} {k : Kind}
    (hc : b.table.startedBy? c = none) (hk : b.kind = some k)
    (h : b.dependentRefusal? k c = none) : b.Legal c := by
  unfold dependentRefusal? at h
  cases hrules : b.table.rules? k with
  | none => simp [hrules] at h
  | some rules =>
    by_cases allowed : rules.allows c = true
    · simp only [hrules, if_pos allowed, Option.map_eq_none_iff, List.find?_eq_none,
        Bool.not_eq_true', Bool.not_eq_false] at h
      exact .follows hc hk hrules (by simpa [KindRules.allows] using allowed) h
    · simp [hrules, if_neg allowed] at h

/-- A clause that is not refused is new, and it is legal. -/
theorem legal_of_not_refused {b : Builder} {c : Clause} (h : b.refusal? c = none) :
    b.rendered = none ∧ b.has c = false ∧ b.Legal c := by
  unfold refusal? at h
  by_cases hrendered : b.isRendered = true
  · rw [if_pos hrendered] at h
    cases h
  rw [if_neg hrendered] at h
  by_cases hcustom : b.kind = some .custom
  · rw [if_pos hcustom] at h
    cases h
  rw [if_neg hcustom] at h
  by_cases hpresent : b.has c = true
  · rw [if_pos hpresent] at h
    cases h
  rw [if_neg hpresent] at h
  have hnone : b.rendered = none := by simpa [isRendered] using hrendered
  refine ⟨hnone, by simpa using hpresent, ?_⟩
  -- A clause that starts a kind needs a statement without one, any other clause a statement with
  -- one.
  cases hc : b.table.startedBy? c with
  | some k =>
    cases hk : b.kind with
    | some k' => simp [hc, hk] at h
    | none => exact .starts hc hk
  | none =>
    cases hk : b.kind with
    | none => simp [hc, hk] at h
    | some k =>
      simp only [hc, hk] at h
      exact follows_of_dependentRefusal? hc hk h

/-- Of the clauses only the new one is added. -/
theorem has_extend (b : Builder) (c : Clause) (w : Writing) (d : Clause) :
    (b.extend c w).has d = (decide (d = c) || b.has d) := by
  show (if d = c then some w.text else b.clauses d).isSome = _
  by_cases h : d = c
  · simp [h]
  · simp [h, has]

theorem has_extend_of_has {b : Builder} {d : Clause} (h : b.has d = true) (c : Clause)
    (w : Writing) : (b.extend c w).has d = true := by
  simp [has_extend, h]

/-- The clause that starts a statement sets its kind. -/
theorem kind_extend_of_starts {b : Builder} {c : Clause} {k : Kind}
    (hc : b.table.startedBy? c = some k) (w : Writing) : (b.extend c w).kind = some k := by
  show (b.table.startedBy? c).or b.kind = some k
  rw [hc]
  rfl

/-- A clause that starts no statement leaves the kind as it is. -/
theorem kind_extend_of_follows {b : Builder} {c : Clause} (hc : b.table.startedBy? c = none)
    (w : Writing) : (b.extend c w).kind = b.kind := by
  show (b.table.startedBy? c).or b.kind = b.kind
  rw [hc]
  rfl

/-- With a clause a statement has a kind. -/
theorem Legal.kind_extend {b : Builder} {c : Clause} (h : b.Legal c) (w : Writing) :
    (b.extend c w).kind ≠ none := by
  cases h with
  | starts hc hk => simp [kind_extend_of_starts hc]
  | follows hc hk hrules allowed supported => simp [kind_extend_of_follows hc, hk]

/-- A clause that is present stays. -/
theorem Step.clauses {call : Call} {r : Response} {b b' : Builder} {c : Clause} {text : String}
    (h : Step b call r b') (hc : b.clauses c = some text) : b'.clauses c = some text := by
  cases h with
  | @clause _ new w hnew legal written =>
    obtain ⟨-, habsent, -⟩ := legal_of_not_refused legal
    -- The clause that is written was absent, so it is another one.
    have hne : c ≠ new := by
      rintro rfl
      rw [has, hc] at habsent
      cases habsent
    show (if c = new then some w.text else b.clauses c) = some text
    rw [if_neg hne, hc]
  | append sql fresh => exact hc
  | setQuery sql bound fresh hnone => exact hc
  | render ha fresh text => exact hc
  | again ha kept => exact hc

/-- No step takes a clause away. -/
theorem Step.has {call : Call} {r : Response} {b b' : Builder} {c : Clause}
    (h : Step b call r b') (hc : b.has c = true) : b'.has c = true := by
  obtain ⟨text, htext⟩ := Option.isSome_iff_exists.1 hc
  rw [Builder.has, h.clauses htext]
  rfl

/-! ## Kinds -/

/-- The kind does not change once it is set. -/
theorem Step.kind {call : Call} {r : Response} {b b' : Builder} {k : Kind} (h : Step b call r b')
    (hk : b.kind = some k) : b'.kind = some k := by
  cases h with
  | @clause _ c w hc legal written =>
    obtain ⟨-, -, hlegal⟩ := legal_of_not_refused legal
    -- A clause that starts a statement would have found no kind.
    cases hlegal with
    | starts hstart hnone =>
      rw [hk] at hnone
      cases hnone
    | follows hstart hk' hrules allowed supported => exact (kind_extend_of_follows hstart w).trans hk
  | append sql fresh => exact hk
  | setQuery sql bound fresh hnone =>
    rw [hk] at hnone
    cases hnone
  | render ha fresh text => exact hk
  | again ha kept => exact hk

/-- No run changes a kind that is set. -/
theorem Run.kind {calls : List Call} {b b' : Builder} {k : Kind} (h : Run b calls b')
    (hk : b.kind = some k) : b'.kind = some k := by
  induction h with
  | start => exact hk
  | call _ hcall ih => exact (apply_eq_ok_iff.1 hcall).kind ih

end Builder

end BoundSql
