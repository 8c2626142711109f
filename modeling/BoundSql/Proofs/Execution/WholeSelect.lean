import BoundSql.Proofs.Statement.Coherence
import BoundSql.Proofs.Statement.Frozen

/-!
# Whole SELECTs

A whole SELECT makes the calls for its clauses on a copy of the builder. If one of them is refused
the copy is dropped. If all are accepted the copy takes the place of the builder and is run, and
then it shows whether the rules require a clause that is still missing: the run fails and reaches no
database, but the clauses have been added.

Main statement: `whole_select_is_its_calls`. Under rules by which SELECT and FROM are enough, a
whole SELECT is all or nothing (`exists_text_of_selectSuffices`).
-/

namespace BoundSql

/-- SELECT starts statements of a kind that requires nothing but SELECT and FROM. -/
def RuleTable.SelectSuffices (table : RuleTable) : Prop :=
  ∃ k rules, table.startedBy? .select = some k ∧ table.rules? k = some rules ∧
    ∀ c ∈ rules.required, c = .select ∨ c = .fromTables

/-- By the standard rules SELECT and FROM are enough. -/
theorem RuleTable.selectSuffices_standard : RuleTable.standard.SelectSuffices :=
  ⟨.select, _, rfl, rfl, by decide⟩

namespace Builder

/-! ## What accepted calls leave -/

theorem Run.table {calls : List Call} {b b' : Builder} (h : Run b calls b') :
    b'.table = b.table := by
  induction h with
  | start => rfl
  | call _ hcall ih => exact (Draft.table_of_step (apply_eq_ok_iff.1 hcall)).trans ih

/-- A step with a clause finds the clause absent and adds it. -/
theorem Step.adds {call : Call} {r : Response} {b b' : Builder} {c : Clause} (h : Step b call r b')
    (hc : call.clause? = some c) :
    b.has c = false ∧ b'.has c = true ∧
      ∀ k, b.table.startedBy? c = some k → b'.kind = some k := by
  cases h with
  | @clause _ c' w hc' legal written =>
    cases hc.symm.trans hc'
    obtain ⟨-, habsent, -⟩ := legal_of_not_refused legal
    exact ⟨habsent, by simp [has_extend], fun k hk => kind_extend_of_starts hk w⟩
  | append sql fresh => cases hc
  | setQuery sql bound fresh hk => cases hc
  | render ha fresh text => simp [clause?_of_answer ha] at hc
  | again ha kept => simp [clause?_of_answer ha] at hc

/-- The clauses of a run are present at its end, and one that starts statements has set the kind. -/
theorem Run.adds {calls : List Call} {call : Call} {c : Clause} {b b' : Builder}
    (h : Run b calls b') (hmem : call ∈ calls) (hc : call.clause? = some c) :
    b'.has c = true ∧ ∀ k, b.table.startedBy? c = some k → b'.kind = some k := by
  induction h with
  | start => cases hmem
  | call hrun hcall ih =>
    have hstep := apply_eq_ok_iff.1 hcall
    rcases List.mem_append.1 hmem with hbefore | hlast
    · -- The call was made before, and the last step takes nothing away.
      obtain ⟨hpresent, hkind⟩ := ih hbefore
      exact ⟨hstep.has hpresent, fun k hk => hstep.kind (hkind k hk)⟩
    · cases List.mem_singleton.1 hlast
      obtain ⟨-, hpresent, hkind⟩ := hstep.adds hc
      rw [hrun.table] at hkind
      exact ⟨hpresent, hkind⟩

theorem select_mem_calls (o : FindOptions) : Call.select o.select ∈ o.calls := by
  simp [FindOptions.calls]

theorem fromTables_mem_calls (o : FindOptions) : Call.fromTables o.tables ∈ o.calls := by
  simp [FindOptions.calls]

/-- Where SELECT and FROM are enough, a whole SELECT that is accepted has a text. -/
theorem exists_text_of_selectSuffices {b : Builder} {o : FindOptions}
    (table : b.table.SelectSuffices) (h : b.Accepts o.calls) :
    ∃ sql, (b.afterAll o.calls).currentText = .ok sql := by
  obtain ⟨k, rules, hstarts, hrules, hrequired⟩ := table
  have hrun : Run b o.calls (b.afterAll o.calls) := run_of_outcomes h
  obtain ⟨hselect, hkind⟩ := hrun.adds (select_mem_calls o) rfl
  obtain ⟨hfrom, -⟩ := hrun.adds (fromTables_mem_calls o) rfl
  rw [← hrun.table] at hrules
  have hpresent : ∀ c ∈ rules.required, (b.afterAll o.calls).has c = true := by
    intro c hc
    rcases hrequired c hc with rfl | rfl
    · exact hselect
    · exact hfrom
  have hrender := (render_eq_ok_iff (hkind k hstarts) hrules).2 ⟨hpresent, rfl⟩
  -- The text is there already, or it can be rendered.
  unfold currentText
  cases (b.afterAll o.calls).rendered with
  | some sql => exact ⟨sql, rfl⟩
  | none => exact ⟨_, hrender⟩

/-- A whole SELECT that is accepted is not where it was before: SELECT was not there. -/
theorem afterAll_ne_of_accepts {b : Builder} {o : FindOptions} (h : b.Accepts o.calls) :
    b.afterAll o.calls ≠ b := by
  have hselect : (b.outcome (.select o.select)).isOk = true := h _ (.head _)
  obtain ⟨r, b', hstep⟩ := isOk_outcome_iff.1 hselect
  obtain ⟨habsent, -, -⟩ := hstep.adds rfl
  obtain ⟨hpresent, -⟩ := (run_of_outcomes h).adds (select_mem_calls o) rfl
  -- The first call needs SELECT to be absent, and afterwards it is present.
  intro hsame
  rw [hsame, habsent] at hpresent
  cases hpresent

/-! ## All, nothing, or the clauses alone -/

/-- A whole SELECT whose calls are accepted is run after them. -/
theorem findWith_of_accepts {σ : Type} {b : Builder} {o : FindOptions} (h : b.Accepts o.calls)
    (db : Database σ) (s : σ) : b.findWith o db s = (b.afterAll o.calls).find db s := by
  have hall : selectAll o b = .ok () (b.afterAll o.calls) := by
    rw [selectAll_eq_sequence]
    exact sequence_of_accepts h
  rw [findWith, hall]

/-- A whole SELECT with a call that is refused fails with the first error and changes nothing. -/
theorem findWith_of_firstFailure? {σ : Type} {b : Builder} {o : FindOptions} {e : QueryError}
    (h : b.firstFailure? o.calls = some (.error e)) (db : Database σ) (s : σ) :
    b.findWith o db s = ⟨.error (.query e), b, s, []⟩ := by
  obtain ⟨b', hfails⟩ := sequence_of_firstFailure? h
  rw [findWith, selectAll_eq_sequence, hfails]

/-- Running a statement that has a text asks the database for it and for nothing else. -/
theorem requests_find {σ : Type} {b : Builder} {sql : String} (h : b.currentText = .ok sql)
    (db : Database σ) (s : σ) :
    (b.find db.recording (s, [])).state.2 = [.run .queryMany sql b.params] := by
  obtain ⟨events, hrun⟩ := (presents_of_text h).run db.recording (s, []) .queryMany
  rw [find, hrun]
  rfl

/-- A whole SELECT does what its calls do and a run after them, if they are all accepted and lead to
a statement with a text: it asks the database once. If a call is refused it fails with the error
of the first such call, asks no database and leaves the builder as it was. If all are accepted but
a required clause is missing it asks no database either, but it leaves the builder with the new
clauses; this does not happen where SELECT and FROM are enough. -/
theorem whole_select_is_its_calls (b : Builder) (o : FindOptions) :
    (∀ sql, b.Accepts o.calls → (b.afterAll o.calls).currentText = .ok sql →
      ∀ {σ : Type} (db : Database σ) (s : σ),
        b.findWith o db s = (b.afterAll o.calls).find db s ∧
          (b.findWith o db.recording (s, [])).state.2 =
            [.run .queryMany sql (b.afterAll o.calls).params]) ∧
    (¬ b.Accepts o.calls → ∃ e, b.firstFailure? o.calls = some (.error e) ∧
      ∀ {σ : Type} (db : Database σ) (s : σ),
        b.findWith o db s = ⟨.error (.query e), b, s, []⟩) ∧
    (∀ e, b.Accepts o.calls → (b.afterAll o.calls).currentText = .error e →
      b.afterAll o.calls ≠ b ∧ ∀ {σ : Type} (db : Database σ) (s : σ),
        b.findWith o db s = ⟨.error (.query e), b.afterAll o.calls, s, []⟩) ∧
    (b.table.SelectSuffices → b.Accepts o.calls →
      ∃ sql, (b.afterAll o.calls).currentText = .ok sql) := by
  refine ⟨?_, ?_, ?_, exists_text_of_selectSuffices⟩
  · intro sql haccepts htext σ db s
    refine ⟨findWith_of_accepts haccepts db s, ?_⟩
    rw [findWith_of_accepts haccepts]
    exact requests_find htext db s
  · intro hrefused
    obtain ⟨e, hfails⟩ := exists_firstFailure? hrefused
    exact ⟨e, hfails, fun db s => findWith_of_firstFailure? hfails db s⟩
  · intro e haccepts htext
    refine ⟨afterAll_ne_of_accepts haccepts, ?_⟩
    intro σ db s
    rw [findWith_of_accepts haccepts]
    exact (unfinished_of_no_text htext).run db s .queryMany

/-- A whole SELECT with a condition and a text behind it. -/
def titledFirst : FindOptions where
  select := .list ["id", "title"]
  tables := [.name "articles"]
  filter := some (.tree (.eq "id" (.int 1)))
  append := some "LIMIT 1"

/-- The one request that it comes down to, whatever the database answers. -/
theorem titled_first_is_asked_once :
    ∃ params : Params, params.entries = [("id", .int 1)] ∧
      ∀ {σ : Type} (db : Database σ) (s : σ),
        new.findWith titledFirst db s = (new.afterAll titledFirst.calls).find db s ∧
          (new.findWith titledFirst db.recording (s, [])).state.2 =
            [.run .queryMany "SELECT id, title FROM articles WHERE id = :id LIMIT 1" params] := by
  have haccepts : new.Accepts titledFirst.calls := by decide +kernel
  have htext : (new.afterAll titledFirst.calls).currentText =
      .ok "SELECT id, title FROM articles WHERE id = :id LIMIT 1" := by decide +kernel
  have hentries : (new.afterAll titledFirst.calls).params.entries = [("id", .int 1)] := by
    decide +kernel
  exact ⟨_, hentries, (whole_select_is_its_calls new titledFirst).1 _ haccepts htext⟩

/-- A SELECT that is not complete without a condition. -/
def filteredSelect : RuleTable :=
  { RuleTable.standard with
    select := { RuleTable.standard.select with required := [.select, .fromTables, .filter] } }

/-- Without its condition a whole SELECT fails and still leaves SELECT and FROM behind. -/
theorem incomplete_select_leaves_its_clauses :
    ¬ ∀ (table : RuleTable) (b : Builder) (o : FindOptions), Uses (withRules table) b →
      ¬ (b.Accepts o.calls ∧ ∃ sql, (b.afterAll o.calls).currentText = .ok sql) →
        ∀ {σ : Type} (db : Database σ) (s : σ), ∃ f, b.findWith o db s = ⟨.error f, b, s, []⟩ := by
  intro h
  have hincomplete : ∀ sql, ((withRules filteredSelect).afterAll
      (FindOptions.calls { tables := [.name "t"] })).currentText ≠ .ok sql := by
    intro sql htext
    cases htext
  obtain ⟨f, hf⟩ := h filteredSelect (withRules filteredSelect) { tables := [.name "t"] } .refl
    (fun hrenders => hrenders.2.elim hincomplete) (Database.prepared {}) ()
  -- The builder that is left has the kind of a SELECT; the one before had none.
  have hkind := congrArg (fun left => left.builder.kind) hf
  cases hkind

end Builder

end BoundSql
