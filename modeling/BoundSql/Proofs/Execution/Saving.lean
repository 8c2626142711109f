import BoundSql.Proofs.Execution.KeyedRow

/-!
# Saving

Saving an entity is updating it if its primary key is set, and inserting it if its only key is not.
The key is read four times on the way: to decide between the two, for the condition of the UPDATE,
for the row, which leaves nulls out and takes the last value of a repeated column, and for the names
of the bindings.

Main statement: `save_goes_by_the_key`. The readings agree, so that an UPDATE always finds its row by
values that are not null, and no more than one request is made in any case.
-/

namespace BoundSql

/-- No value of the entity is the key's, or it is null. -/
def Entity.Unset (e : Entity) (key : String) : Prop :=
  ∀ value, e.value? key = some value → value = .null

/-- The entity has primary keys, and each has a value that is not null. -/
structure Entity.KeySet (e : Entity) : Prop where
  some_key : e.primaryKeys ≠ []
  set : ∀ key ∈ e.primaryKeys, ∃ value, e.value? key = some value ∧ value ≠ .null

theorem Entity.KeySet.hasKey {e : Entity} (h : e.KeySet) : e.HasKey := by
  refine ⟨h.some_key, ?_⟩
  intro key hkey
  obtain ⟨value, hvalue, -⟩ := h.set key hkey
  rw [← Pairs.find?_isSome_iff]
  exact Option.isSome_of_eq_some hvalue

/-- A key that is set is a value to write. -/
theorem Entity.KeySet.some_value {e : Entity} (h : e.KeySet) :
    ∃ pair ∈ e.columns, pair.2 ≠ .null := by
  obtain ⟨key, hkey⟩ := List.exists_mem_of_ne_nil _ h.some_key
  obtain ⟨value, hvalue, hnull⟩ := h.set key hkey
  exact ⟨(key, value), Pairs.mem_of_find? hvalue, hnull⟩

namespace Repository

open Builder

/-! ## Deciding -/

/-- The keys that count as unset are those without a value or with null. -/
theorem mem_unsetKeys {e : Entity} {key : String} :
    key ∈ unsetKeys e ↔ key ∈ e.primaryKeys ∧ e.Unset key := by
  unfold unsetKeys
  rw [List.mem_filter]
  cases hvalue : e.value? key <;> simp [Entity.Unset, hvalue]

/-- The keys of an entity are set if it has some and none is unset. -/
theorem keySet_iff {e : Entity} : e.KeySet ↔ e.primaryKeys ≠ [] ∧ unsetKeys e = [] := by
  have hset {key : String} :
      (∃ value, e.value? key = some value ∧ value ≠ .null) ↔ ¬ e.Unset key := by
    simp [Entity.Unset]
  constructor
  · intro h
    refine ⟨h.some_key, List.eq_nil_iff_forall_not_mem.2 ?_⟩
    intro key hmem
    obtain ⟨hkey, hunset⟩ := mem_unsetKeys.1 hmem
    exact hset.1 (h.set key hkey) hunset
  · rintro ⟨hkeys, hnone⟩
    refine ⟨hkeys, ?_⟩
    intro key hkey
    refine hset.2 ?_
    intro hunset
    exact List.eq_nil_iff_forall_not_mem.1 hnone key (mem_unsetKeys.2 ⟨hkey, hunset⟩)

/-- An entity whose keys are set is updated. -/
theorem save_of_keySet {e : Entity} (h : e.KeySet) (r : Repository) {σ : Type} (db : Database σ)
    (s : σ) : r.save e db s = r.update e db s := by
  obtain ⟨hkeys, hnone⟩ := keySet_iff.1 h
  obtain ⟨key, rest, hlist⟩ := List.exists_cons_of_ne_nil hkeys
  simp only [save, hnone, hlist, List.length_cons, List.length_nil]

/-- An entity whose only key is unset is inserted. -/
theorem save_of_unset {e : Entity} {key : String} (honly : e.primaryKeys = [key])
    (h : e.Unset key) (r : Repository) {σ : Type} (db : Database σ) (s : σ) :
    r.save e db s = r.add e db s := by
  have hunset : unsetKeys e = [key] := by
    have hmem : key ∈ unsetKeys e := mem_unsetKeys.2 ⟨by simp [honly], h⟩
    -- No key but the only one can be unset.
    have hsublist : (unsetKeys e).Sublist [key] := honly ▸ List.filter_sublist
    rcases List.sublist_singleton.1 hsublist with hnil | hsingle
    · rw [hnil] at hmem
      cases hmem
    · exact hsingle
  simp only [save, honly, hunset, List.length_cons, List.length_nil]

/-- An entity without a key, or with several of which one is not set, is not saved. -/
theorem save_refuses {e : Entity} (hset : ¬ e.KeySet)
    (honly : ¬ ∃ key, e.primaryKeys = [key] ∧ e.Unset key) (r : Repository) :
    ∃ message, Refuses (fun _ => r.save e) (.entity message) := by
  cases hkeys : e.primaryKeys with
  | nil =>
    refine ⟨"entity of " ++ r.table ++ " has no primary key", ?_⟩
    intro σ db s
    simp only [save, hkeys, List.length_nil]
    rfl
  | cons key rest =>
    -- Some key is not set, so there has to be another one beside it.
    have hnonempty : unsetKeys e ≠ [] := by
      intro hnil
      exact hset (keySet_iff.2 ⟨by simp [hkeys], hnil⟩)
    obtain ⟨missing, others, hunset⟩ := List.exists_cons_of_ne_nil hnonempty
    have hmissing : missing ∈ unsetKeys e := by simp [hunset]
    obtain ⟨hmem, habsent⟩ := mem_unsetKeys.1 hmissing
    cases rest with
    | nil =>
      rw [hkeys, List.mem_singleton] at hmem
      exact absurd ⟨missing, hmem ▸ hkeys, habsent⟩ honly
    | cons second more =>
      refine ⟨"cannot add an entity of " ++ r.table ++
        " with a partially set composite primary key", ?_⟩
      intro σ db s
      simp only [save, hkeys, hunset, List.length_cons]
      rfl

/-! ## Inserting -/

/-- The calls of the INSERT of an entity. -/
theorem submitPlan_insert {r : Repository} {e : Entity} (table : Text.isBlank r.table = false)
    (columns : ∀ column ∈ Pairs.names e.columns, Text.isBlank column = false)
    (some_value : ∃ pair ∈ e.columns, pair.2.isNull = false) :
    ∃ row own params, e.Writes row ∧ params.entries = row ∧
      submitPlan (r.insertStatement e) (·.plan .execute) =
        .ask own (.run .execute ("INSERT INTO " ++ r.table ++ " (" ++
          Text.join ", " (Pairs.names row) ++ ") VALUES (" ++
          Text.join ", " ((Pairs.names row).map placeholder) ++ ")") params) .ok := by
  obtain ⟨row, hrow, hwrites⟩ := RowData.exists_row_of_entity .insertValues columns some_value
  have htable := resolve_target table .insertInto
  obtain ⟨sentence, own, b, hsays, hentries, hplan, hsubmit⟩ :=
    exists_of_valid [.insertInto r.target, .values (.entity e)]
      (by simpa using ⟨⟨_, htable⟩, ⟨_, hrow⟩⟩)
      (by simp [Call.part?, Call.clause?, completeShapes]) (by simp) rfl
  cases hsays with
  | insert htable' hrow' =>
    cases htable.symm.trans htable'
    cases hrow.symm.trans hrow'
    refine ⟨row, own, b.params, hwrites, hentries, ?_⟩
    rw [insertStatement_eq_sequence, hsubmit, hplan]
    rfl

/-- An entity with a value is inserted with one request. -/
theorem add_asks_once {r : Repository} {e : Entity} (table : Text.isBlank r.table = false)
    (columns : ∀ column ∈ Pairs.names e.columns, Text.isBlank column = false)
    (some_value : ∃ pair ∈ e.columns, pair.2 ≠ .null) :
    ∃ row params, e.Writes row ∧ params.entries = row ∧
      AsksOnce (fun _ => r.add e) (.run .execute ("INSERT INTO " ++ r.table ++ " (" ++
        Text.join ", " (Pairs.names row) ++ ") VALUES (" ++
        Text.join ", " ((Pairs.names row).map placeholder) ++ ")") params) .ok := by
  obtain ⟨row, own, params, hwrites, hentries, hplan⟩ :=
    submitPlan_insert table columns (by simpa [Value.isNull_eq_false_iff] using some_value)
  exact ⟨row, params, hwrites, hentries, .of_plan (r.add_eq_carryOut e) hplan⟩

/-- An entity without any value cannot be inserted. -/
theorem add_refuses {r : Repository} {e : Entity} (table : Text.isBlank r.table = false)
    (columns : ∀ column ∈ Pairs.names e.columns, Text.isBlank column = false)
    (no_value : ∀ pair ∈ e.columns, pair.2 = .null) :
    Refuses (fun _ => r.add e) (.query (.badDataShape "(...) VALUES (...)" "no non-null values")) := by
  -- No column is blank, so what is wrong is that nothing is left to write.
  have hrow : (RowData.entity e).bindable .insertValues =
      .error (.badDataShape "(...) VALUES (...)" "no non-null values") := by
    rw [RowData.bindable_of_presents (.entity e), RowData.any_isBlank_eq_false_iff.2 columns,
      if_neg Bool.false_ne_true, if_pos (RowData.written_eq_nil_iff.2 no_value)]
    rfl
  intro σ db s
  -- The table is written, and then the row is refused.
  have hstatement : r.insertStatement e .new =
      .error (.badDataShape "(...) VALUES (...)" "no non-null values")
        (new.extend .insertInto ⟨"INSERT INTO " ++ r.table, .empty⟩) := by
    rw [insertStatement_eq_sequence, sequence_cons_apply, apply_of_clause rfl]
    simp only [Call.write, resolve_target table]
    show sequence [.values (.entity e)] (new.extend .insertInto _) = _
    rw [sequence_cons_apply, apply_of_clause rfl]
    simp only [Call.write, hrow]
    rfl
  show r.add e db s = _
  rw [add, submit, hstatement]
  rfl

/-! ## Saving -/

/-- Whatever the entity and the table, saving makes at most one request. -/
theorem save_asks_at_most_once (r : Repository) (e : Entity) {σ : Type} (db : Database σ) (s : σ) :
    (r.save e db.recording (s, [])).state.2.length ≤ 1 := by
  rw [save_eq_carryOut, Plan.carryOut_recording]
  cases (r.savePlan e).request? <;> simp

/-- An entity of which every primary key is set is saved as it is updated: by exactly one UPDATE,
which compares every key with its value, and no key is compared with null. An entity whose only key
is not set is saved as it is inserted: by exactly one INSERT if it has a value to write, and
otherwise not at all. In every other case saving is an error of the entity, and the database is not
asked; in no case is it asked more than once. -/
theorem save_goes_by_the_key (r : Repository) (e : Entity) (table : Text.isBlank r.table = false)
    (columns : ∀ column ∈ Pairs.names e.columns, Text.isBlank column = false) :
    (e.KeySet →
      (∀ {σ : Type} (db : Database σ) (s : σ), r.save e db s = r.update e db s) ∧
      ∃ row terms params, e.Writes row ∧ e.KeyedBy terms ∧ params.Holds row terms ∧
        (∀ t ∈ terms, ∃ value, params.get? (placeholder t.name) = some value ∧ value ≠ .null) ∧
        AsksOnce (fun _ => r.save e) (.run .execute ("UPDATE " ++ r.table ++ " SET " ++
          Text.join ", " ((Pairs.names row).map fun c => c ++ " = " ++ placeholder c) ++
          " WHERE " ++ keyText terms ++ " ") params) .ok) ∧
    (∀ key, e.primaryKeys = [key] → e.Unset key →
      (∀ {σ : Type} (db : Database σ) (s : σ), r.save e db s = r.add e db s) ∧
      ((∃ pair ∈ e.columns, pair.2 ≠ .null) →
        ∃ row params, e.Writes row ∧ params.entries = row ∧
          AsksOnce (fun _ => r.save e) (.run .execute ("INSERT INTO " ++ r.table ++ " (" ++
            Text.join ", " (Pairs.names row) ++ ") VALUES (" ++
            Text.join ", " ((Pairs.names row).map placeholder) ++ ")") params) .ok) ∧
      ((∀ pair ∈ e.columns, pair.2 = .null) →
        Refuses (fun _ => r.save e)
          (.query (.badDataShape "(...) VALUES (...)" "no non-null values")))) ∧
    (¬ e.KeySet → (¬ ∃ key, e.primaryKeys = [key] ∧ e.Unset key) →
      ∃ message, Refuses (fun _ => r.save e) (.entity message)) ∧
    (∀ {σ : Type} (db : Database σ) (s : σ),
      (r.save e db.recording (s, [])).state.2.length ≤ 1) := by
  refine ⟨?_, ?_, ?_, r.save_asks_at_most_once e⟩
  · intro hset
    have hsame : (fun (σ : Type) (db : Database σ) (s : σ) => r.save e db s) =
        fun σ db s => r.update e db s := by
      funext σ db s
      exact save_of_keySet hset r db s
    obtain ⟨row, terms, params, hwrites, hkeyed, hholds, hasks⟩ :=
      update_asks_once table hset.hasKey columns
        (by simpa [Value.isNull_eq_false_iff] using hset.some_value)
    refine ⟨save_of_keySet hset r, row, terms, params, hwrites, hkeyed, hholds, ?_, hsame ▸ hasks⟩
    intro t ht
    -- The value that is bound is the one that was looked at to decide.
    have hkey : t.column ∈ e.primaryKeys := hkeyed.columns ▸ List.mem_map_of_mem ht
    obtain ⟨value, hvalue, hnull⟩ := hset.set t.column hkey
    obtain rfl : t.value = value := Option.some.inj ((hkeyed.values t ht).symm.trans hvalue)
    exact ⟨t.value, hholds.terms t ht, hnull⟩
  · intro key honly hunset
    have hsame : (fun (σ : Type) (db : Database σ) (s : σ) => r.save e db s) =
        fun σ db s => r.add e db s := by
      funext σ db s
      exact save_of_unset honly hunset r db s
    refine ⟨save_of_unset honly hunset r, ?_, ?_⟩
    · intro some_value
      obtain ⟨row, params, hwrites, hentries, hasks⟩ := add_asks_once table columns some_value
      exact ⟨row, params, hwrites, hentries, hsame ▸ hasks⟩
    · intro no_value σ db s
      show r.save e db s = _
      rw [save_of_unset honly hunset r db s]
      exact add_refuses table columns no_value db s
  · intro hset honly
    exact save_refuses hset honly r

/-- An entity that repeats its key: the first value finds the row and the last one is written. -/
def renumbered : Entity where
  columns := [("id", .int 7), ("title", .text "Lean"), ("note", .null), ("id", .int 8)]
  primaryKeys := ["id"]

/-- An entity that has no key yet. -/
def unnumbered : Entity where
  columns := [("id", .null), ("title", .text "Lean")]
  primaryKeys := ["id"]

/-- An entity with one of two keys. -/
def halfNumbered : Entity where
  columns := [("id", .int 7), ("id0", .null)]
  primaryKeys := ["id", "id0"]

/-- The bindings of the UPDATE of the first of these. -/
def renumberedParams : Params :=
  ⟨[("id", .int 8), ("title", .text "Lean"), ("id0", .int 7)], by decide⟩

theorem renumbered_is_saved :
    AsksOnce (fun _ => editions.save renumbered)
        (.run .execute "UPDATE editions SET id = :id, title = :title WHERE id = :id0 "
          renumberedParams) .ok ∧
      (∀ {σ : Type} (db : Database σ) (s : σ),
        editions.save unnumbered db s = editions.add unnumbered db s) ∧
      ∃ message, Refuses (fun _ => editions.save halfNumbered) (.entity message) := by
  have hset : renumbered.KeySet := by
    refine ⟨by decide, ?_⟩
    intro key hkey
    obtain rfl := List.mem_singleton.1 hkey
    exact ⟨.int 7, rfl, by decide⟩
  have hunset : unnumbered.Unset "id" := by
    intro value hvalue
    exact (Option.some.inj hvalue).symm
  have hhalf : ¬ halfNumbered.KeySet := by
    intro h
    obtain ⟨value, hvalue, hnull⟩ := h.set "id0" (by decide)
    exact hnull (Option.some.inj hvalue).symm
  have hseveral : ¬ ∃ key, halfNumbered.primaryKeys = [key] ∧ halfNumbered.Unset key := by
    rintro ⟨key, hkey, -⟩
    cases hkey
  refine ⟨?_, ?_, ?_⟩
  · obtain ⟨-, row, terms, params, -, -, -, -, hasks⟩ :=
      (save_goes_by_the_key editions renumbered (by decide) (by decide)).1 hset
    have hseen : (editions.save renumbered (Database.prepared {}).recording ((), [])).state.2 =
        [.run .execute "UPDATE editions SET id = :id, title = :title WHERE id = :id0 "
          renumberedParams] := by decide +kernel
    exact hasks.of_seen hseen
  · exact ((save_goes_by_the_key editions unnumbered (by decide) (by decide)).2.1 "id" rfl
      hunset).1
  · exact (save_goes_by_the_key editions halfNumbered (by decide) (by decide)).2.2.1 hhalf
      hseveral

end Repository

end BoundSql
