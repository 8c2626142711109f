import Mathlib.Data.List.Nodup
import BoundSql.Proofs.Statement.Draft
import BoundSql.Proofs.Statement.Legality
import BoundSql.Proofs.Statement.Uses

/-!
# Statements under custom rules

What holds of every statement, whatever the rules say, as long as the clauses of each kind are
listed once and with the clause that starts the kind. Rules may share the clauses that start a
statement, and may allow a clause that starts one to a kind that it does not start.

Main statement: `rules_hold_throughout`. The clauses of a statement are those that its kind allows,
behind what they need, and a statement that renders holds every clause that was put down once, in
the order of the rules.
-/

namespace BoundSql

/-- The clause that starts the kind is listed, and no clause is listed twice. -/
def KindRules.Lawful (rules : KindRules) : Prop :=
  rules.establishing ∈ rules.order ∧ rules.order.Nodup

namespace RuleTable

/-- The rules of every structured kind are lawful. -/
def Lawful (table : RuleTable) : Prop :=
  ∀ k rules, table.rules? k = some rules → rules.Lawful

end RuleTable

namespace Builder

/-! ## Coherence -/

/-- The statement is one of a kind with these rules. -/
structure Follows (b : Builder) (rules : KindRules) : Prop where
  started : b.has rules.establishing = true
  /-- No other clause starts a statement of any kind. -/
  alone : ∀ c, b.has c = true → (b.table.startedBy? c).isSome = true → c = rules.establishing
  allowed : ∀ c, b.has c = true → c ∈ rules.order
  supported : ∀ c, b.has c = true → c ≠ rules.establishing →
    ∀ d ∈ rules.prerequisitesOf c, b.has d = true

/-- A statement without a structured kind has no clauses, and any other follows its rules. -/
structure Coherent (b : Builder) : Prop where
  empty : b.kind = none ∨ b.kind = some .custom → ∀ c, b.has c = false
  follows : ∀ k rules, b.kind = some k → b.table.rules? k = some rules → b.Follows rules

theorem coherent_withRules (table : RuleTable) : (withRules table).Coherent := by
  constructor
  · intro _ c
    rfl
  · intro k rules hk
    cases hk

/-- Only what is appended or kept differs. -/
theorem Coherent.congr {b b' : Builder} (h : b.Coherent) (ht : b'.table = b.table)
    (hk : b'.kind = b.kind) (hc : b'.clauses = b.clauses) : b'.Coherent := by
  have hhas : ∀ c, b'.has c = b.has c := by
    intro c
    rw [has, has, hc]
  constructor
  · intro hkind c
    rw [hk] at hkind
    rw [hhas, h.empty hkind]
  · intro k rules hkind hrules
    rw [hk] at hkind
    rw [ht] at hrules
    have hfollows := h.follows k rules hkind hrules
    constructor
    · rw [hhas]
      exact hfollows.started
    · intro c hpresent
      rw [hhas] at hpresent
      rw [ht]
      exact hfollows.alone c hpresent
    · intro c hpresent
      rw [hhas] at hpresent
      exact hfollows.allowed c hpresent
    · intro c hpresent hne d hd
      rw [hhas] at hpresent ⊢
      exact hfollows.supported c hpresent hne d hd

theorem coherent_of_follows {b : Builder} {k : Kind} {rules : KindRules} (hk : b.kind = some k)
    (hrules : b.table.rules? k = some rules) (h : b.Follows rules) : b.Coherent := by
  constructor
  · intro hnone
    rw [hk] at hnone
    rcases hnone with hnone | hcustom
    · cases hnone
    · cases hcustom
      cases hrules
  · intro k' rules' hk' hrules'
    rw [hk] at hk'
    cases hk'
    rw [hrules] at hrules'
    cases hrules'
    exact h

/-- A clause that starts a statement finds none, and makes one that follows its rules. -/
theorem Coherent.start {b : Builder} (h : b.Coherent) (lawful : b.table.Lawful) {c : Clause}
    {k : Kind} (hc : b.table.startedBy? c = some k) (hk : b.kind = none) (w : Writing) :
    (b.extend c w).Coherent := by
  obtain ⟨rules, hrules, hestablishing⟩ := RuleTable.exists_of_startedBy? hc
  have hkind : (b.extend c w).kind = some k := kind_extend_of_starts hc w
  -- Without a kind there is no clause yet, so the new one is the only one.
  have honly : ∀ d, (b.extend c w).has d = true → d = c := by
    intro d hd
    simpa [has_extend, h.empty (.inl hk) d] using hd
  apply coherent_of_follows hkind hrules
  constructor
  · simp [has_extend, hestablishing]
  · intro d hd _
    rw [honly d hd, hestablishing]
  · intro d hd
    rw [honly d hd, ← hestablishing]
    exact (lawful k rules hrules).1
  · intro d hd hne
    rw [honly d hd, hestablishing] at hne
    exact absurd rfl hne

/-- A clause that a statement of its kind takes is allowed and finds what it needs, and the others
keep what they need. -/
theorem Coherent.follow {b : Builder} (h : b.Coherent) {c : Clause} {k : Kind} {rules : KindRules}
    (hc : b.table.startedBy? c = none) (hk : b.kind = some k)
    (hrules : b.table.rules? k = some rules) (allowed : c ∈ rules.order)
    (supported : ∀ d ∈ rules.prerequisitesOf c, b.has d = true) (w : Writing) :
    (b.extend c w).Coherent := by
  have hkind : (b.extend c w).kind = some k := (kind_extend_of_follows hc w).trans hk
  have hfollows := h.follows k rules hk hrules
  have hcases : ∀ d, (b.extend c w).has d = true → d = c ∨ b.has d = true := by
    intro d hd
    simpa [has_extend] using hd
  apply coherent_of_follows hkind hrules
  constructor
  · exact has_extend_of_has hfollows.started c w
  · intro d hd hstarts
    rcases hcases d hd with rfl | hbefore
    · have hsome : (b.table.startedBy? d).isSome = true := hstarts
      simp [hc] at hsome
    · exact hfollows.alone d hbefore hstarts
  · intro d hd
    rcases hcases d hd with rfl | hbefore
    · exact allowed
    · exact hfollows.allowed d hbefore
  · intro d hd hne e he
    -- What a clause needs was there before the new clause, and nothing is ever taken away.
    apply has_extend_of_has
    rcases hcases d hd with rfl | hbefore
    · exact supported e he
    · exact hfollows.supported d hbefore hne e he

/-- A step keeps a statement coherent. -/
theorem Coherent.step {call : Call} {r : Response} {b b' : Builder} (h : b.Coherent)
    (lawful : b.table.Lawful) (hstep : Step b call r b') : b'.Coherent := by
  cases hstep with
  | @clause _ c w hc legal written =>
    obtain ⟨-, -, hlegal⟩ := legal_of_not_refused legal
    cases hlegal with
    | starts hstart hk => exact h.start lawful hstart hk w
    | follows hstart hk hrules allowed supported =>
      exact h.follow hstart hk hrules allowed supported w
  | append sql fresh => exact h.congr rfl rfl rfl
  | setQuery sql bound fresh hk =>
    -- The kind is new, but it has no rules, and there was no clause before.
    constructor
    · intro _ c
      exact h.empty (.inl hk) c
    · intro k rules hcustom hrules
      cases hcustom
      cases hrules
  | render ha fresh text => exact h.congr rfl rfl rfl
  | again ha kept => exact h

/-! ## Parts -/

namespace Draft

variable {table : RuleTable}

/-- The clauses that are present are the parts that were put down. -/
theorem Agrees.has_iff {d : Draft} {b : Builder} (h : d.Agrees b) (c : Clause) :
    b.has c = true ↔ Part.clause c ∈ d.shape := by
  rw [h.has, textOf?_isSome, decide_eq_true_iff]

/-- Every part was put down once, and a custom statement is one of its kind. -/
structure Single (d : Draft) (b : Builder) : Prop where
  once : d.shape.Nodup
  custom : Part.custom ∈ d.shape → b.kind = some .custom

theorem nodup_append_singleton {shape : List Part} {part : Part} (h : shape.Nodup)
    (hnew : part ∉ shape) : (shape ++ [part]).Nodup := by
  rw [← List.concat_eq_append]
  exact .concat hnew h

/-- A clause is only put down where it is not present, and a custom statement where nothing is. -/
theorem Single.step {calls : List Call} {call : Call} {d d' : Draft} {b b' : Builder}
    {r : Response} (h : d.Single b) (htracks : Tracks table calls d b)
    (hadd : d.add b.table call = .ok d') (hstep : Step b call r b') : d'.Single b' := by
  have hshape := shape_of_add hadd
  constructor
  · rw [hshape]
    cases hstep with
    | @clause _ c w hc legal written =>
      obtain ⟨-, hnew, -⟩ := legal_of_not_refused legal
      rw [part?_of_clause hc]
      apply nodup_append_singleton h.once
      intro hmem
      rw [(htracks.agrees.has_iff c).2 hmem] at hnew
      cases hnew
    | append sql fresh => simpa [Call.part?, Call.clause?] using h.once
    | setQuery sql bound fresh hk =>
      apply nodup_append_singleton h.once
      intro hmem
      rw [h.custom hmem] at hk
      cases hk
    | render ha fresh text => simpa [part?_of_answer ha] using h.once
    | again ha kept => simpa [part?_of_answer ha] using h.once
  · intro hmem
    rw [hshape, List.mem_append] at hmem
    -- A custom part that was there keeps the kind; a new one sets it.
    rcases hmem with hbefore | hnow
    · exact hstep.kind (h.custom hbefore)
    · cases hstep with
      | clause hc legal written => simp [part?_of_clause hc] at hnow
      | append sql fresh => simp [Call.part?, Call.clause?] at hnow
      | setQuery sql bound fresh hk => rfl
      | render ha fresh text => simp [part?_of_answer ha] at hnow
      | again ha kept => simp [part?_of_answer ha] at hnow

/-- The clauses put down, in an order of clauses. -/
def arranged (d : Draft) (order : List Clause) : List (Part × String) :=
  order.filterMap fun c => (d.textOf? (.clause c)).map fun text => (.clause c, text)

theorem mem_arranged {d : Draft} {order : List Clause} {part : Part} {text : String} :
    (part, text) ∈ d.arranged order ↔
      ∃ c ∈ order, d.textOf? (.clause c) = some text ∧ part = .clause c := by
  simp only [arranged, List.mem_filterMap, Option.map_eq_some_iff, Prod.mk.injEq]
  constructor
  · rintro ⟨c, hc, text', htext, rfl, rfl⟩
    exact ⟨c, hc, htext, rfl⟩
  · rintro ⟨c, hc, htext, rfl⟩
    exact ⟨c, hc, text, htext, rfl, rfl⟩

/-- The arranged parts stand in the order of the clauses. -/
theorem sublist_arranged (d : Draft) (order : List Clause) :
    ((d.arranged order).map (·.1)).Sublist (order.map .clause) := by
  induction order with
  | nil => exact .slnil
  | cons c rest ih =>
    -- The next clause is written or, without a text, skipped.
    unfold arranged at ih ⊢
    cases h : d.textOf? (.clause c) with
    | none =>
      simp only [List.filterMap_cons, h, Option.map_none, List.map_cons]
      exact ih.cons _
    | some text =>
      simp only [List.filterMap_cons, h, Option.map_some, List.map_cons]
      exact ih.cons_cons _

/-- Where the order lists every clause that was put down, and none twice, arranging the parts loses
none and repeats none. -/
theorem perm_arranged {d : Draft} {order : List Clause} (once : d.shape.Nodup)
    (hnodup : order.Nodup) (hall : ∀ part ∈ d.shape, ∃ c ∈ order, part = .clause c) :
    (d.arranged order).Perm d.parts := by
  have hinj : Function.Injective Part.clause := by
    intro c c' h
    cases h
    rfl
  have hsorted : ((d.arranged order).map (·.1)).Nodup :=
    (sublist_arranged d order).nodup (List.Nodup.map hinj hnodup)
  have hleft : (d.arranged order).Nodup := List.Nodup.of_map _ hsorted
  have hright : d.parts.Nodup := List.Nodup.of_map _ once
  -- Neither list repeats anything, so it is enough that they have the same members.
  rw [List.perm_ext_iff_of_nodup hleft hright]
  rintro ⟨part, text⟩
  rw [mem_arranged]
  constructor
  · rintro ⟨c, -, htext, rfl⟩
    exact (textOf?_eq_some_iff once).1 htext
  · intro hmem
    -- A part that was put down is a clause, and the order lists it.
    obtain ⟨c, hc, rfl⟩ := hall part (List.mem_map.2 ⟨_, hmem, rfl⟩)
    exact ⟨c, hc, (textOf?_eq_some_iff once).2 hmem, rfl⟩

/-- The builder renders the texts of the arranged parts. -/
theorem fragments_eq {d : Draft} {b : Builder} (h : d.Agrees b) (order : List Clause) :
    b.fragments order = (d.arranged order).map (·.2) := by
  unfold fragments arranged
  rw [List.map_filterMap]
  congr 1
  funext c
  rw [h.clauses, Option.map_map]
  simp [Function.comp_def]

end Draft

/-! ## Rendering -/

/-- A statement of a kind renders exactly if it holds what the rules require. -/
theorem render_eq_ok_iff {b : Builder} {k : Kind} {rules : KindRules} {sql : String}
    (hk : b.kind = some k) (hrules : b.table.rules? k = some rules) :
    b.render = .ok sql ↔ (∀ c ∈ rules.required, b.has c = true) ∧
      sql = String.join (b.fragments rules.order) ++ b.appended.getD "" := by
  simp only [render, hk, hrules]
  by_cases hall : rules.required.all b.has = true
  · have hrequired : ∀ c ∈ rules.required, b.has c = true := List.all_eq_true.1 hall
    simp only [if_pos hall, Except.map, Except.ok.injEq]
    exact ⟨fun h => ⟨hrequired, h.symm⟩, fun h => h.2.symm⟩
  · have hmissing : ¬ ∀ c ∈ rules.required, b.has c = true := fun h => hall (List.all_eq_true.2 h)
    simp [hall, Except.map, hmissing]

/-- Asking for the statement succeeds exactly if it holds what the rules require, and gives every
part that was put down once, in the order of the rules, with a text behind them. -/
structure Renders (b : Builder) (rules : KindRules) (d : Draft) (behind : String) : Prop where
  isOk_iff : ∀ {call : Call} {answer : Rendered → Answer}, call.answer? = some answer →
    ((b.outcome call).isOk = true ↔ ∀ c ∈ rules.required, b.has c = true)
  arranged : ∀ {call : Call} {answer : Rendered → Answer} {r : Response},
    call.answer? = some answer → b.outcome call = .ok r →
      ∃ parts : List (Part × String), parts.Perm d.parts ∧
        (parts.map (·.1)).Sublist (rules.order.map .clause) ∧
        r.answer = answer ⟨String.join (parts.map (·.2)) ++ behind, d.params, r.events⟩

/-- Every part that was put down is a clause that the kind allows. -/
theorem mem_order_of_mem_shape {calls : List Call} {d : Draft} {b : Builder} {k : Kind}
    {rules : KindRules} (htracks : Draft.Tracks b.table calls d b) (hsingle : d.Single b)
    (hcoherent : b.Coherent) (hk : b.kind = some k) (hrules : b.table.rules? k = some rules) :
    ∀ part ∈ d.shape, ∃ c ∈ rules.order, part = .clause c := by
  intro part hpart
  cases part with
  | clause c =>
    have hpresent : b.has c = true := (htracks.agrees.has_iff c).2 hpart
    exact ⟨c, (hcoherent.follows k rules hk hrules).allowed c hpresent, rfl⟩
  | custom =>
    -- A custom statement has no rules.
    rw [hsingle.custom hpart] at hk
    cases hk
    cases hrules

/-- A coherent statement is rendered as its rules say. -/
theorem renders_of_coherent {calls : List Call} {d : Draft} {b : Builder} {k : Kind}
    {rules : KindRules} (lawful : b.table.Lawful) (htracks : Draft.Tracks b.table calls d b)
    (hsingle : d.Single b) (hcoherent : b.Coherent) (hk : b.kind = some k)
    (hrules : b.table.rules? k = some rules) :
    b.Renders rules d ((lastAppended calls).getD "") := by
  have hall := mem_order_of_mem_shape htracks hsingle hcoherent hk hrules
  constructor
  · intro call answer ha
    constructor
    · intro hok
      cases ho : b.outcome call with
      | error e => simp [ho, Except.isOk, Except.toBool] at hok
      | ok r =>
        obtain ⟨sql, events, hrender, -⟩ := htracks.render_of_outcome ha ho
        exact ((render_eq_ok_iff hk hrules).1 hrender).1
    · intro hrequired
      exact isOk_of_render ha ((render_eq_ok_iff hk hrules).2 ⟨hrequired, rfl⟩)
  · intro call answer r ha ho
    obtain ⟨sql, events, hrender, rfl⟩ := htracks.render_of_outcome ha ho
    obtain ⟨-, rfl⟩ := (render_eq_ok_iff hk hrules).1 hrender
    -- The parts as the order has them are the ones that were put down.
    refine ⟨d.arranged rules.order, ?_, Draft.sublist_arranged d rules.order, ?_⟩
    · exact Draft.perm_arranged hsingle.once (lawful k rules hrules).2 hall
    · rw [Draft.fragments_eq htracks.agrees, htracks.appended, htracks.agrees.params]

/-! ## Runs -/

/-- On a run without failures the statement stays coherent, and every part is put down once. -/
theorem coherent_of_run {table : RuleTable} (lawful : table.Lawful) {calls : List Call}
    {b : Builder} (h : Run (withRules table) calls b) :
    ∃ d, Draft.Tracks table calls d b ∧ d.Single b ∧ b.Coherent := by
  induction h with
  | start =>
    have hsingle : Draft.empty.Single (withRules table) :=
      ⟨List.nodup_nil, by simp [Draft.shape, Draft.empty]⟩
    exact ⟨.empty, ⟨rfl, rfl, Draft.agrees_empty table, rfl, by simp [withRules]⟩, hsingle,
      coherent_withRules table⟩
  | @call calls call b b' r _ hcall ih =>
    obtain ⟨d, htracks, hsingle, hcoherent⟩ := ih
    have hstep : Step b call r b' := apply_eq_ok_iff.1 hcall
    obtain ⟨d', hadd, htracks'⟩ := htracks.step hstep
    have htable : b.table = table := htracks.table_eq
    rw [← htable] at hadd lawful
    exact ⟨d', htracks', hsingle.step htracks hadd hstep, hcoherent.step lawful hstep⟩

/-- Whatever is done with a builder under lawful rules, its clauses are those that its kind allows,
behind what they need, and the kind does not change once it is set. Some calls that are all accepted
lead to it, and whatever calls do, each of them that puts a part down has put it down once and no
other part is there. A statement of a structured kind renders exactly if it has the required
clauses; then it is the parts that these calls put down, each once and in the order of the rules,
with the text appended last behind them. -/
theorem rules_hold_throughout (table : RuleTable) (lawful : table.Lawful) (b : Builder)
    (h : Uses (withRules table) b) :
    b.table = table ∧ b.Coherent ∧
      (∀ k later, b.kind = some k → Uses b later → later.kind = some k) ∧
      (∃ calls, Run (withRules table) calls b) ∧
      ∀ calls, Run (withRules table) calls b →
        ∃ d, Draft.ofCalls table calls = .ok d ∧ d.shape = calls.filterMap Call.part? ∧
          d.shape.Nodup ∧
          (∀ c text, b.clauses c = some text ↔ (Part.clause c, text) ∈ d.parts) ∧
          ∀ k rules, b.kind = some k → table.rules? k = some rules →
            b.Renders rules d ((lastAppended calls).getD "") := by
  obtain ⟨calls, hrun⟩ := run_of_uses h
  obtain ⟨d, htracks, -, hcoherent⟩ := coherent_of_run lawful hrun
  refine ⟨htracks.table_eq, hcoherent, ?kind, ⟨calls, hrun⟩, ?accepted⟩
  case kind =>
    intro k later hk huses
    obtain ⟨more, hmore⟩ := run_of_uses huses
    exact hmore.kind hk
  case accepted =>
    -- Other calls may lead to the same builder, and it holds what they put down just as well.
    intro calls hrun
    obtain ⟨d, htracks, hsingle, -⟩ := coherent_of_run lawful hrun
    refine ⟨d, htracks.draft, Draft.shape_of_ofCalls htracks.draft, hsingle.once, ?_, ?_⟩
    · intro c text
      rw [htracks.agrees.clauses]
      exact Draft.textOf?_eq_some_iff hsingle.once
    · intro k rules hk hrules
      have htable : b.table = table := htracks.table_eq
      subst htable
      exact renders_of_coherent lawful htracks hsingle hcoherent hk hrules

/-- SELECT starts an INSERT, too, and an INSERT may have the clause that starts an UPDATE. -/
def crossed : RuleTable :=
  { RuleTable.standard with
    insert :=
      { establishing := .select
        order := [.fromTables, .update, .select]
        required := [.fromTables]
        prerequisites := [] } }

theorem lawful_crossed : crossed.Lawful := by
  intro k rules hrules
  cases k <;> cases hrules <;> unfold KindRules.Lawful <;> decide

/-- The INSERT follows its rules and is written as they say. The UPDATE was refused, and the calls
that were accepted are all there. -/
theorem crossed_statement_follows_its_rules :
    ∃ b, b = (withRules crossed).afterAll
        [.select .all, .fromTables [.name "t"], .update (.name "u")] ∧
      b.Follows crossed.insert ∧ (b.outcome .statement).isOk = true ∧
      (b.outcome .statement).map (·.answer) = .ok (.text "FROM t SELECT * ") ∧
      ∃ d, Draft.ofCalls crossed [.select .all, .fromTables [.name "t"]] = .ok d ∧
        d.shape = [.clause .select, .clause .fromTables] ∧
        ∀ c text, b.clauses c = some text ↔ (Part.clause c, text) ∈ d.parts := by
  obtain ⟨b, hb⟩ : ∃ b, b = (withRules crossed).afterAll
    [.select .all, .fromTables [.name "t"], .update (.name "u")] := ⟨_, rfl⟩
  have huses : Uses (withRules crossed) b := by
    rw [hb]
    exact uses_afterAll _ _
  have hrun : Run (withRules crossed) [.select .all, .fromTables [.name "t"]] b := by
    rw [hb]
    exact run_accepted (withRules crossed)
      [.select .all, .fromTables [.name "t"], .update (.name "u")]
  have hkind : b.kind = some .insert := by
    rw [hb]
    rfl
  have hrequired : ∀ c ∈ crossed.insert.required, b.has c = true := by
    intro c hc
    cases List.mem_singleton.1 hc
    rw [hb]
    rfl
  obtain ⟨htable, hcoherent, -, -, haccepted⟩ :=
    rules_hold_throughout crossed lawful_crossed b huses
  obtain ⟨d, hdraft, hshape, -, hclauses, hrenders⟩ := haccepted _ hrun
  refine ⟨b, hb, ?follows, ?renders, ?text, d, hdraft, hshape, hclauses⟩
  case follows => exact hcoherent.follows .insert crossed.insert hkind (by rw [htable]; rfl)
  case renders => exact ((hrenders .insert crossed.insert hkind rfl).isOk_iff rfl).2 hrequired
  case text =>
    rw [hb]
    rfl

end Builder

end BoundSql
