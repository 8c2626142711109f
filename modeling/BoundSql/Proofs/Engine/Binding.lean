import BoundSql.Engine.Memory
import BoundSql.Proofs.OrderedBindings

/-!
# Binding the parameters of a statement

An engine says how many parameters a prepared statement has and what some of them are called. The
bindings are given one after another to the parameters with their names; what counts in the end is
for every parameter whether it has a name and what is bound under that name. A statement runs exactly
if every parameter has a value then.

Main statement: `statement_runs_iff_parameters_are_bound`. It rests on `give_eq_map`, which says what
the bindings make of all parameters together, and on `assign_spec` with the two outcomes.
-/

namespace BoundSql.Engine

namespace Parameters

/-! ## Names -/

/-- No two parameters have the same name. -/
def Distinct (names : Parameters) : Prop :=
  names.Pairwise fun a b => a ≠ none → a ≠ b

/-- A value is bound under the name of a parameter. -/
def Receives (p : Params) (name? : Option String) (value : Value) : Prop :=
  ∃ name, name? = some name ∧ (name, value) ∈ p.toList

/-- A parameter has a name, and a value is bound under it. -/
def IsBound (p : Params) (name? : Option String) : Prop :=
  ∃ value, Receives p name? value

/-- Every parameter has a name under which a value is bound. -/
def Complete (names : Parameters) (p : Params) : Prop :=
  ∀ name? ∈ names, IsBound p name?

/-- The lowest parameter that is not bound is called `text`: by its name or, if it has none, by its
number after a question mark. -/
def FirstUnbound (names : Parameters) (p : Params) (text : String) : Prop :=
  ∃ front name? back, names = front ++ name? :: back ∧ (∀ other ∈ front, IsBound p other) ∧
    ¬ IsBound p name? ∧ text = name?.getD ("?" ++ toString (front.length + 1))

/-- A name stands at one place only. -/
theorem Distinct.eq_of_name {names : Parameters} (h : names.Distinct) {i j : Nat} {name : String}
    (hi : names[i]? = some (some name)) (hj : names[j]? = some (some name)) : i = j := by
  obtain ⟨hi', hi⟩ := List.getElem?_eq_some_iff.1 hi
  obtain ⟨hj', hj⟩ := List.getElem?_eq_some_iff.1 hj
  have hpairs := List.pairwise_iff_getElem.1 h
  -- of two places one comes first, and from there on the name does not come again
  by_contra hne
  rcases Nat.lt_or_gt_of_ne hne with hlt | hlt
  · exact hpairs i j hi' hj' hlt (by rw [hi]; simp) (hi.trans hj.symm)
  · exact hpairs j i hj' hi' hlt (by rw [hj]; simp) (hj.trans hi.symm)

/-- At the index of a name stands that name. -/
theorem getElem?_of_index? {names : Parameters} {name : String} {i : Nat}
    (h : names.index? name = some i) : names[i]? = some (some name) := by
  obtain ⟨hi, hname, -⟩ := List.findIdx?_eq_some_iff_getElem.1 h
  rw [List.getElem?_eq_getElem hi, eq_of_beq hname]

/-- What has no index is the name of no parameter. -/
theorem not_mem_of_index? {names : Parameters} {name : String} (h : names.index? name = none) :
    some name ∉ names := by
  intro hmem
  have hne := List.findIdx?_eq_none_iff.1 h _ hmem
  simp at hne

/-! ## Giving -/

/-- The value that pairs have under the name of a parameter. -/
def given? (pairs : Pairs Value) (name? : Option String) : Option Value :=
  name?.bind fun name => Pairs.find? name pairs

/-- A pair gives nothing to a parameter of another name. -/
theorem given?_cons_of_ne {name : String} {name? : Option String} (h : name? ≠ some name)
    (value : Value) (rest : Pairs Value) : given? ((name, value) :: rest) name? = given? rest name? := by
  cases name? with
  | none => rfl
  | some other =>
    have hne : name ≠ other := fun e => h (e ▸ rfl)
    simp [given?, Pairs.find?, hne]

/-- Giving fills slots and adds none. -/
theorem length_give (names : Parameters) (slots : List (Option Value)) (pairs : Pairs Value) :
    (names.give slots pairs).length = slots.length := by
  induction pairs generalizing slots with
  | nil => rfl
  | cons pair rest ih =>
    rw [give]
    split
    · exact ih slots
    · rw [ih, List.length_set]

/-- Each parameter has what is given under its name, or else what it had. -/
theorem getElem?_give {names : Parameters} (hnames : names.Distinct) {pairs : Pairs Value}
    (hpairs : (Pairs.names pairs).Nodup) (slots : List (Option Value)) {i : Nat}
    {name? : Option String} (hi : names[i]? = some name?) :
    (names.give slots pairs)[i]? = slots[i]?.map (given? pairs name?).or := by
  induction pairs generalizing slots with
  | nil =>
    have hnone : given? [] name? = none := by cases name? <;> rfl
    rw [hnone, give]
    cases slots[i]? <;> rfl
  | cons pair rest ih =>
    obtain ⟨name, value⟩ := pair
    rw [Pairs.names_cons, List.nodup_cons] at hpairs
    rw [give]
    split
    · -- no parameter has this name: the pair is passed over
      rename_i hindex
      have hne : name? ≠ some name := by
        rintro rfl
        exact not_mem_of_index? hindex (List.mem_of_getElem? hi)
      rw [ih hpairs.2, given?_cons_of_ne hne]
    · rename_i j hindex
      have hj := getElem?_of_index? hindex
      rw [ih hpairs.2, List.getElem?_set]
      by_cases hji : j = i
      · -- The name does not come again, so that this value stays.
        subst hji
        cases hi.symm.trans hj
        have hlater : given? rest (some name) = none := Pairs.find?_of_not_mem hpairs.1
        have hnow : given? ((name, value) :: rest) (some name) = some value := by
          simp [given?, Pairs.find?]
        rw [if_pos rfl, hlater, hnow]
        by_cases hlength : j < slots.length <;> simp [hlength]
      · -- another slot: only a later pair can fill it
        have hne : name? ≠ some name := by
          rintro rfl
          exact hji (hnames.eq_of_name hj hi)
        rw [if_neg hji, given?_cons_of_ne hne]

/-- All bindings together give every parameter what is bound under its name. -/
theorem give_eq_map {names : Parameters} (hnames : names.Distinct) {pairs : Pairs Value}
    (hpairs : (Pairs.names pairs).Nodup) :
    names.give (names.map fun _ => none) pairs = names.map (given? pairs) := by
  apply List.ext_getElem?
  intro i
  cases hi : names[i]? with
  | none =>
    have hlength : names.length ≤ i := List.getElem?_eq_none_iff.1 hi
    rw [List.getElem?_eq_none (by simpa [length_give] using hlength),
      List.getElem?_eq_none (by simpa using hlength)]
  | some name? =>
    rw [getElem?_give hnames hpairs _ hi, List.getElem?_map, List.getElem?_map, hi]
    simp

/-! ## Assignment -/

theorem nodup_names_toList (p : Params) : (Pairs.names p.toList).Nodup := by
  rw [← Params.placeholders_eq_names]
  exact p.nodup_placeholders

/-- What a parameter is given is what it receives. -/
theorem given?_eq_some_iff {p : Params} {name? : Option String} {value : Value} :
    given? p.toList name? = some value ↔ Receives p name? value := by
  unfold given? Receives
  rw [Option.bind_eq_some_iff]
  simp only [Pairs.mem_iff_find? (nodup_names_toList p)]

/-- A parameter is given nothing exactly if it is not bound. -/
theorem given?_eq_none_iff {p : Params} {name? : Option String} :
    given? p.toList name? = none ↔ ¬ IsBound p name? := by
  rw [Option.eq_none_iff_forall_not_mem, IsBound, not_exists]
  simp only [Option.mem_def, given?_eq_some_iff]

/-- All slots are filled, or the first empty one is counted. -/
theorem complete_spec (n : Nat) (slots : List (Option Value)) :
    (∃ values : List Value, slots = values.map some ∧ complete n slots = .ok values) ∨
      (∃ (values : List Value) (back : List (Option Value)), slots = values.map some ++ none :: back ∧
        complete n slots = .error (n + values.length)) := by
  induction slots generalizing n with
  | nil => exact .inl ⟨[], rfl, rfl⟩
  | cons slot rest ih =>
    cases slot with
    -- the first empty slot, whatever comes behind it
    | none => exact .inr ⟨[], rest, rfl, rfl⟩
    | some value =>
      rcases ih (n + 1) with ⟨values, hrest, hcomplete⟩ | ⟨values, back, hrest, hcomplete⟩
      · refine .inl ⟨value :: values, by rw [hrest]; rfl, ?_⟩
        rw [complete, hcomplete]
        rfl
      · refine .inr ⟨value :: values, back, by rw [hrest]; rfl, ?_⟩
        rw [complete, hcomplete, List.length_cons, Nat.add_assoc, Nat.add_comm 1]
        rfl

/-- When every slot is filled, each parameter receives the value in its slot. -/
theorem forall₂_receives {names : Parameters} {p : Params} {values : List Value}
    (h : names.map (given? p.toList) = values.map some) :
    List.Forall₂ (Receives p) names values := by
  rw [← List.forall₂_eq_eq_eq, List.forall₂_map_left_iff, List.forall₂_map_right_iff] at h
  exact h.imp fun _ _ => given?_eq_some_iff.1

/-- Parameters that all receive values are all bound. -/
theorem Complete.of_receives {names : Parameters} {p : Params} {values : List Value}
    (h : List.Forall₂ (Receives p) names values) : names.Complete p := by
  induction h with
  | nil => simp [Complete]
  | cons hvalue _ ih => exact List.forall_mem_cons.2 ⟨⟨_, hvalue⟩, ih⟩

/-- A parameter that is not bound leaves the parameters incomplete. -/
theorem FirstUnbound.not_complete {names : Parameters} {p : Params} {text : String}
    (h : names.FirstUnbound p text) : ¬ names.Complete p := by
  obtain ⟨front, name?, back, rfl, -, hunbound, -⟩ := h
  exact fun hcomplete => hunbound (hcomplete name? (by simp))

/-- Every parameter receives a value, or the lowest one without is named. -/
theorem assign_spec {names : Parameters} (hnames : names.Distinct) (p : Params) :
    (∃ values, List.Forall₂ (Receives p) names values ∧ names.assign p = .ok values) ∨
      (∃ text, names.FirstUnbound p text ∧
        names.assign p = .error (.invalidParameterName text)) := by
  have hgive := give_eq_map hnames (nodup_names_toList p)
  rcases complete_spec 1 (names.map (given? p.toList)) with
    ⟨values, hslots, hcomplete⟩ | ⟨values, back, hslots, hcomplete⟩
  · refine .inl ⟨values, forall₂_receives hslots, ?_⟩
    rw [assign, hgive, hcomplete]
    rfl
  · -- The first empty slot belongs to a parameter; those in front of it are bound.
    obtain ⟨front, tail, rfl, hfront, htail⟩ := List.map_eq_append_iff.1 hslots
    obtain ⟨name?, others, rfl, hnone, -⟩ := List.map_eq_cons_iff.1 htail
    have hlength : values.length = front.length := by
      simpa using (congrArg List.length hfront).symm
    refine .inr ⟨_, ⟨front, name?, others, rfl, Complete.of_receives (forall₂_receives hfront),
      given?_eq_none_iff.1 hnone, rfl⟩, ?_⟩
    rw [assign, hgive, hcomplete, hlength, Nat.add_comm 1]
    simp [Except.mapError, label]

/-- Bindings that agree on the names of the parameters are given alike. -/
theorem assign_congr {names : Parameters} (hnames : names.Distinct) {p q : Params}
    (h : ∀ name, some name ∈ names → ∀ value, (name, value) ∈ q.toList ↔ (name, value) ∈ p.toList) :
    names.assign q = names.assign p := by
  have hslots : names.map (given? q.toList) = names.map (given? p.toList) := by
    apply List.map_congr_left
    intro name? hmem
    apply Option.ext
    intro value
    rw [given?_eq_some_iff, given?_eq_some_iff]
    constructor
    · rintro ⟨name, rfl, hvalue⟩
      exact ⟨name, rfl, (h name hmem value).1 hvalue⟩
    · rintro ⟨name, rfl, hvalue⟩
      exact ⟨name, rfl, (h name hmem value).2 hvalue⟩
  rw [assign, assign, give_eq_map hnames (nodup_names_toList q),
    give_eq_map hnames (nodup_names_toList p), hslots]

end Parameters

/-! ## Runs -/

variable {σ τ : Type}

/-- Rows are collected alike whatever state they carry along. -/
theorem Cursor.collect_map (f : σ → τ) (limit : Option Nat) (taken : List (List Cell))
    (cursor : Cursor σ) :
    (cursor.map f).collect limit taken =
      ((cursor.collect limit taken).1, f (cursor.collect limit taken).2) := by
  induction cursor generalizing taken with
  | done state => rfl
  | failed fault state => rfl
  | row cells state rest ih =>
    simp only [map, collect]
    split
    · rfl
    · exact ih _

/-- Keeping a record changes nothing else, and every way of running a statement is recorded once. -/
theorem Statement.run_recording (statement : Statement σ) (values : List Value) (state : σ)
    (runs : List (List Value)) (method : Method) :
    statement.recording.run values (state, runs) method =
      ((statement.run values state method).1,
        (statement.run values state method).2, runs ++ [values]) := by
  cases method with
  | execute => rfl
  | queryMany => simp only [run, fetch, recording, Cursor.collect_map]
  | queryOne => simp only [run, fetch, recording, Cursor.collect_map]

namespace Connection

open Parameters

/-- The values of every run to which a request leads. -/
def runs (c : Connection σ) (method : Method) (sql : String) (p : Params) (state : σ) :
    List (List Value) :=
  (c.recording.database.answer (.run method sql p) (state, [])).state.2

variable {c : Connection σ} {sql : String} {state : σ} {statement : Statement σ}

/-- A connection that keeps a record prepares the same statement. -/
theorem prepare_recording (h : c.prepare sql state = .ok statement) (runs : List (List Value)) :
    c.recording.prepare sql (state, runs) = .ok statement.recording := by
  simp [recording, h, Except.map]

/-- With all parameters bound, the answer is that of the statement. -/
theorem answer_of_ok (hprepare : c.prepare sql state = .ok statement) {p : Params}
    {values : List Value} (h : statement.parameters.assign p = .ok values) (method : Method) :
    c.database.answer (.run method sql p) state = statement.reply values state method := by
  simp [database, bind, hprepare, h, Bind.bind, Except.bind, pure, Except.pure]

/-- With a parameter unbound, the answer is that failure, and the state stays. -/
theorem answer_of_error (hprepare : c.prepare sql state = .ok statement) {p : Params}
    {fault : DatabaseFault} (h : statement.parameters.assign p = .error fault) (method : Method) :
    c.database.answer (.run method sql p) state = ⟨.error (.database fault), state, []⟩ := by
  simp [database, bind, hprepare, h, Bind.bind, Except.bind]

/-- With all parameters bound, the statement runs once. -/
theorem runs_of_ok (hprepare : c.prepare sql state = .ok statement) {p : Params}
    {values : List Value} (h : statement.parameters.assign p = .ok values) (method : Method) :
    c.runs method sql p state = [values] := by
  rw [runs, answer_of_ok (prepare_recording hprepare []) h, Statement.reply,
    Statement.run_recording]
  rfl

/-- With a parameter unbound, nothing runs. -/
theorem runs_of_error (hprepare : c.prepare sql state = .ok statement) {p : Params}
    {fault : DatabaseFault} (h : statement.parameters.assign p = .error fault) (method : Method) :
    c.runs method sql p state = [] := by
  rw [runs, answer_of_error (prepare_recording hprepare []) h]

/-- Bindings that agree on the names of the parameters get the same answer from the same runs. -/
theorem answer_congr (hprepare : c.prepare sql state = .ok statement)
    (hdistinct : statement.parameters.Distinct) (method : Method) {p q : Params}
    (h : ∀ name, some name ∈ statement.parameters → ∀ value,
      (name, value) ∈ q.toList ↔ (name, value) ∈ p.toList) :
    c.database.answer (.run method sql q) state = c.database.answer (.run method sql p) state ∧
      c.runs method sql q state = c.runs method sql p state := by
  have hassign := assign_congr hdistinct h
  cases hp : statement.parameters.assign p with
  | ok values =>
    have hq := hassign.trans hp
    rw [answer_of_ok hprepare hp, answer_of_ok hprepare hq, runs_of_ok hprepare hp,
      runs_of_ok hprepare hq]
    exact ⟨rfl, rfl⟩
  | error fault =>
    have hq := hassign.trans hp
    rw [answer_of_error hprepare hp, answer_of_error hprepare hq, runs_of_error hprepare hp,
      runs_of_error hprepare hq]
    exact ⟨rfl, rfl⟩

/-- A prepared statement runs, and then once, exactly if every parameter has a name under which a
value is bound. Each parameter receives the value under its name, and other bindings make no
difference. Otherwise the lowest parameter that is not bound is named by the failure, nothing runs
and the engine is as it was. The order of the bindings makes no difference. -/
theorem statement_runs_iff_parameters_are_bound
    (hprepare : c.prepare sql state = .ok statement) (hdistinct : statement.parameters.Distinct)
    (method : Method) (p : Params) :
    ((∃ values, c.runs method sql p state = [values]) ↔ statement.parameters.Complete p) ∧
    (∀ values, c.runs method sql p state = [values] →
      List.Forall₂ (Receives p) statement.parameters values ∧
      c.database.answer (.run method sql p) state = statement.reply values state method) ∧
    (¬ statement.parameters.Complete p →
      c.runs method sql p state = [] ∧
      ∃ text, statement.parameters.FirstUnbound p text ∧
        c.database.answer (.run method sql p) state =
          ⟨.error (.database (.invalidParameterName text)), state, []⟩) ∧
    (∀ q : Params, (∀ name, some name ∈ statement.parameters → ∀ value,
        (name, value) ∈ q.toList ↔ (name, value) ∈ p.toList) →
      c.database.answer (.run method sql q) state = c.database.answer (.run method sql p) state ∧
      c.runs method sql q state = c.runs method sql p state) ∧
    (∀ q : Params, q.toList.Perm p.toList →
      c.database.answer (.run method sql q) state = c.database.answer (.run method sql p) state ∧
      c.runs method sql q state = c.runs method sql p state) := by
  have hagree (q : Params) := answer_congr hprepare hdistinct method (p := p) (q := q)
  have hperm (q : Params) (h : q.toList.Perm p.toList) := hagree q fun _ _ _ => h.mem_iff
  rcases assign_spec hdistinct p with ⟨values, hvalues, hassign⟩ | ⟨text, htext, hassign⟩
  · have hcomplete := Complete.of_receives hvalues
    have hruns := runs_of_ok hprepare hassign method
    refine ⟨iff_of_true ⟨values, hruns⟩ hcomplete, ?_, fun h => absurd hcomplete h, hagree, hperm⟩
    intro values' h
    cases hruns.symm.trans h
    exact ⟨hvalues, answer_of_ok hprepare hassign method⟩
  · have hruns := runs_of_error hprepare hassign method
    refine ⟨iff_of_false ?_ htext.not_complete, ?_,
      fun _ => ⟨hruns, text, htext, answer_of_error hprepare hassign method⟩, hagree, hperm⟩
    · rintro ⟨values, h⟩
      cases hruns.symm.trans h
    · intro values h
      cases hruns.symm.trans h

/-- Two parameters, the second of which is bound first. -/
def crossedSelection : Selection :=
  ⟨[":b", ":a"], [some ":b", some ":a"], [[.parameter 0, .parameter 1]]⟩

/-- A parameter with two places, one without a name, and one with a marker that no binding has. -/
def mixedSelection : Selection :=
  ⟨[":b", "?", "@c", ":b"], [some ":b", none, some "@c"],
    [[.parameter 0, .parameter 1, .parameter 2, .parameter 0]]⟩

theorem crossed_runs_and_mixed_is_refused :
    emptyDatabase.database.answer (.run .queryMany "SELECT :b, :a"
        (.ofList [("a", .int 1), (":unused", .null), ("b", .int 2)])) () =
      ⟨.ok [⟨[(":b", .int 2), (":a", .int 1)]⟩], (), []⟩ ∧
    emptyDatabase.database.answer (.run .queryMany "SELECT :b, ?, @c, :b"
        (.ofList [("b", .int 1)])) () =
      ⟨.error (.database (.invalidParameterName "?2")), (), []⟩ := by
  constructor
  · have hselection : Selection.ofText? "SELECT :b, :a" = some crossedSelection := by
      decide +kernel
    have hprepare : emptyDatabase.prepare "SELECT :b, :a" () = .ok crossedSelection.statement := by
      simp [emptyDatabase, hselection]
    have hdistinct : crossedSelection.statement.parameters.Distinct := by
      simp [Distinct, crossedSelection, Selection.statement]
    obtain ⟨hruns, hreceives, -, -, -⟩ := statement_runs_iff_parameters_are_bound hprepare hdistinct
      .queryMany (.ofList [("a", .int 1), (":unused", .null), ("b", .int 2)])
    have hcomplete : crossedSelection.statement.parameters.Complete
        (.ofList [("a", .int 1), (":unused", .null), ("b", .int 2)]) := by
      rintro name? (_ | ⟨_, _ | ⟨_, h⟩⟩)
      · exact ⟨.int 2, ":b", rfl, by decide⟩
      · exact ⟨.int 1, ":a", rfl, by decide⟩
      · cases h
    obtain ⟨values, hvalues⟩ := hruns.2 hcomplete
    obtain ⟨hreceived, hanswer⟩ := hreceives values hvalues
    rw [hanswer]
    have hlist : (Params.ofList [("a", .int 1), (":unused", .null), ("b", .int 2)]).toList =
        [(":a", .int 1), (":unused", .null), (":b", .int 2)] := by decide
    obtain _ | ⟨⟨_, ⟨⟩, hb⟩, _ | ⟨⟨_, ⟨⟩, ha⟩, _ | _⟩⟩ := hreceived
    rw [hlist] at ha hb
    obtain rfl : _ = Value.int 2 := by simpa using hb
    obtain rfl : _ = Value.int 1 := by simpa using ha
    rfl
  · have hselection : Selection.ofText? "SELECT :b, ?, @c, :b" = some mixedSelection := by
      decide +kernel
    have hprepare :
        emptyDatabase.prepare "SELECT :b, ?, @c, :b" () = .ok mixedSelection.statement := by
      simp [emptyDatabase, hselection]
    have hdistinct : mixedSelection.statement.parameters.Distinct := by
      simp [Distinct, mixedSelection, Selection.statement]
    obtain ⟨-, -, hrefused, -, -⟩ := statement_runs_iff_parameters_are_bound hprepare hdistinct
      .queryMany (.ofList [("b", .int 1)])
    have hincomplete : ¬ mixedSelection.statement.parameters.Complete (.ofList [("b", .int 1)]) := by
      intro h
      obtain ⟨_, _, hname, -⟩ := h none (.tail _ (.head _))
      cases hname
    obtain ⟨-, _, ⟨front, name?, back, hnames, hfront, hunbound, rfl⟩, hanswer⟩ :=
      hrefused hincomplete
    rw [hanswer]
    obtain _ | ⟨first, _ | ⟨second, rest⟩⟩ := front
    · cases hnames
      exact absurd ⟨.int 1, ":b", rfl, by decide⟩ hunbound
    · cases hnames
      rfl
    · injection hnames with _ hnames
      injection hnames with hsecond _
      obtain ⟨_, _, hname, -⟩ := hfront second (.tail _ (.head _))
      cases hsecond.trans hname

end Connection

end BoundSql.Engine
