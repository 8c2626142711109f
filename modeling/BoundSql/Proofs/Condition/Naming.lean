import Mathlib.Data.List.TakeWhile
import BoundSql.Proofs.Condition.Bound
import BoundSql.Proofs.DistinctNames

/-!
# Names for the values of a condition

Compiling walks through a condition depth first and from left to right, and stops at the first
defect. The comparisons reached by then are bound one after another, each behind all bindings that
are there: under its bare column if that is free, else under the column with a number that is
greater than every number handed out before.

Main statement: `compile_binds_what_is_reached`. It rests on `compileFrom_visits`, which turns the
walk through the tree into a list, and on `exists_placed_addAll`, an induction over that list.
-/

namespace BoundSql

/-! ## The walk through a condition -/

/-- A comparison of a condition. -/
structure Comparison where
  column : String
  operator : String
  value : Value
deriving DecidableEq

/-- What is met on the way through a condition. A group that has members is no stop by itself. -/
inductive Visit where
  | comparison (x : Comparison)
  | emptyGroup (connective : Connective)

namespace Visit

/-- What is wrong with what is met. -/
def defect? : Visit → Option ConditionDefect
  | comparison x =>
    if Text.isBlank x.column then some .blankColumn
    else if Text.isBlank x.operator then some (.blankOperator x.column)
    else none
  | emptyGroup connective => some (.emptyGroup connective)

/-- The comparison that is met, if it is one. -/
def comparison? : Visit → Option Comparison
  | comparison x => some x
  | emptyGroup _ => none

/-- The first defect that is met. -/
def firstDefect? (visits : List Visit) : Option ConditionDefect :=
  visits.findSome? defect?

/-- The comparisons that are met before the first defect. -/
def reached (visits : List Visit) : List Comparison :=
  (visits.takeWhile (·.defect?.isNone)).filterMap comparison?

theorem firstDefect?_append (vs ws : List Visit) :
    firstDefect? (vs ++ ws) = (firstDefect? vs).or (firstDefect? ws) :=
  List.findSome?_append

theorem all_isNone_iff {visits : List Visit} :
    (∀ v ∈ visits, v.defect?.isNone = true) ↔ firstDefect? visits = none := by
  simp [firstDefect?, List.findSome?_eq_none_iff]

/-- Without a defect the whole way is walked. -/
theorem reached_of_no_defect {visits : List Visit} (h : firstDefect? visits = none) :
    reached visits = visits.filterMap comparison? := by
  rw [reached, List.takeWhile_eq_self_iff.2 (all_isNone_iff.2 h)]

/-- Behind a way without a defect the next one is walked, too. -/
theorem reached_append_of_no_defect {vs : List Visit} (h : firstDefect? vs = none)
    (ws : List Visit) : reached (vs ++ ws) = reached vs ++ reached ws := by
  rw [reached, List.takeWhile_append_of_pos (all_isNone_iff.2 h), List.filterMap_append,
    reached_of_no_defect h, reached]

/-- Behind a defect nothing is reached. -/
theorem reached_append_of_defect {vs : List Visit} {defect : ConditionDefect}
    (h : firstDefect? vs = some defect) (ws : List Visit) : reached (vs ++ ws) = reached vs := by
  obtain ⟨v, hmem, hv⟩ := List.exists_of_findSome?_eq_some h
  -- The visit with the defect is not among those taken.
  have hstop : (vs.takeWhile (·.defect?.isNone)).length ≠ vs.length := by
    intro hlength
    have hall := List.takeWhile_eq_self_iff.1
      ((List.takeWhile_prefix _).eq_of_length hlength) v hmem
    simp [hv] at hall
  rw [reached, List.takeWhile_append, if_neg hstop, reached]

end Visit

namespace Condition

mutual

/-- What is met on the way through a condition, depth first and from left to right. -/
def visits : Condition → List Visit
  | .compare column operator value => [.comparison ⟨column, operator, value⟩]
  | .group connective [] => [.emptyGroup connective]
  | .group _ (first :: rest) => first.visits ++ visitsEach rest

/-- What is met on the way through conditions one after another. -/
def visitsEach : List Condition → List Visit
  | [] => []
  | c :: rest => c.visits ++ visitsEach rest

end

/-- All comparisons of a condition, depth first and from left to right. -/
def comparisons (c : Condition) : List Comparison :=
  c.visits.filterMap Visit.comparison?

theorem filterMap_visitsEach (cs : List Condition) :
    (visitsEach cs).filterMap Visit.comparison? = cs.flatMap comparisons := by
  induction cs with
  | nil => rfl
  | cons c rest ih => rw [visitsEach, List.filterMap_append, ih, List.flatMap_cons, comparisons]

/-- A group has the comparisons of its members. -/
theorem mem_comparisons_group {connective : Connective} {members : List Condition}
    {x : Comparison} :
    x ∈ (group connective members).comparisons ↔ ∃ c ∈ members, x ∈ c.comparisons := by
  rw [← List.mem_flatMap, ← filterMap_visitsEach]
  cases members with
  | nil => rfl
  | cons first rest => rfl

/-! ## Binding what is reached -/

namespace Bindings

/-- Binds the value of a comparison under a name that is free. -/
def add (b : Bindings) (x : Comparison) : Bindings :=
  let fresh := b.params.bindFresh x.column x.value b.counter
  ⟨fresh.params, fresh.counter⟩

/-- Binds the values of comparisons one after another. -/
def addAll (b : Bindings) (xs : List Comparison) : Bindings :=
  xs.foldl add b

theorem addAll_append (b : Bindings) (xs ys : List Comparison) :
    b.addAll (xs ++ ys) = (b.addAll xs).addAll ys :=
  List.foldl_append

end Bindings

/-- A walk gives a text if it meets no defect, else the first defect; either way the comparisons
reached are bound one after another. -/
def Follows {α : Type} (out : Compiled α) (visits : List Visit) (b : Bindings) : Prop :=
  out.bindings = b.addAll (Visit.reached visits) ∧
    match Visit.firstDefect? visits with
    | none => ∃ text, out.result = .ok text
    | some defect => out.result = .error defect

/-- A comparison alone is bound and written, unless its column or its operator is blank. -/
theorem compileCompare_follows (column operator : String) (value : Value) (b : Bindings) :
    Follows (compileCompare column operator value b) [.comparison ⟨column, operator, value⟩] b := by
  cases hcolumn : Text.isBlank column <;> cases hoperator : Text.isBlank operator <;>
    simp [Follows, compileCompare, Visit.firstDefect?, Visit.reached, Visit.defect?,
      Visit.comparison?, Bindings.addAll, Bindings.add, hcolumn, hoperator]

/-- What follows the walk through the first of several conditions and through the rest. -/
theorem compileEach_cons_follows {c : Condition} {rest : List Condition} {b : Bindings}
    (hfirst : Follows (c.compileFrom b) c.visits b)
    (hrest : ∀ b, Follows (compileEach rest b) (visitsEach rest) b) :
    Follows (compileEach (c :: rest) b) (c.visits ++ visitsEach rest) b := by
  obtain ⟨hbindings, hresult⟩ := hfirst
  cases hdefect : Visit.firstDefect? c.visits with
  | some defect =>
    -- The walk stops within the first condition.
    rw [hdefect] at hresult
    constructor
    · rw [compileEach, hresult, Visit.reached_append_of_defect hdefect]
      exact hbindings
    · rw [Visit.firstDefect?_append, hdefect, compileEach, hresult]
      rfl
  | none =>
    rw [hdefect] at hresult
    -- The first condition is written, and the walk goes on with the bindings that it left.
    obtain ⟨text, hresult⟩ := hresult
    obtain ⟨hbindings', hresult'⟩ := hrest (c.compileFrom b).bindings
    constructor
    · rw [compileEach, hresult, Visit.reached_append_of_no_defect hdefect,
        Bindings.addAll_append, ← hbindings]
      exact hbindings'
    · rw [Visit.firstDefect?_append, hdefect, compileEach, hresult, Option.none_or]
      cases hdefect' : Visit.firstDefect? (visitsEach rest) with
      | some defect =>
        rw [hdefect'] at hresult'
        simp only [hresult', Except.map]
      | none =>
        rw [hdefect'] at hresult'
        obtain ⟨texts, hresult'⟩ := hresult'
        exact ⟨text :: texts, by simp only [hresult', Except.map]⟩

mutual

/-- Compiling follows the walk through the condition. -/
theorem compileFrom_visits (c : Condition) (b : Bindings) :
    Follows (c.compileFrom b) c.visits b := by
  match c with
  | .compare column operator value =>
    exact compileCompare_follows column operator value b
  | .group connective [] =>
    exact ⟨rfl, rfl⟩
  | .group connective (first :: rest) =>
    obtain ⟨hbindings, hresult⟩ := compileEach_cons_follows (compileFrom_visits first b)
      (compileEach_visits rest)
    -- A group only puts the texts of its members together.
    have htexts : ((group connective (first :: rest)).compileFrom b).result =
        (compileEach (first :: rest) b).result.map (groupText connective) := rfl
    refine ⟨hbindings, ?_⟩
    rw [visits, htexts]
    cases hdefect : Visit.firstDefect? (first.visits ++ visitsEach rest) with
    | some defect =>
      rw [hdefect] at hresult
      simp only [hresult, Except.map]
    | none =>
      rw [hdefect] at hresult
      obtain ⟨texts, hresult⟩ := hresult
      exact ⟨groupText connective texts, by simp only [hresult, Except.map]⟩

/-- Compiling conditions one after another follows the walk through them. -/
theorem compileEach_visits (cs : List Condition) (b : Bindings) :
    Follows (compileEach cs b) (visitsEach cs) b := by
  match cs with
  | [] => exact ⟨rfl, [], rfl⟩
  | c :: rest =>
    exact compileEach_cons_follows (compileFrom_visits c b) (compileEach_visits rest)

end

/-- The conditions in which no defect is met are the complete ones. -/
theorem firstDefect?_visits_eq_none_iff (c : Condition) :
    Visit.firstDefect? c.visits = none ↔ c.Complete := by
  obtain ⟨-, hresult⟩ := compileFrom_visits c ⟨.empty, 0⟩
  rw [← compile_isOk_iff c .empty, compile_fst]
  cases hdefect : Visit.firstDefect? c.visits with
  | some defect =>
    rw [hdefect] at hresult
    rw [hresult]
    simp [Except.isOk, Except.toBool]
  | none =>
    rw [hdefect] at hresult
    obtain ⟨text, hresult⟩ := hresult
    rw [hresult]
    simp [Except.isOk, Except.toBool]

end Condition

/-! ## Names -/

namespace Params

/-- If the candidate is taken, the name found has a number, and the counter goes on behind it. -/
theorem freshName_of_mem {taken : List String} {candidate : String} (h : candidate ∈ taken)
    (column : String) (counter : Nat) :
    ∃ n, counter ≤ n ∧
      freshName taken column candidate counter = (suffixed column n, n + 1) := by
  fun_induction freshName taken column candidate counter with
  | case1 taken candidate counter _ ih =>
    -- Either the next candidate is taken as well, or the search ends with it.
    by_cases hnext : suffixed column counter ∈ taken.erase candidate
    · obtain ⟨n, hn, hfound⟩ := ih hnext
      exact ⟨n, by omega, hfound⟩
    · refine ⟨counter, Nat.le_refl counter, ?_⟩
      rw [freshName, if_neg hnext]
  | case2 taken candidate counter hfree => exact absurd h hfree

end Params

/-- A comparison with the number that follows its column in the name of its placeholder. -/
structure Placement where
  comparison : Comparison
  suffix : Option Nat

namespace Placement

/-- The name that the value is bound to. -/
def name (x : Placement) : String :=
  match x.suffix with
  | none => x.comparison.column
  | some n => Params.suffixed x.comparison.column n

/-- The name with the value. -/
def entry (x : Placement) : String × Value :=
  (x.name, x.comparison.value)

end Placement

/-- Between `p` and `q` comparisons have been bound one after another. -/
structure Placed (p : Params) (placements : List Placement) (q : Params) : Prop where
  /-- What was bound stays in front, and the comparisons are bound behind it in their order. -/
  entries : q.entries = p.entries ++ placements.map Placement.entry
  /-- No name is used twice. -/
  distinct : (Pairs.names (p.entries ++ placements.map Placement.entry)).Nodup
  /-- A comparison is bound under its bare column exactly if that is free at its turn. -/
  bare : ∀ before x after, placements = before ++ x :: after →
    (x.suffix = none ↔
      x.comparison.column ∉ Pairs.names (p.entries ++ before.map Placement.entry))
  /-- The numbers grow from left to right. -/
  increasing : (placements.filterMap (·.suffix)).Pairwise (· < ·)

namespace Condition.Bindings

/-- One comparison goes last. It has a number exactly if its column is taken; the counter is above
that number and never goes back. -/
theorem exists_placement (b : Bindings) (x : Comparison) :
    ∃ suffix : Option Nat,
      (b.add x).params.entries = b.params.entries ++ [Placement.entry ⟨x, suffix⟩] ∧
      (suffix = none ↔ x.column ∉ Pairs.names b.params.entries) ∧
      b.counter ≤ (b.add x).counter ∧
      ∀ n ∈ suffix, b.counter ≤ n ∧ n < (b.add x).counter := by
  by_cases htaken : x.column ∈ Pairs.names b.params.entries
  · obtain ⟨n, hn, hfound⟩ := Params.freshName_of_mem htaken x.column b.counter
    refine ⟨some n, ?_, by simp [htaken], ?_, ?_⟩
    · simp [add, Params.bindFresh, hfound, Placement.entry, Placement.name]
    · simp only [add, Params.bindFresh, hfound]
      omega
    · intro m hm
      cases hm
      simp only [add, Params.bindFresh, hfound]
      omega
  · have hfound : Params.freshName (Pairs.names b.params.entries) x.column x.column b.counter =
        (x.column, b.counter) := by
      rw [Params.freshName, if_neg htaken]
    refine ⟨none, ?_, by simp [htaken], ?_, ?_⟩
    · simp [add, Params.bindFresh, hfound, Placement.entry, Placement.name]
    · simp [add, Params.bindFresh, hfound]
    · intro m hm
      cases hm

/-- Comparisons bound one after another are placed behind what is there, with numbers from the
counter on. -/
theorem exists_placed_addAll (b : Bindings) (xs : List Comparison) :
    ∃ placements : List Placement, placements.map (·.comparison) = xs ∧
      Placed b.params placements (b.addAll xs).params ∧
      ∀ n ∈ placements.filterMap (·.suffix), b.counter ≤ n := by
  induction xs generalizing b with
  | nil =>
    refine ⟨[], rfl, ?_, by simp⟩
    exact {
      entries := by simp [addAll]
      distinct := by simpa using b.params.distinct
      bare := by simp
      increasing := by simp }
  | cons x xs ih =>
    obtain ⟨suffix, hentries, hbare, hcounter, hsuffix⟩ := b.exists_placement x
    obtain ⟨placements, hxs, hplaced, hleast⟩ := ih (b.add x)
    -- What is placed after the first comparison is placed behind it.
    have happend (ps : List Placement) :
        (b.add x).params.entries ++ ps.map Placement.entry =
          b.params.entries ++ (⟨x, suffix⟩ :: ps : List Placement).map Placement.entry := by
      rw [hentries, List.append_assoc]
      rfl
    refine ⟨⟨x, suffix⟩ :: placements, by rw [List.map_cons, hxs], ?_, ?_⟩
    · refine ⟨?_, ?_, ?_, ?_⟩
      · rw [← happend]
        exact hplaced.entries
      · rw [← happend]
        exact hplaced.distinct
      · intro before y after hsplit
        -- Either it is the first one, or it stands behind the first one among the rest.
        cases before with
        | nil =>
          obtain ⟨rfl, -⟩ := List.cons.inj hsplit
          simpa using hbare
        | cons first before =>
          obtain ⟨rfl, hrest⟩ := List.cons.inj hsplit
          rw [← happend]
          exact hplaced.bare before y after hrest
      · cases suffix with
        | none => exact hplaced.increasing
        | some n =>
          -- Later numbers start at the counter that the first one left behind.
          show (n :: placements.filterMap (·.suffix)).Pairwise (· < ·)
          refine List.pairwise_cons.2 ⟨?_, hplaced.increasing⟩
          intro m hm
          have := (hsuffix n rfl).2
          have := hleast m hm
          omega
    · intro n hn
      rw [List.mem_filterMap] at hn
      obtain ⟨y, hy, hyn⟩ := hn
      rcases List.mem_cons.1 hy with rfl | hy
      · exact (hsuffix n hyn).1
      · exact Nat.le_trans hcounter (hleast n (List.mem_filterMap.2 ⟨y, hy, hyn⟩))

end Condition.Bindings

namespace Condition

theorem exists_placed_compile (c : Condition) (p : Params) :
    ∃ placements : List Placement, placements.map (·.comparison) = Visit.reached c.visits ∧
      Placed p placements (c.compile p).2 := by
  obtain ⟨hbindings, -⟩ := compileFrom_visits c ⟨p, 0⟩
  obtain ⟨placements, hreached, hplaced, -⟩ :=
    Bindings.exists_placed_addAll ⟨p, 0⟩ (Visit.reached c.visits)
  rw [← hbindings] at hplaced
  exact ⟨placements, hreached, hplaced⟩

/-- Compiling succeeds on the complete conditions: what was bound stays in front, and behind it
every comparison of the condition binds its value, in order and under a name of its own. Any other
condition is refused with the first defect that is met, and exactly the comparisons met before it
are bound, in the same way. -/
theorem compile_binds_what_is_reached (c : Condition) (p : Params) :
    (c.Complete ∧ (∃ text, (c.compile p).1 = .ok text) ∧
      ∃ placements : List Placement, placements.map (·.comparison) = c.comparisons ∧
        Placed p placements (c.compile p).2) ∨
    (¬ c.Complete ∧ ∃ defect, Visit.firstDefect? c.visits = some defect ∧
      (c.compile p).1 = .error (.badConditionShape defect.message) ∧
      ∃ placements : List Placement, placements.map (·.comparison) = Visit.reached c.visits ∧
        Placed p placements (c.compile p).2) := by
  obtain ⟨-, hresult⟩ := compileFrom_visits c ⟨p, 0⟩
  have hplaced := exists_placed_compile c p
  rw [← firstDefect?_visits_eq_none_iff]
  cases hdefect : Visit.firstDefect? c.visits with
  | some defect =>
    rw [hdefect] at hresult
    refine .inr ⟨by simp, defect, rfl, ?_, hplaced⟩
    rw [compile_fst, hresult]
    rfl
  | none =>
    rw [hdefect] at hresult
    obtain ⟨text, hresult⟩ := hresult
    refine .inl ⟨rfl, ⟨text, by rw [compile_fst, hresult]⟩, ?_⟩
    rw [comparisons, ← Visit.reached_of_no_defect hdefect]
    exact hplaced

/-- A number that makes a name which is a column itself is passed over. -/
example :
    ((all [.eq "id" (.int 1), any [.eq "id0" (.int 2), .eq "id" (.int 3)],
        .eq "id" (.int 4)]).compile .empty).2.entries =
      [("id", .int 1), ("id0", .int 2), ("id1", .int 3), ("id2", .int 4)] := by decide +kernel

end Condition

end BoundSql
