import Mathlib.Data.List.Nodup
import Mathlib.Data.List.Perm.Subperm
import BoundSql.Proofs.OrderedBindings

/-!
# The search for a free name

A value whose column is bound already goes under the column with a number behind it. The search is a
loop over names: as long as the name at hand is bound, it gives way to the column with the next
number. Nothing in the loop counts down. It ends because the names that are tried are distinct and
all of them but the last are bound, so that there are no more of them than bindings.

Main statement: `fresh_name_is_the_first_free_one`. One step of the loop is `Search.next?`; by
`exists_search` the fresh name is where the loop ends, and by `Search.Leads.names` the names on the
way are those of the sequence.
-/

namespace BoundSql.Params

/-! ## The names that are tried -/

/-- The names that are tried, one after another: the column alone, and then the column with one
number after another from `counter` on. -/
def candidate (column : String) (counter : Nat) : Nat → String
  | 0 => column
  | k + 1 => suffixed column (counter + k)

/-- A column may end in digits itself, but no name is tried twice. -/
theorem candidate_injective (column : String) (counter : Nat) :
    Function.Injective (candidate column counter) := by
  intro j k h
  cases j with
  | zero =>
    cases k with
    | zero => rfl
    | succ k => exact absurd h.symm (suffixed_ne_self column _)
  | succ j =>
    cases k with
    | zero => exact absurd h (suffixed_ne_self column _)
    | succ k =>
      have := suffixed_inj.1 h
      omega

/-! ## The loop -/

/-- A search under way: the name at hand, and the number that is tried next. -/
structure Search where
  name : String
  counter : Nat

namespace Search

/-- A name that is bound gives way to the column with the next number. A free name ends the
search. -/
def next? (p : Params) (column : String) (s : Search) : Option Search :=
  if p.contains (placeholder s.name) then some ⟨suffixed column s.counter, s.counter + 1⟩ else none

/-- The search leads from one name to another in so many steps. -/
inductive Leads (p : Params) (column : String) : Search → Nat → Search → Prop where
  | here (s : Search) : Leads p column s 0 s
  | step {s t u : Search} {steps : Nat} (first : s.next? p column = some t)
    (others : Leads p column t steps u) : Leads p column s (steps + 1) u

variable {p : Params} {column : String}

theorem next?_of_mem {s : Search} (h : s.name ∈ Pairs.names p.entries) :
    s.next? p column = some ⟨suffixed column s.counter, s.counter + 1⟩ := by
  have hbound : p.contains (placeholder s.name) = true := by
    rw [contains, get?_placeholder, Pairs.find?_isSome_iff]
    exact h
  rw [next?, if_pos hbound]

theorem next?_eq_none_iff {s : Search} :
    s.next? p column = none ↔ s.name ∉ Pairs.names p.entries := by
  constructor
  · intro h hmem
    rw [next?_of_mem hmem] at h
    cases h
  · intro h
    have hfree : ¬ p.contains (placeholder s.name) = true := by
      rw [contains, get?_placeholder, Pairs.find?_isSome_iff]
      exact h
    rw [next?, if_neg hfree]

/-- From the name number `k` on, the search tries the names that follow it, and all that it leaves
behind are bound. -/
theorem Leads.names {counter k steps : Nat} {s t : Search} (h : Leads p column s steps t)
    (hs : s = ⟨candidate column counter k, counter + k⟩) :
    t = ⟨candidate column counter (k + steps), counter + (k + steps)⟩ ∧
      ∀ j, k ≤ j → j < k + steps → candidate column counter j ∈ Pairs.names p.entries := by
  induction h generalizing k with
  | here s =>
    refine ⟨hs, ?_⟩
    intro j hk hj
    omega
  | @step s t u steps first others ih =>
    have hbound : s.name ∈ Pairs.names p.entries := by
      by_contra hfree
      rw [next?_eq_none_iff.2 hfree] at first
      cases first
    rw [next?_of_mem hbound, Option.some.injEq] at first
    have ht : t = ⟨candidate column counter (k + 1), counter + (k + 1)⟩ := by
      rw [← first, hs]
      rfl
    obtain ⟨hu, hothers⟩ := ih ht
    have hsteps : k + 1 + steps = k + (steps + 1) := by omega
    rw [hsteps] at hu hothers
    refine ⟨hu, ?_⟩
    intro j hk hj
    rcases Nat.eq_or_lt_of_le hk with rfl | hlater
    · rw [hs] at hbound
      exact hbound
    · exact hothers j hlater hj

/-- The names that the search leaves behind are distinct, and all of them are bound. -/
theorem Leads.steps_le_size {counter steps : Nat} {t : Search}
    (h : Leads p column ⟨column, counter⟩ steps t) : steps ≤ p.size := by
  obtain ⟨-, hbound⟩ := h.names (k := 0) rfl
  have hdistinct : ((List.range steps).map (candidate column counter)).Nodup :=
    List.nodup_range.map (candidate_injective column counter)
  have hnames : (List.range steps).map (candidate column counter) ⊆ Pairs.names p.entries := by
    intro name hname
    obtain ⟨k, hk, rfl⟩ := List.mem_map.1 hname
    exact hbound k (Nat.zero_le k) (by simpa using hk)
  have hlength := (List.subperm_of_subset hdistinct hnames).length_le
  simpa [Pairs.names, size] using hlength

end Search

/-! ## Fresh names -/

/-- The search for a fresh name strikes the names that it has tried from the list of taken ones.
That makes no difference, as none of them comes again: it ends where the loop over the bindings
ends. -/
theorem exists_search (p : Params) (column : String) {taken : List String} {name : String}
    {counter : Nat} (hnew : ∀ n, counter ≤ n → name ≠ suffixed column n)
    (hname : name ∈ taken ↔ name ∈ Pairs.names p.entries)
    (htaken : ∀ n, counter ≤ n →
      (suffixed column n ∈ taken ↔ suffixed column n ∈ Pairs.names p.entries)) :
    ∃ steps, Search.Leads p column ⟨name, counter⟩ steps
        ⟨(freshName taken column name counter).1, (freshName taken column name counter).2⟩ ∧
      (freshName taken column name counter).1 ∉ Pairs.names p.entries := by
  fun_induction freshName taken column name counter with
  | case1 taken name counter hmem ih =>
    have hlater : ∀ n, counter + 1 ≤ n → suffixed column counter ≠ suffixed column n := by
      intro n hn h
      have := suffixed_inj.1 h
      omega
    have hkept : ∀ n, counter ≤ n → (suffixed column n ∈ taken.erase name ↔
        suffixed column n ∈ Pairs.names p.entries) := by
      intro n hn
      rw [List.mem_erase_of_ne (hnew n hn).symm]
      exact htaken n hn
    obtain ⟨steps, hsearch, hfree⟩ := ih hlater (hkept counter (Nat.le_refl counter))
      fun n hn => hkept n (Nat.le_of_succ_le hn)
    exact ⟨steps + 1, .step (Search.next?_of_mem (hname.1 hmem)) hsearch, hfree⟩
  | case2 taken name counter hmem =>
    exact ⟨0, .here _, fun h => hmem (hname.2 h)⟩

/-- Whatever is bound, the search for a fresh name ends, after at most as many steps as there are
bindings. The name is the first one that is free of the column and the column with one number after
another; the counter goes on by as many numbers as were tried. The value is bound under that name
behind all bindings, which stay as they are. -/
theorem fresh_name_is_the_first_free_one (p : Params) (column : String) (value : Value)
    (counter : Nat) :
    let fresh := p.bindFresh column value counter
    ∃ steps ≤ p.size,
      Search.Leads p column ⟨column, counter⟩ steps ⟨fresh.name, fresh.counter⟩ ∧
      Search.next? p column ⟨fresh.name, fresh.counter⟩ = none ∧
      fresh.name = candidate column counter steps ∧
      (∀ k < steps, p.contains (placeholder (candidate column counter k)) = true) ∧
      p.contains (placeholder (candidate column counter steps)) = false ∧
      fresh.counter = counter + steps ∧
      fresh.params.toList = p.toList ++ [(placeholder fresh.name, value)] := by
  intro fresh
  have hcolumn : ∀ n, counter ≤ n → column ≠ suffixed column n :=
    fun n _ => (suffixed_ne_self column n).symm
  obtain ⟨steps, hsearch, hfree⟩ :=
    exists_search p column hcolumn Iff.rfl fun n _ => Iff.rfl
  obtain ⟨hend, hbound⟩ := hsearch.names (k := 0) rfl
  rw [Nat.zero_add] at hend hbound
  have hname : fresh.name = candidate column counter steps := congrArg Search.name hend
  have hcounter : fresh.counter = counter + steps := congrArg Search.counter hend
  have hcontains (name : String) :
      p.contains (placeholder name) = true ↔ name ∈ Pairs.names p.entries := by
    rw [contains, get?_placeholder, Pairs.find?_isSome_iff]
  refine ⟨steps, hsearch.steps_le_size, hsearch, Search.next?_eq_none_iff.2 hfree, hname, ?_, ?_,
    hcounter, ?_⟩
  · intro k hk
    exact (hcontains _).2 (hbound k (Nat.zero_le k) hk)
  · rw [← Bool.not_eq_true, hcontains, ← hname]
    exact hfree
  · show marked (p.entries ++ [(fresh.name, value)]) = _
    simp [marked, toList]

/-- A column that ends in a digit, with names that look like it with numbers behind it. -/
example : candidate "a1" 1 2 = "a12" ∧
    ((ofList [("a1", .null), ("a11", .null), ("a111", .null)]).bindFresh "a1" (.int 5) 1).name =
      "a12" := by
  decide +kernel

end BoundSql.Params
