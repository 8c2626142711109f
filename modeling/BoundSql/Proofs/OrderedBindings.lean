import BoundSql.Proofs.DistinctNames

/-!
# Bindings as an ordered map

Bindings are shown under canonical names: a name that starts with the marker stands for itself, and
any other name stands for itself with the marker in front. As they are shown, bindings are an
ordered map by canonical names: looking a name up is looking up its canonical form, and every
operation is one on plain pairs, in which a name that is present keeps its place and a new one goes
last.

Main statement: `bindings_are_an_ordered_map`. It rests on `Operation.toList_apply`, which says what
an operation does to the bindings as they are shown, and on `Params.ext_of_get?`: bindings are
determined by their names in order and by what is found under each.
-/

namespace BoundSql

/-! ## Canonical names -/

/-- The name with a marker in front. A name that starts with one stays as it is. -/
def canonicalName (name : String) : String :=
  if name.toList.head? = some ':' then name else placeholder name

/-- Taking a marker off and putting one in front gives the canonical name. -/
theorem placeholder_bareName (name : String) :
    placeholder (bareName name) = canonicalName name := by
  unfold bareName canonicalName
  split
  · rename_i rest h
    -- The marker that was taken off is put in front again.
    rw [h, List.head?_cons, if_pos rfl, ← String.toList_inj, h]
    simp [placeholder]
  · rename_i h
    have hhead : name.toList.head? ≠ some ':' := by
      intro hhead
      obtain ⟨rest, hrest⟩ := List.head?_eq_some_iff.1 hhead
      exact h rest hrest
    rw [if_neg hhead]

/-- A placeholder starts with the marker. -/
theorem head?_placeholder (name : String) : (placeholder name).toList.head? = some ':' := by
  simp [placeholder]

/-! ## Pairs -/

namespace Pairs

variable {α : Type}

/-- Pairs of distinct names are determined by the names and by what is found under each. -/
theorem eq_of_find? {ps qs : Pairs α} (hd : (names ps).Nodup) (hnames : names ps = names qs)
    (hfind : ∀ name, find? name ps = find? name qs) : ps = qs := by
  induction ps generalizing qs with
  | nil =>
    cases qs with
    | nil => rfl
    | cons q qs => cases hnames
  | cons p ps ih =>
    cases qs with
    | nil => cases hnames
    | cons q qs =>
      obtain ⟨name, value⟩ := p
      obtain ⟨name', value'⟩ := q
      rw [names_cons, names_cons, List.cons.injEq] at hnames
      obtain ⟨rfl, htails⟩ := hnames
      rw [names_cons, List.nodup_cons] at hd
      have hvalue : some value = some value' := by simpa [find?] using hfind name
      -- The first name is found in neither tail; any other name is not found in front of them.
      have hrest : ∀ other, find? other ps = find? other qs := by
        intro other
        by_cases hother : name = other
        · subst hother
          rw [find?_of_not_mem hd.1, find?_of_not_mem (htails ▸ hd.1)]
        · simpa [find?, hother] using hfind other
      rw [Option.some.inj hvalue, ih hd.2 htails hrest]

end Pairs

theorem marked_cons (pair : String × Value) (ps : Pairs Value) :
    marked (pair :: ps) = (placeholder pair.1, pair.2) :: marked ps := rfl

theorem names_marked (ps : Pairs Value) :
    Pairs.names (marked ps) = (Pairs.names ps).map placeholder := by
  simp [marked, Pairs.names]

/-- Under the placeholder of a name stands what stands under the name. -/
theorem find?_marked (name : String) (ps : Pairs Value) :
    Pairs.find? (placeholder name) (marked ps) = Pairs.find? name ps := by
  induction ps with
  | nil => rfl
  | cons p ps ih =>
    rw [marked_cons, Pairs.find?, Pairs.find?, ih]
    simp only [placeholder_inj]

/-- Putting a value under the placeholder of a name is putting it under the name. -/
theorem put_marked (name : String) (value : Value) (ps : Pairs Value) :
    Pairs.put (placeholder name) value (marked ps) = marked (Pairs.put name value ps) := by
  induction ps with
  | nil => rfl
  | cons p ps ih =>
    rw [marked_cons, Pairs.put, Pairs.put, ih]
    simp only [placeholder_inj]
    split <;> rfl

/-! ## Bindings -/

namespace Params

/-- Pairs put one after another under their canonical names. -/
def putAll (shown pairs : Pairs Value) : Pairs Value :=
  pairs.foldl (fun shown (name, value) => Pairs.put (canonicalName name) value shown) shown

/-- The placeholders are the names under which bindings are shown. -/
theorem placeholders_eq_names (p : Params) : p.placeholders = Pairs.names p.toList := by
  rw [toList, names_marked]
  simp [placeholders, Pairs.names]

/-- Looking a name up is looking up its canonical form in what is shown. -/
theorem get?_eq_find? (p : Params) (name : String) :
    p.get? name = Pairs.find? (canonicalName name) p.toList := by
  rw [← placeholder_bareName, toList, find?_marked, get?]

/-- A name is bound exactly if its canonical form is shown. -/
theorem contains_eq_decide (p : Params) (name : String) :
    p.contains name = decide (canonicalName name ∈ p.placeholders) := by
  rw [Bool.eq_iff_iff, decide_eq_true_iff, contains, get?_eq_find?, Pairs.find?_isSome_iff,
    placeholders_eq_names]

/-- Binding puts the value under the canonical name. -/
theorem toList_bind (p : Params) (name : String) (value : Value) :
    (p.bind name value).toList = Pairs.put (canonicalName name) value p.toList := by
  rw [← placeholder_bareName, toList, toList, put_marked, bind]

/-- Binding pairs one after another puts them under their canonical names. -/
theorem toList_bindAll (p : Params) (pairs : List (String × Value)) :
    (p.bindAll pairs).toList = putAll p.toList pairs := by
  induction pairs generalizing p with
  | nil => rfl
  | cons pair pairs ih =>
    show ((p.bind pair.1 pair.2).bindAll pairs).toList = _
    rw [ih, toList_bind]
    rfl

/-- A binding changes what is found under its own name, whatever marker it is given with. -/
theorem get?_bind (p : Params) (name : String) (value : Value) (other : String) :
    (p.bind name value).get? other =
      if canonicalName other = canonicalName name then some value else p.get? other := by
  rw [get?_eq_find?, get?_eq_find?, toList_bind]
  split
  · rename_i h
    rw [h, Pairs.find?_put_self]
  · rename_i h
    rw [Pairs.find?_put_of_ne h]

/-- A name that is bound keeps its place, and a new one goes last. -/
theorem placeholders_bind (p : Params) (name : String) (value : Value) :
    (p.bind name value).placeholders =
      if canonicalName name ∈ p.placeholders then p.placeholders
      else p.placeholders ++ [canonicalName name] := by
  rw [placeholders_eq_names, toList_bind, Pairs.names_put, placeholders_eq_names]

/-- Bindings with the same names in order and the same values under them are the same. -/
theorem ext_of_get? {p q : Params} (hnames : p.placeholders = q.placeholders)
    (hget : ∀ name, p.get? name = q.get? name) : p = q := by
  apply ext
  apply Pairs.eq_of_find? p.distinct
  · -- the marker is the same in front of every name, so that it can be taken off
    rw [placeholders_eq_names, placeholders_eq_names, toList, toList, names_marked,
      names_marked] at hnames
    exact List.map_injective_iff.2 (fun _ _ => placeholder_inj.1) hnames
  · intro name
    rw [← get?_placeholder, ← get?_placeholder, hget]

/-! ## Merging -/

/-- Merging prefers what is bound in the second bindings. -/
theorem get?_merge (a b : Params) (name : String) :
    (a.merge b).get? name = (b.get? name).or (a.get? name) := by
  -- only the bare name counts, so that it can be looked up under its own marker
  have hname (p : Params) : p.get? name = p.get? (placeholder (bareName name)) := by
    rw [get?_placeholder, get?]
  rw [hname, hname a, merge, toList, get?_bindAll_marked b.distinct]
  rfl

/-- Binding pairs of distinct names puts the new ones last, in their order. -/
theorem placeholders_bindAll {pairs : List (String × Value)} (hd : (Pairs.names pairs).Nodup)
    (hcanonical : ∀ name ∈ Pairs.names pairs, canonicalName name = name) (p : Params) :
    (p.bindAll pairs).placeholders =
      p.placeholders ++ (Pairs.names pairs).filter (· ∉ p.placeholders) := by
  induction pairs generalizing p with
  | nil => simp [bindAll]
  | cons pair pairs ih =>
    obtain ⟨name, value⟩ := pair
    rw [Pairs.names_cons, List.nodup_cons] at hd
    have hname : canonicalName name = name := hcanonical name List.mem_cons_self
    have hrest : ∀ other ∈ Pairs.names pairs, canonicalName other = other :=
      fun other hother => hcanonical other (.tail _ hother)
    show ((p.bind name value).bindAll pairs).placeholders = _
    rw [ih hd.2 hrest, placeholders_bind, hname, Pairs.names_cons]
    -- a name that is bound adds nothing; a new one is added, and then counts as bound
    by_cases hmem : name ∈ p.placeholders
    · rw [if_pos hmem, List.filter_cons_of_neg (by simpa using hmem)]
    · rw [if_neg hmem, List.filter_cons_of_pos (by simpa using hmem), List.append_assoc]
      -- Behind the new name, that name itself does not come again.
      have hagree : (Pairs.names pairs).filter (· ∉ p.placeholders ++ [name]) =
          (Pairs.names pairs).filter (· ∉ p.placeholders) := by
        apply List.filter_congr
        intro other hother
        have hne : other ≠ name := fun h => hd.1 (h ▸ hother)
        simp [hne]
      rw [hagree]
      rfl

/-- Merging puts the new names of the second bindings last, in their order. -/
theorem placeholders_merge (a b : Params) :
    (a.merge b).placeholders =
      a.placeholders ++ b.placeholders.filter (· ∉ a.placeholders) := by
  have hd : (Pairs.names b.toList).Nodup := by
    rw [← placeholders_eq_names]
    exact b.nodup_placeholders
  -- what is shown is under canonical names already
  have hcanonical : ∀ name ∈ Pairs.names b.toList, canonicalName name = name := by
    intro name hname
    rw [toList, names_marked] at hname
    obtain ⟨bare, -, rfl⟩ := List.mem_map.1 hname
    rw [canonicalName, if_pos (head?_placeholder bare)]
  rw [merge, placeholders_bindAll hd hcanonical, ← placeholders_eq_names]

/-- Merging is associative: the last value wins, and the first place. -/
theorem merge_assoc (a b c : Params) : (a.merge b).merge c = a.merge (b.merge c) := by
  apply ext_of_get?
  · simp only [placeholders_merge, List.filter_append, List.filter_filter, List.append_assoc]
    congr 2
    apply List.filter_congr
    intro name _
    by_cases ha : name ∈ a.placeholders <;> simp [ha]
  · intro name
    simp only [get?_merge, Option.or_assoc]

theorem merge_empty (p : Params) : p.merge empty = p := rfl

/-- Collecting what is shown gives the bindings back. -/
theorem ofList_toList (p : Params) : ofList p.toList = p :=
  ext (entries_ofList_marked p.distinct)

/-- Merging into no bindings gives the bindings. -/
theorem empty_merge (p : Params) : empty.merge p = p :=
  ofList_toList p

/-! ## Operations -/

/-- What can be done with bindings. -/
inductive Operation where
  | bind (name : String) (value : Value)
  | merge (other : Params)
  /-- The bindings are replaced by those that the pairs make alone. -/
  | collect (pairs : List (String × Value))
  | bindFresh (column : String) (value : Value) (counter : Nat)
  | clear

namespace Operation

/-- The bindings after an operation. -/
def apply : Operation → Params → Params
  | .bind name value, p => p.bind name value
  | .merge other, p => p.merge other
  | .collect pairs, _ => ofList pairs
  | .bindFresh column value counter, p => (p.bindFresh column value counter).params
  | .clear, _ => empty

/-- An operation on plain pairs under canonical names. A fresh name is one that no pair has once
its marker is taken off. -/
def onShown : Operation → Pairs Value → Pairs Value
  | .bind name value, shown => Pairs.put (canonicalName name) value shown
  | .merge other, shown => putAll shown other.toList
  | .collect pairs, _ => putAll [] pairs
  | .bindFresh column value counter, shown =>
    let taken := (Pairs.names shown).map bareName
    shown ++ [(placeholder (freshName taken column column counter).1, value)]
  | .clear, _ => []

/-- An operation is the one on plain pairs, seen in the bindings as they are shown. -/
theorem toList_apply (o : Operation) (p : Params) : (o.apply p).toList = o.onShown p.toList := by
  cases o with
  | bind name value => exact p.toList_bind name value
  | merge other => exact p.toList_bindAll other.toList
  | collect pairs => exact empty.toList_bindAll pairs
  | bindFresh column value counter =>
    have htaken : (Pairs.names p.toList).map bareName = Pairs.names p.entries := by
      rw [toList, names_marked, List.map_map]
      simp [Function.comp_def]
    simp only [onShown, htaken]
    simp [apply, Params.bindFresh, toList, marked]
  | clear => rfl

end Operation

/-- The bindings after operations one after another, from none on. -/
def afterAll (operations : List Operation) : Params :=
  operations.foldl (fun p o => o.apply p) empty

/-- What is shown after any operations is what the same operations make of plain pairs. -/
theorem toList_afterAll (operations : List Operation) :
    (afterAll operations).toList = operations.foldl (fun shown o => o.onShown shown) [] := by
  -- The induction needs every starting point, as the first operation moves it.
  have hrun : ∀ p : Params, (operations.foldl (fun p o => o.apply p) p).toList =
      operations.foldl (fun shown o => o.onShown shown) p.toList := by
    induction operations with
    | nil => exact fun p => rfl
    | cons o operations ih =>
      intro p
      rw [List.foldl_cons, List.foldl_cons, ih, o.toList_apply]
  exact hrun empty

/-- After any operations the bindings are shown as the same operations on plain pairs make them:
under distinct names, each with the marker. What is found under a name, and whether it is bound, is
a matter of its canonical form. A binding changes its own name alone, which keeps its place if it is
there and goes last if it is new. Merging prefers the values of the second bindings and puts their
new names last in their order; it is associative and has the empty bindings as its unit. Collecting
what is shown gives the bindings back. -/
theorem bindings_are_an_ordered_map :
    (∀ operations : List Operation,
      (afterAll operations).toList = operations.foldl (fun shown o => o.onShown shown) [] ∧
        (∀ name ∈ (afterAll operations).placeholders, name.toList.head? = some ':') ∧
        (afterAll operations).placeholders.Nodup) ∧
    (∀ (p : Params) (name : String),
      p.get? name = Pairs.find? (canonicalName name) p.toList ∧
        p.contains name = decide (canonicalName name ∈ p.placeholders)) ∧
    (∀ (p : Params) (name : String) (value : Value),
      (∀ other, (p.bind name value).get? other =
        if canonicalName other = canonicalName name then some value else p.get? other) ∧
      (p.bind name value).placeholders =
        if canonicalName name ∈ p.placeholders then p.placeholders
        else p.placeholders ++ [canonicalName name]) ∧
    (∀ a b : Params,
      (∀ name, (a.merge b).get? name = (b.get? name).or (a.get? name)) ∧
      (a.merge b).placeholders =
        a.placeholders ++ b.placeholders.filter (· ∉ a.placeholders)) ∧
    (∀ a b c : Params, (a.merge b).merge c = a.merge (b.merge c)) ∧
    (∀ p : Params, empty.merge p = p ∧ p.merge empty = p ∧ ofList p.toList = p) := by
  refine ⟨?_, ?_, ?_, ?_, merge_assoc, ?_⟩
  · intro operations
    refine ⟨toList_afterAll operations, ?_, nodup_placeholders _⟩
    intro name hname
    obtain ⟨pair, -, rfl⟩ := List.mem_map.1 hname
    exact head?_placeholder pair.1
  · intro p name
    exact ⟨p.get?_eq_find? name, p.contains_eq_decide name⟩
  · intro p name value
    exact ⟨p.get?_bind name value, p.placeholders_bind name value⟩
  · intro a b
    exact ⟨a.get?_merge b, a.placeholders_merge b⟩
  · intro p
    exact ⟨p.empty_merge, p.merge_empty, p.ofList_toList⟩

/-- Names with no marker, one and two of them, and no name at all. -/
def markedAlike : List Operation :=
  [.bind "x" (.int 1), .bind "::x" (.int 2), .bind "" (.int 3), .bind ":x" (.int 4),
    .bindFresh "x" (.int 5) 0, .bindFresh ":x" (.int 6) 0]

theorem only_one_marker_is_taken_off :
    (afterAll markedAlike).toList =
        [(":x", .int 4), ("::x", .int 2), (":", .int 3), (":x0", .int 5), ("::x0", .int 6)] ∧
      "::x0" ∈ (afterAll markedAlike).placeholders ∧ "::x0".toList.head? = some ':' := by
  obtain ⟨-, hmarked, -⟩ := bindings_are_an_ordered_map.1 markedAlike
  have hmem : "::x0" ∈ (afterAll markedAlike).placeholders := by decide +kernel
  exact ⟨by decide +kernel, hmem, hmarked _ hmem⟩

end Params

end BoundSql
