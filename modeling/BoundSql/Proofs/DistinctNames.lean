import Mathlib.Data.List.Nodup
import BoundSql.Proofs.Collapse

/-!
# Distinct names

Where names are distinct, binding pairs is appending them, and every pair is found under its own
name. The columns of a row are distinct once it has been made ready for binding.

Main statements: `entries_bindAll_marked`, `get?_bindAll_marked`, `finds_entries`,
`nodup_of_bindable`.
-/

namespace BoundSql

/-! ## Bindings -/

namespace Params

/-- Binding a row whose columns are new appends it. -/
theorem entries_bindAll_marked {row : Pairs Value} {p : Params}
    (h : (Pairs.names (p.entries ++ row)).Nodup) :
    (p.bindAll (marked row)).entries = p.entries ++ row := by
  rw [entries_bindAll, bare_marked, Pairs.putAll_of_nodup h]

/-- Collecting a row with distinct columns gives the row. -/
theorem entries_ofList_marked {row : Pairs Value} (h : (Pairs.names row).Nodup) :
    (ofList (marked row)).entries = row :=
  entries_bindAll_marked h

/-- Distinct names have distinct placeholders. -/
theorem nodup_placeholders (p : Params) : p.placeholders.Nodup := by
  have hmap : p.placeholders = (Pairs.names p.entries).map placeholder := by
    simp [placeholders, Pairs.names]
  rw [hmap]
  exact List.Nodup.map (fun _ _ => placeholder_inj.1) p.distinct

/-- A name is looked up under its placeholder. -/
theorem get?_placeholder (p : Params) (name : String) :
    p.get? (placeholder name) = Pairs.find? name p.entries := by
  rw [get?, bareName_placeholder]

/-- Binding a row gives its columns their values and leaves every other name as it was. -/
theorem get?_bindAll_marked {row : Pairs Value} (h : (Pairs.names row).Nodup) (p : Params)
    (name : String) :
    (p.bindAll (marked row)).get? (placeholder name) =
      (Pairs.find? name row).or (p.get? (placeholder name)) := by
  rw [get?_placeholder, get?_placeholder, entries_bindAll, bare_marked, Pairs.find?_putAll,
    Pairs.find?_reverse h]

/-- A collected row gives its columns their values. -/
theorem get?_ofList_marked {row : Pairs Value} (h : (Pairs.names row).Nodup) (name : String) :
    (ofList (marked row)).get? (placeholder name) = Pairs.find? name row := by
  rw [get?_placeholder, entries_ofList_marked h]

/-- Every value is found under the placeholder of its name. -/
def Finds (p : Params) (pairs : Pairs Value) : Prop :=
  ∀ pair ∈ pairs, p.get? (placeholder pair.1) = some pair.2

theorem Finds.of_append_left {p : Params} {ps qs : Pairs Value} (h : p.Finds (ps ++ qs)) :
    p.Finds ps :=
  fun pair hpair => h pair (List.mem_append_left _ hpair)

theorem Finds.of_append_right {p : Params} {ps qs : Pairs Value} (h : p.Finds (ps ++ qs)) :
    p.Finds qs :=
  fun pair hpair => h pair (List.mem_append_right _ hpair)

/-- Every binding is found under its own placeholder. -/
theorem finds_entries (p : Params) : p.Finds p.entries := by
  intro pair hpair
  rw [get?_placeholder]
  exact Pairs.find?_of_mem p.distinct hpair

end Params

/-! ## Rows -/

namespace RowData

/-- Collecting keeps the columns distinct. -/
theorem nodup_of_collect {c : Clause} {pairs acc row : Pairs Value} (hd : (Pairs.names acc).Nodup)
    (h : collect c pairs acc = .ok row) : (Pairs.names row).Nodup := by
  rw [collect_eq] at h
  split at h
  · cases h
  · cases h
    exact Pairs.nodup_names_putAll hd _

/-- The columns to write are distinct. -/
theorem nodup_of_bindable {data : RowData} {c : Clause} {row : Pairs Value}
    (h : data.bindable c = .ok row) : (Pairs.names row).Nodup := by
  rw [bindable] at h
  split at h
  · cases h
  · rename_i pairs hpairs
    split at h
    · cases h
    · cases h
    · rename_i kept hcollect
      cases h
      have hnil : (Pairs.names ([] : Pairs Value)).Nodup := List.nodup_nil
      exact nodup_of_collect hnil hcollect

end RowData

end BoundSql
