import LintGate.Named
import Mathlib.Data.List.Sort

/-! What is found under a name. In a list in the order of its names no name comes twice, so the list
is known by what is found under each name, and two lists are merged name by name. -/
namespace LintGate.Named

variable {α : Type}

theorem lookupOther {name other : String} (distinct : other ≠ name) (value : α)
    (rest : List (String × α)) : ((name, value) :: rest).lookup other = rest.lookup other := by
  rw [List.lookup_cons, beq_false_of_ne distinct]

theorem lookupAbsent {entries : List (String × α)} {name : String}
    (absent : name ∉ entries.map Prod.fst) : entries.lookup name = none := by
  rw [List.lookup_eq_none_iff]
  intro e inside
  have distinct : name ≠ e.1 := fun same => absent (List.mem_map.mpr ⟨e, inside, same.symm⟩)
  simpa using distinct

theorem lookupBelow {entries : List (String × α)} {name : String}
    (below : ∀ e ∈ entries, name < e.1) : entries.lookup name = none := by
  refine lookupAbsent (fun listed => ?_)
  obtain ⟨e, inside, same⟩ := List.mem_map.mp listed
  exact String.lt_irrefl name (same ▸ below e inside)

theorem lookupDistinct {entries : List (String × α)} (distinct : (entries.map Prod.fst).Nodup)
    {name : String} {value : α} : entries.lookup name = some value ↔ (name, value) ∈ entries := by
  induction entries with
  | nil => simp
  | cons head rest ih =>
    obtain ⟨first, found⟩ := head
    obtain ⟨fresh, later⟩ := List.nodup_cons.mp distinct
    by_cases same : name = first
    · subst same
      have absent : (name, value) ∉ rest := fun inside => fresh (List.mem_map.mpr ⟨_, inside, rfl⟩)
      simp [absent, eq_comm]
    · rw [lookupOther same, ih later, List.mem_cons, Prod.mk.injEq]
      simp [same]

theorem lookupMem {entries : List (String × α)} (ascending : Ascending entries) {name : String}
    {value : α} : entries.lookup name = some value ↔ (name, value) ∈ entries := by
  refine lookupDistinct (List.pairwise_map.mpr (ascending.imp (fun below same => ?_)))
  exact String.lt_irrefl _ (same ▸ below)

theorem lookupFilter (keep : String → Bool) (entries : List (String × α)) (name : String) :
    (entries.filter (fun e => keep e.1)).lookup name =
      if keep name then entries.lookup name else none := by
  induction entries with
  | nil => simp
  | cons head rest ih =>
    obtain ⟨first, value⟩ := head
    by_cases same : name = first
    · subst same
      cases kept : keep name <;> simp [kept, ih]
    · rw [lookupOther same, ← ih, List.filter_cons]
      split
      · exact lookupOther same value _
      · rfl

theorem unique {xs ys : List (String × α)} (left : Ascending xs) (right : Ascending ys)
    (same : ∀ name, xs.lookup name = ys.lookup name) : xs = ys := by
  have antisymm : Std.Antisymm (fun a b : String × α => a.1 < b.1) :=
    ⟨fun _ _ ab ba => absurd ba (String.lt_asymm ab)⟩
  have irrefl : Std.Irrefl (fun a b : String × α => a.1 < b.1) := ⟨fun a => String.lt_irrefl a.1⟩
  refine left.eq_of_mem_iff right (fun e => ?_)
  rw [← lookupMem left, ← lookupMem right, same]

/- The order is needed for a name that is put before its successor: it is nowhere behind. -/
theorem lookupUpsert {entries : List (String × α)} (ascending : Ascending entries) (name : String)
    (fresh : α) (change : α → α) (other : String) :
    (upsert name fresh change entries).lookup other =
      if other = name then some ((entries.lookup name).elim fresh change)
      else entries.lookup other := by
  induction entries with
  | nil =>
    by_cases same : other = name
    · simp [upsert, same]
    · rw [if_neg same]
      exact lookupOther same _ []
  | cons head rest ih =>
    obtain ⟨first, value⟩ := head
    obtain ⟨above, later⟩ := List.pairwise_cons.mp ascending
    unfold upsert
    split
    · rename_i below
      have absent : ((first, value) :: rest).lookup name = none := by
        refine lookupBelow (fun e inside => ?_)
        rcases List.mem_cons.mp inside with rfl | inside
        · exact below
        · exact String.lt_trans below (above e inside)
      by_cases same : other = name
      · simp [same, absent]
      · rw [if_neg same, lookupOther same]
    · split
      · rename_i found
        subst found
        by_cases same : other = name
        · simp [same]
        · rw [if_neg same, lookupOther same, lookupOther same]
      · rename_i distinct
        rw [lookupOther distinct, List.lookup_cons, List.lookup_cons, ih later]
        by_cases same : other = name
        · simp [same, beq_false_of_ne distinct]
        · simp [same]

def merge (join : α → α → α) (xs ys : List (String × α)) : List (String × α) :=
  ys.foldl (fun entries e => upsert e.1 e.2 (join · e.2) entries) xs

theorem mergeAscending {join : α → α → α} {xs : List (String × α)} (ascending : Ascending xs)
    (ys : List (String × α)) : Ascending (merge join xs ys) := by
  induction ys generalizing xs with
  | nil => exact ascending
  | cons head rest ih => exact ih (upsertAscending ascending)

theorem lookupMerge (join : α → α → α) {xs ys : List (String × α)} (left : Ascending xs)
    (right : Ascending ys) (name : String) :
    (merge join xs ys).lookup name = Option.merge join (xs.lookup name) (ys.lookup name) := by
  induction ys generalizing xs with
  | nil => exact Option.merge_none_right.symm
  | cons head rest ih =>
    obtain ⟨first, value⟩ := head
    obtain ⟨above, later⟩ := List.pairwise_cons.mp right
    rw [merge, List.foldl_cons]
    refine (ih (upsertAscending left) later).trans ?_
    rw [lookupUpsert left]
    by_cases same : name = first
    · subst same
      rw [if_pos rfl, lookupBelow above, List.lookup_cons_self]
      cases xs.lookup name <;> rfl
    · rw [if_neg same, lookupOther same]

end LintGate.Named
