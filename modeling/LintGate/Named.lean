/-! Named values in the order of their names. -/
namespace LintGate.Named

variable {α : Type}

def Ascending (entries : List (String × α)) : Prop := entries.Pairwise (fun a b => a.1 < b.1)

def upsert (name : String) (fresh : α) (change : α → α) : List (String × α) → List (String × α)
  | [] => [(name, fresh)]
  | (other, value) :: rest =>
    if name < other then (name, fresh) :: (other, value) :: rest
    else if name = other then (other, change value) :: rest
    else (other, value) :: upsert name fresh change rest

theorem upsertNames {name : String} {fresh : α} {change : α → α} {entries : List (String × α)}
    {other : String} :
    other ∈ (upsert name fresh change entries).map Prod.fst ↔
      other = name ∨ other ∈ entries.map Prod.fst := by
  induction entries with
  | nil => simp [upsert]
  | cons head rest ih =>
    unfold upsert
    split
    · simp
    · split
      · rename_i same
        simp [same]
      · rw [List.map_cons, List.mem_cons, ih, List.map_cons, List.mem_cons]
        exact or_left_comm

theorem upsertAscending {name : String} {fresh : α} {change : α → α}
    {entries : List (String × α)} (ascending : Ascending entries) :
    Ascending (upsert name fresh change entries) := by
  induction entries with
  | nil => exact List.pairwise_singleton _ _
  | cons head rest ih =>
    obtain ⟨above, later⟩ := List.pairwise_cons.mp ascending
    unfold upsert
    split
    · rename_i below
      refine List.pairwise_cons.mpr ⟨fun e inside => ?_, ascending⟩
      rcases List.mem_cons.mp inside with rfl | inside
      · exact below
      · exact String.lt_trans below (above e inside)
    · split
      · exact List.pairwise_cons.mpr ⟨above, later⟩
      · rename_i notBelow distinct
        refine List.pairwise_cons.mpr ⟨fun e inside => ?_, ih later⟩
        rcases upsertNames.mp (List.mem_map_of_mem inside) with same | known
        · have behind : head.1 ≤ name := String.not_lt.mp notBelow
          exact same ▸ Std.lt_of_le_of_ne behind (fun eq => distinct eq.symm)
        · obtain ⟨d, inRest, same⟩ := List.mem_map.mp known
          exact same ▸ above d inRest

end LintGate.Named
