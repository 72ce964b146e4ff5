import Mathlib.Data.List.Induction

/-! Histories, judged from their end. What an entry brought about is still there when no later
entry has put an end to it. -/
namespace LintGate.History

variable {α : Type} {ends counts : α → Prop}

/- Some entry counts, and nothing behind it ends what came before. -/
def Since (ends counts : α → Prop) (history : List α) : Prop :=
  ∃ before entry behind, history = before ++ entry :: behind ∧ counts entry ∧
    ∀ later ∈ behind, ¬ ends later

theorem sinceNil : ¬ Since ends counts [] := by
  rintro ⟨before, entry, behind, split, -⟩
  exact List.append_ne_nil_of_right_ne_nil before (List.cons_ne_nil entry behind) split.symm

theorem sinceSnoc {history : List α} {last : α} :
    Since ends counts (history ++ [last]) ↔
      counts last ∨ Since ends counts history ∧ ¬ ends last := by
  constructor
  · rintro ⟨before, entry, behind, split, counted, quiet⟩
    -- the entry is the last one, or the last one is the end of what is behind it
    rcases List.eq_nil_or_concat behind with rfl | ⟨others, final, rfl⟩
    · obtain ⟨-, same⟩ := List.append_inj' split rfl
      cases same
      exact .inl counted
    · rw [List.concat_eq_append, ← List.cons_append, ← List.append_assoc] at split
      obtain ⟨rfl, same⟩ := List.append_inj' split rfl
      cases same
      refine .inr ⟨⟨before, entry, others, rfl, counted, fun later inside => ?_⟩, ?_⟩
      · exact quiet later (by simp [inside])
      · exact quiet last (by simp)
  · rintro (counted | ⟨⟨before, entry, behind, rfl, counted, quiet⟩, lasts⟩)
    · exact ⟨history, last, [], rfl, counted, by simp⟩
    · refine ⟨before, entry, behind ++ [last], by simp, counted, fun later inside => ?_⟩
      rcases List.mem_append.mp inside with inside | inside
      · exact quiet later inside
      · exact List.mem_singleton.mp inside ▸ lasts

theorem sinceMem {history : List α} (quiet : ∀ entry ∈ history, ¬ ends entry) :
    Since ends counts history ↔ ∃ entry ∈ history, counts entry := by
  constructor
  · rintro ⟨before, entry, behind, rfl, counted, -⟩
    exact ⟨entry, by simp, counted⟩
  · rintro ⟨entry, inside, counted⟩
    obtain ⟨before, behind, rfl⟩ := List.append_of_mem inside
    refine ⟨before, entry, behind, rfl, counted, fun later inBehind => ?_⟩
    exact quiet later (by simp [inBehind])

/- Where each entry brings a property about, ends it or keeps it, a whole history does so by its
last word. -/
theorem sinceFold {σ : Type} {step : σ → α → σ} {start : σ} (holds : σ → Prop)
    (fresh : ¬ holds start)
    (one : ∀ state entry, holds (step state entry) ↔ counts entry ∨ holds state ∧ ¬ ends entry)
    (history : List α) : holds (history.foldl step start) ↔ Since ends counts history := by
  induction history using List.reverseRecOn with
  | nil => exact iff_of_false fresh sinceNil
  | append_singleton history last ih =>
    rw [List.foldl_append, List.foldl_cons, List.foldl_nil, one, sinceSnoc, ih]

end LintGate.History
