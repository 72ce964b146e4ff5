import Mathlib.Data.List.Forall2

/-! Computations that came to an end. A chain of them has a result when each part has one; otherwise
the error is that of its first part without a result. -/
namespace LintGate

section Steps

variable {ε δ α β γ : Type}

@[simp] theorem okBind (a : α) (f : α → Except ε β) : (Except.ok a >>= f) = f a := rfl

@[simp] theorem errorBind (e : ε) (f : α → Except ε β) : (Except.error e >>= f) = .error e := rfl

@[simp] theorem okMap (f : α → β) (a : α) : (Except.ok a : Except ε α).map f = .ok (f a) := rfl

@[simp] theorem errorMap (f : α → β) (e : ε) :
    (Except.error e : Except ε α).map f = .error e := rfl

@[simp] theorem okMapError (f : ε → δ) (a : α) :
    (Except.ok a : Except ε α).mapError f = .ok a := rfl

@[simp] theorem errorMapError (f : ε → δ) (e : ε) :
    (Except.error e : Except ε α).mapError f = .error (f e) := rfl

@[simp] theorem mapSelf (x : Except ε α) : x.map (fun a => a) = x := by
  cases x <;> rfl

@[simp] theorem mapMap (x : Except ε α) (f : α → β) (g : β → γ) :
    (x.map f).map g = x.map (fun a => g (f a)) := by
  cases x <;> rfl

end Steps

theorem bindOk {ε α β : Type} {x : Except ε α} {f : α → Except ε β} {b : β} :
    (x >>= f) = .ok b ↔ ∃ a, x = .ok a ∧ f a = .ok b := by
  cases x with
  | error e => simp
  | ok a => simp

theorem mapOk {ε α β : Type} {f : α → β} {x : Except ε α} {b : β} :
    x.map f = .ok b ↔ ∃ a, x = .ok a ∧ f a = b := by
  cases x with
  | error e => simp
  | ok a => simp

theorem bindError {ε α β : Type} {x : Except ε α} {f : α → Except ε β} {e : ε} :
    (x >>= f) = .error e ↔ x = .error e ∨ ∃ a, x = .ok a ∧ f a = .error e := by
  cases x with
  | error e => simp
  | ok a => simp

theorem mapMEach {ε α β : Type} {f : α → Except ε β} {xs : List α} {ys : List β} :
    xs.mapM f = .ok ys ↔ List.Forall₂ (fun x y => f x = .ok y) xs ys := by
  induction xs generalizing ys with
  | nil =>
    rw [List.mapM_nil, List.forall₂_nil_left_iff]
    exact ⟨fun ok => (Except.ok.inj ok).symm, fun empty => congrArg Except.ok empty.symm⟩
  | cons x xs ih =>
    rw [List.mapM_cons, bindOk]
    constructor
    · rintro ⟨head, first, ok⟩
      obtain ⟨tail, rest, last⟩ := bindOk.mp ok
      cases last
      exact .cons first (ih.mp rest)
    · rintro (_ | ⟨first, rest⟩)
      exact ⟨_, first, bindOk.mpr ⟨_, ih.mpr rest, rfl⟩⟩

theorem mapMOk {ε α β : Type} {f : α → Except ε β} {xs : List α} :
    (∃ ys, xs.mapM f = .ok ys) ↔ ∀ x ∈ xs, ∃ y, f x = .ok y := by
  simp only [mapMEach]
  induction xs with
  | nil => simp
  | cons x xs ih =>
    simp only [List.forall₂_cons_left_iff, List.forall_mem_cons, ← ih]
    constructor
    · rintro ⟨_, y, ys, first, rest, rfl⟩
      exact ⟨⟨y, first⟩, ys, rest⟩
    · rintro ⟨⟨y, first⟩, ys, rest⟩
      exact ⟨y :: ys, y, ys, first, rest, rfl⟩

theorem mapMFirstError {ε α β : Type} {f : α → Except ε β} {xs : List α} {e : ε} :
    xs.mapM f = .error e ↔ ∃ before x behind, xs = before ++ x :: behind ∧
      (∀ y ∈ before, ∃ z, f y = .ok z) ∧ f x = .error e := by
  constructor
  · intro failed
    induction xs with
    | nil => cases failed
    | cons x xs ih =>
      rw [List.mapM_cons] at failed
      rcases bindError.mp failed with here | ⟨y, first, failed⟩
      · exact ⟨[], x, xs, rfl, by simp, here⟩
      · rcases bindError.mp failed with later | ⟨ys, -, last⟩
        · obtain ⟨before, z, behind, rfl, good, bad⟩ := ih later
          exact ⟨x :: before, z, behind, rfl, List.forall_mem_cons.mpr ⟨⟨y, first⟩, good⟩, bad⟩
        · cases last
  · rintro ⟨before, x, behind, rfl, good, bad⟩
    induction before with
    | nil =>
      rw [List.nil_append, List.mapM_cons]
      exact bindError.mpr (.inl bad)
    | cons y before ih =>
      obtain ⟨⟨z, first⟩, good⟩ := List.forall_mem_cons.mp good
      rw [List.cons_append, List.mapM_cons]
      exact bindError.mpr (.inr ⟨z, first, bindError.mpr (.inl (ih good))⟩)

theorem mapMSource {ε α β : Type} {f : α → Except ε β} {xs : List α} {ys : List β}
    (ok : xs.mapM f = .ok ys) {y : β} (member : y ∈ ys) : ∃ x ∈ xs, f x = .ok y := by
  have each := mapMEach.mp ok
  clear ok
  induction each with
  | nil => exact absurd member List.not_mem_nil
  | cons first rest ih =>
    rcases List.mem_cons.mp member with rfl | later
    · exact ⟨_, List.mem_cons_self, first⟩
    · obtain ⟨source, inside, same⟩ := ih later
      exact ⟨source, List.mem_cons_of_mem _ inside, same⟩

end LintGate
