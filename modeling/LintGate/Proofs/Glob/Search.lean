import LintGate.Glob.Match
import Mathlib.Data.List.Forall2

/-! What the search for a match finds, for patterns without `**`: it succeeds exactly when the
whole path can be cut into pieces, one for each token. The three outcomes are facts about these
cuts, and the early end is sound because `exhausted` speaks about all suffixes at once. -/
namespace LintGate.Glob

def Cuts {α : Type} (Stands : α → List Char → Prop) (parts : List α) (path : List Char) : Prop :=
  ∃ pieces, path = pieces.flatten ∧ List.Forall₂ Stands parts pieces

theorem cutsNil {α : Type} {Stands : α → List Char → Prop} {path : List Char} :
    Cuts Stands [] path ↔ path = [] := by
  constructor
  · rintro ⟨pieces, rfl, fits⟩
    cases fits
    rfl
  · rintro rfl
    exact ⟨[], rfl, .nil⟩

theorem cutsCons {α : Type} {Stands : α → List Char → Prop} {part : α} {parts : List α}
    {path : List Char} :
    Cuts Stands (part :: parts) path ↔
      ∃ piece rest, path = piece ++ rest ∧ Stands part piece ∧ Cuts Stands parts rest := by
  constructor
  · rintro ⟨pieces, rfl, fits⟩
    cases fits with
    | cons first later => exact ⟨_, _, rfl, first, _, rfl, later⟩
  · rintro ⟨piece, rest, rfl, first, pieces, rfl, later⟩
    exact ⟨piece :: pieces, rfl, .cons first later⟩

/- What a token stands for; `**` depends on its place and is left out. -/
def Token.Stands (token : Token) (piece : List Char) : Prop :=
  token = .anyRun ∨ ∃ c, piece = [c] ∧ token.takes c = true

theorem cutsOne {token : Token} (one : token ≠ .anyRun) {tokens : List Token} {path : List Char} :
    Cuts Token.Stands (token :: tokens) path ↔
      ∃ c rest, path = c :: rest ∧ token.takes c = true ∧ Cuts Token.Stands tokens rest := by
  rw [cutsCons]
  constructor
  · rintro ⟨piece, rest, rfl, run | ⟨c, rfl, takes⟩, fits⟩
    · exact absurd run one
    · exact ⟨c, rest, rfl, takes, fits⟩
  · rintro ⟨c, rest, rfl, takes, fits⟩
    exact ⟨[c], rest, rfl, .inr ⟨c, rfl, takes⟩, fits⟩

def Outcome.Explains (fits : List Char → Prop) (path : List Char) : Outcome → Prop
  | .matched => fits path
  | .mismatch => ¬ fits path
  | .exhausted => ∀ suffix, suffix <:+ path → ¬ fits suffix

theorem Outcome.matchedIff {fits : List Char → Prop} {path : List Char} {outcome : Outcome}
    (explains : outcome.Explains fits path) : outcome = .matched ↔ fits path := by
  cases outcome with
  | matched => exact iff_of_true rfl explains
  | mismatch => exact iff_of_false Outcome.noConfusion explains
  | exhausted => exact iff_of_false Outcome.noConfusion (explains path List.suffix_rfl)

def Later (fits : List Char → Prop) (path : List Char) : Prop :=
  ∃ suffix, suffix <:+ path ∧ fits suffix

section
variable {fits : List Char → Prop}

theorem laterNone {path : List Char} (none : ∀ suffix, suffix <:+ path → ¬ fits suffix) :
    ∀ suffix, suffix <:+ path → ¬ Later fits suffix := by
  rintro suffix inside ⟨inner, within, fit⟩
  exact none inner (within.trans inside) fit

theorem laterNil {outcome : Outcome} (explains : outcome.Explains fits []) :
    outcome.Explains (Later fits) [] := by
  cases outcome with
  | matched => exact ⟨[], List.suffix_rfl, explains⟩
  | mismatch =>
    rintro ⟨suffix, inside, fit⟩
    rw [List.suffix_nil.mp inside] at fit
    exact explains fit
  | exhausted => exact laterNone explains

theorem laterCons {c : Char} {cs : List Char} {first second : Outcome}
    (here : first.Explains fits (c :: cs)) (there : second.Explains (Later fits) cs) :
    (first.orElse (fun _ => second)).Explains (Later fits) (c :: cs) := by
  have nowhere (unfit : ¬ fits (c :: cs)) (unlater : ¬ Later fits cs) :
      ∀ suffix, suffix <:+ c :: cs → ¬ fits suffix := by
    intro suffix inside fit
    rcases List.suffix_cons_iff.mp inside with rfl | inner
    · exact unfit fit
    · exact unlater ⟨suffix, inner, fit⟩
  cases first with
  | matched => exact ⟨c :: cs, List.suffix_rfl, here⟩
  | exhausted => exact laterNone here
  | mismatch =>
    cases second with
    | matched =>
      obtain ⟨suffix, inside, fit⟩ := there
      exact ⟨suffix, inside.trans (List.suffix_cons c cs), fit⟩
    | mismatch => exact laterNone (nowhere here there) (c :: cs) List.suffix_rfl
    | exhausted => exact laterNone (nowhere here (there cs List.suffix_rfl))

/- A run that may end anywhere is tried at every suffix, the longest first. -/
theorem growExplains {behind : List Char → Outcome}
    (explains : ∀ path, (behind path).Explains fits path) (path : List Char) :
    ((behind path).orElse (fun _ => grow (fun _ => true) behind path)).Explains (Later fits)
      path := by
  induction path with
  | nil =>
    have again : (behind []).orElse (fun _ => behind []) = behind [] := by
      cases behind [] <;> rfl
    rw [grow, again]
    exact laterNil (explains [])
  | cons c cs ih =>
    rw [grow, if_pos rfl]
    exact laterCons (explains (c :: cs)) ih

end

theorem tailSuffix {d c : Char} {rest cs : List Char} (inside : d :: rest <:+ c :: cs) :
    rest <:+ cs := by
  rcases List.suffix_cons_iff.mp inside with same | inner
  · cases same
    exact List.suffix_rfl
  · exact (List.suffix_cons d rest).trans inner

theorem cutsRun {tokens : List Token} {path : List Char} :
    Cuts Token.Stands (.anyRun :: tokens) path ↔ Later (Cuts Token.Stands tokens) path := by
  rw [cutsCons]
  constructor
  · rintro ⟨piece, rest, rfl, -, fits⟩
    exact ⟨rest, List.suffix_append piece rest, fits⟩
  · rintro ⟨suffix, ⟨piece, rfl⟩, fits⟩
    exact ⟨piece, suffix, rfl, .inl rfl, fits⟩

theorem searchRun (tokens : List Token) (path : List Char) :
    search (.anyRun :: tokens) path =
      (search tokens path).orElse (fun _ => grow (fun _ => true) (search tokens) path) := rfl

theorem searchOneExplains {token : Token} (one : token ≠ .anyRun) (single : token.runEnd? = none)
    {tokens : List Token}
    (explains : ∀ path, (search tokens path).Explains (Cuts Token.Stands tokens) path)
    (path : List Char) :
    (search (token :: tokens) path).Explains (Cuts Token.Stands (token :: tokens)) path := by
  cases path with
  | nil =>
    rw [search, single]
    intro suffix inside cut
    obtain ⟨c, rest, shape, -⟩ := (cutsOne one).mp cut
    rw [List.suffix_nil.mp inside] at shape
    cases shape
  | cons c cs =>
    rw [search, single]
    simp only
    split
    · rename_i takes
      have behind := explains cs
      cases found : search tokens cs with
      | matched =>
        rw [found] at behind
        exact (cutsOne one).mpr ⟨c, cs, rfl, takes, behind⟩
      | mismatch =>
        rw [found] at behind
        intro cut
        obtain ⟨d, rest, shape, -, fits⟩ := (cutsOne one).mp cut
        cases shape
        exact behind fits
      | exhausted =>
        rw [found] at behind
        intro suffix inside cut
        obtain ⟨d, rest, rfl, -, fits⟩ := (cutsOne one).mp cut
        exact behind rest (tailSuffix inside) fits
    · rename_i refuses
      intro cut
      obtain ⟨d, rest, shape, takes, -⟩ := (cutsOne one).mp cut
      cases shape
      exact refuses takes

theorem searchExplains {tokens : List Token} (free : .anyDirs ∉ tokens) (path : List Char) :
    (search tokens path).Explains (Cuts Token.Stands tokens) path := by
  induction tokens generalizing path with
  | nil =>
    cases path with
    | nil => exact cutsNil.mpr rfl
    | cons c cs => exact fun cut => List.cons_ne_nil c cs (cutsNil.mp cut)
  | cons token tokens ih =>
    obtain ⟨first, later⟩ := not_or.mp (fun h => free (List.mem_cons.mpr h))
    by_cases run : token = .anyRun
    · subst run
      have same : Cuts Token.Stands (.anyRun :: tokens) = Later (Cuts Token.Stands tokens) :=
        funext (fun _ => propext cutsRun)
      rw [same, searchRun]
      exact growExplains (ih later) path
    · have single : token.runEnd? = none := by
        cases token with
        | anyRun => exact absurd rfl run
        | anyDirs => exact absurd rfl first
        | _ => rfl
      exact searchOneExplains run single (ih later) path

theorem searchMatched {tokens : List Token} (free : .anyDirs ∉ tokens) (path : List Char) :
    search tokens path = .matched ↔ Cuts Token.Stands tokens path :=
  Outcome.matchedIff (searchExplains free path)

end LintGate.Glob
