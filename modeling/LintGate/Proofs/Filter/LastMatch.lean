import LintGate.Filter.Basic
import LintGate.Proofs.Except
import Mathlib.Data.List.Induction

/-! The last matching rule decides about a path. Searching the rules from their end agrees with a
pass from their start in which every matching rule overwrites the outcome; so rules that are
appended decide first, and leave the others what they do not match. The rules of an appended list
are read in the same order, up to the first bad one. -/
namespace LintGate.FileFilter

def overwrite (path : String) (included : Bool) (rule : Rule) : Bool :=
  if rule.matchesPath path then rule.sign == .plus else included

def pass (rules : List Rule) (path : String) : Bool := rules.foldl (overwrite path) false

structure FirstBad (texts : List String) (bad : BadRule) : Prop where
  place : ∃ before behind, texts = before ++ bad.rule :: behind ∧
    ∀ text ∈ before, ∃ rule, Rule.parse text = .ok rule
  reason : Rule.parse bad.rule = .error bad.reason

theorem acceptsPass (rules : List Rule) (path : String) :
    accepts ⟨rules⟩ path = pass rules path := by
  unfold accepts pass
  -- the last rule is the first to be searched and the last to overwrite
  induction rules using List.reverseRecOn with
  | nil => rfl
  | append_singleton rules rule ih =>
    rw [List.foldl_append, List.foldl_cons, List.foldl_nil, overwrite, List.reverse_append,
      List.reverse_singleton, List.singleton_append, List.find?_cons]
    cases fits : rule.matchesPath path with
    | true => rfl
    | false => exact ih

theorem acceptsAppend (first second : List Rule) (path : String) :
    accepts ⟨first ++ second⟩ path = true ↔
      accepts ⟨second⟩ path = true ∨
        (∀ rule ∈ second, rule.matchesPath path = false) ∧ accepts ⟨first⟩ path = true := by
  unfold accepts
  rw [List.reverse_append, List.find?_append]
  cases found : second.reverse.find? (·.matchesPath path) with
  | none =>
    have unmatched : ∀ rule ∈ second, rule.matchesPath path = false := by
      simpa using found
    rw [Option.none_or, Option.any_none]
    exact ⟨fun inFirst => .inr ⟨unmatched, inFirst⟩, fun decided => (decided.resolve_left nofun).2⟩
  | some rule =>
    have fits : rule.matchesPath path = true := by
      simpa using List.find?_some found
    have inside : rule ∈ second := List.mem_reverse.mp (List.mem_of_find?_eq_some found)
    rw [Option.some_or, or_iff_left]
    rintro ⟨unmatched, -⟩
    exact absurd (unmatched rule inside) (by simp [fits])

theorem parseCons (text : String) (texts : List String) :
    parse (text :: texts) = (match Rule.parse text with
      | .error reason => .error ⟨text, reason⟩
      | .ok rule => (parse texts).map (fun f => ⟨rule :: f.rules⟩)) := by
  rw [parse]
  cases Rule.parse text with
  | error reason => rfl
  | ok rule => cases parse texts <;> rfl

theorem parseConsOk {text : String} {texts : List String} {f : FileFilter}
    (read : parse (text :: texts) = .ok f) :
    ∃ rule g, Rule.parse text = .ok rule ∧ parse texts = .ok g ∧ f = ⟨rule :: g.rules⟩ := by
  rw [parseCons] at read
  cases first : Rule.parse text with
  | error reason => simp [first] at read
  | ok rule =>
    rw [first] at read
    obtain ⟨g, later, same⟩ := mapOk.mp read
    exact ⟨rule, g, rfl, later, same.symm⟩

theorem parseConsError {text : String} {texts : List String} {bad : BadRule}
    (read : parse (text :: texts) = .error bad) :
    (bad.rule = text ∧ Rule.parse text = .error bad.reason) ∨
      ∃ rule, Rule.parse text = .ok rule ∧ parse texts = .error bad := by
  rw [parseCons] at read
  cases first : Rule.parse text with
  | error reason =>
    simp only [first, Except.error.injEq] at read
    subst read
    exact .inl ⟨rfl, rfl⟩
  | ok rule =>
    cases later : parse texts with
    | ok g => simp [first, later] at read
    | error other =>
      simp only [first, later, errorMap, Except.error.injEq] at read
      exact .inr ⟨rule, rfl, congrArg Except.error read⟩

theorem parseOk {texts : List String} {f : FileFilter} (read : parse texts = .ok f) :
    List.Forall₂ (fun text rule => Rule.parse text = .ok rule) texts f.rules := by
  induction texts generalizing f with
  | nil =>
    cases read
    exact .nil
  | cons text texts ih =>
    obtain ⟨rule, g, first, later, rfl⟩ := parseConsOk read
    exact .cons first (ih later)

theorem parseAccepted {texts : List String}
    (good : ∀ text ∈ texts, ∃ rule, Rule.parse text = .ok rule) : ∃ f, parse texts = .ok f := by
  induction texts with
  | nil => exact ⟨⟨[]⟩, rfl⟩
  | cons text texts ih =>
    obtain ⟨rule, first⟩ := good text List.mem_cons_self
    obtain ⟨f, later⟩ := ih (fun other inside => good other (List.mem_cons_of_mem text inside))
    exact ⟨⟨rule :: f.rules⟩, by rw [parseCons, first, later]; rfl⟩

theorem parseAppend (first second : List String) :
    parse (first ++ second) =
      (parse first).bind (fun f => (parse second).map (fun g => ⟨f.rules ++ g.rules⟩)) := by
  induction first with
  | nil =>
    rw [List.nil_append, parse]
    cases parse second <;> rfl
  | cons text first ih =>
    rw [List.cons_append, parseCons, parseCons, ih]
    cases Rule.parse text with
    | error reason => rfl
    | ok rule =>
      cases parse first with
      | error bad => rfl
      | ok f => cases parse second <;> rfl

theorem parseError {texts : List String} {bad : BadRule} :
    parse texts = .error bad ↔ FirstBad texts bad := by
  constructor
  · intro read
    induction texts with
    | nil => cases read
    | cons text texts ih =>
      rcases parseConsError read with ⟨rfl, reason⟩ | ⟨rule, first, later⟩
      · exact ⟨⟨[], texts, rfl, by simp⟩, reason⟩
      · obtain ⟨⟨before, behind, rfl, good⟩, reason⟩ := ih later
        have all := List.forall_mem_cons.mpr ⟨⟨rule, first⟩, good⟩
        exact ⟨⟨text :: before, behind, rfl, all⟩, reason⟩
  · rintro ⟨⟨before, behind, rfl, good⟩, reason⟩
    obtain ⟨f, read⟩ := parseAccepted good
    rw [parseAppend, read, parseCons, reason]
    rfl

theorem parseAppendFails (first second : List String) :
    (∃ bad, parse (first ++ second) = .error bad) ↔
      (∃ bad, parse first = .error bad) ∨ ∃ bad, parse second = .error bad := by
  rw [parseAppend]
  cases parse first with
  | error bad => exact iff_of_true ⟨bad, rfl⟩ (.inl ⟨bad, rfl⟩)
  | ok f =>
    cases parse second with
    | error bad => exact iff_of_true ⟨bad, rfl⟩ (.inr ⟨bad, rfl⟩)
    | ok g => simp [Except.bind]

theorem selectPass (f : FileFilter) (candidates : List String) :
    f.select candidates = candidates.filter (pass f.rules) :=
  congrArg (candidates.filter ·) (funext (acceptsPass f.rules))

theorem lastMatchWins (first second : List String) :
    (∀ f, parse first = .ok f →
      List.Forall₂ (fun text rule => Rule.parse text = .ok rule) first f.rules ∧
        ∀ candidates, f.select candidates = candidates.filter (pass f.rules)) ∧
      (∀ f g, parse first = .ok f → parse second = .ok g →
        ∃ both, parse (first ++ second) = .ok both ∧
          ∀ path, both.accepts path = true ↔
            g.accepts path = true ∨
              (∀ rule ∈ g.rules, rule.matchesPath path = false) ∧ f.accepts path = true) ∧
      ((∃ bad, parse (first ++ second) = .error bad) ↔
        (∃ bad, parse first = .error bad) ∨ ∃ bad, parse second = .error bad) ∧
      ∀ bad, parse (first ++ second) = .error bad ↔ FirstBad (first ++ second) bad := by
  refine ⟨fun f read => ⟨parseOk read, selectPass f⟩, ?_, parseAppendFails first second,
    fun _ => parseError⟩
  intro f g readFirst readSecond
  refine ⟨⟨f.rules ++ g.rules⟩, ?_, acceptsAppend f.rules g.rules⟩
  rw [parseAppend, readFirst, readSecond]
  rfl

theorem appendedRuleDecides :
    ∃ f g both, parse ["+*.py", "-t*"] = .ok f ∧ parse ["+ tests/?"] = .ok g ∧
      parse (["+*.py", "-t*"] ++ ["+ tests/?"]) = .ok both ∧
      f.select ["a.py", "t.py", "a.txt", "a.py"] = ["a.py", "a.py"] ∧
      f.accepts "tests/a" = false ∧ both.accepts "tests/a" = true := by
  obtain ⟨decides, appended, -⟩ := lastMatchWins ["+*.py", "-t*"] ["+ tests/?"]
  obtain ⟨both, read, accepts⟩ := appended _ _ rfl rfl
  refine ⟨_, _, both, rfl, rfl, read, ?_, by decide +kernel, (accepts "tests/a").mpr (.inl ?_)⟩
  · exact ((decides _ rfl).2 _).trans (by decide +kernel)
  · decide +kernel

end LintGate.FileFilter
