import LintGate.Proofs.Except
import LintGate.Proofs.Filter.LastMatch
import LintGate.Proofs.Filter.PlainRule

/-! Rules read and written. A text is read as a rule exactly when it spells that rule: the sign and
the pattern, with any blanks before, between and behind them. The written form of a rule is one of
its spellings, so a rule that was read once is read again from it, and a filter is the same filter
after all of its rules were written out. -/
namespace LintGate

namespace Rule

structure Spelled (rule : Rule) (text : List Char) : Prop where
  signed : ∃ before between behind, Text.Blanks before ∧ Text.Blanks between ∧ Text.Blanks behind ∧
    text = before ++ (rule.sign.char :: (between ++ rule.pattern.text.toList) ++ behind)
  filled : rule.pattern.text.toList ≠ []
  trimmed : Text.trim rule.pattern.text.toList = rule.pattern.text.toList
  compiled : Glob.Pattern.parse rule.pattern.text = .ok rule.pattern

theorem signCut {cs rest : List Char} {sign : Sign} (cut : sign? cs = some (sign, rest)) :
    cs = sign.char :: rest := by
  unfold sign? at cut
  split at cut
  · cases cut
    rfl
  · cases cut
    rfl
  · cases cut

theorem patternText {text : String} {pattern : Glob.Pattern}
    (compiled : Glob.Pattern.parse text = .ok pattern) : pattern.text = text := by
  obtain ⟨tokens, -, rfl⟩ := mapOk.mp compiled
  rfl

theorem parseParts {text : String} {rule : Rule} (read : Rule.parse text = .ok rule) :
    ∃ rest, Text.trim text.toList = rule.sign.char :: rest ∧
      Text.trim rest = rule.pattern.text.toList ∧ rule.pattern.text.toList ≠ [] ∧
      Glob.Pattern.parse rule.pattern.text = .ok rule.pattern := by
  unfold Rule.parse at read
  split at read
  · cases read
  · rename_i sign rest cut
    split at read
    · cases read
    · rename_i filled
      split at read
      · rename_i pattern compiled
        cases read
        have same : pattern.text.toList = Text.trim rest := by
          rw [patternText compiled, String.toList_ofList]
        refine ⟨rest, signCut cut, same.symm, same ▸ filled, ?_⟩
        rwa [patternText compiled]
      · cases read

theorem parseSpelled {text : String} {rule : Rule} (read : Rule.parse text = .ok rule) :
    rule.Spelled text.toList := by
  obtain ⟨rest, cut, inner, filled, compiled⟩ := parseParts read
  have trimmed : Text.trim rule.pattern.text.toList = rule.pattern.text.toList := by
    rw [← inner, Text.trimIdempotent]
  obtain ⟨before, behind, blanksBefore, blanksBehind, outer⟩ := Text.trimCut text.toList
  -- two texts are trimmed, so the blanks behind the pattern are those of both ends
  obtain ⟨between, left, blanksBetween, blanksLeft, gap⟩ := Text.trimCut rest
  refine ⟨⟨before, between, left ++ behind, blanksBefore, blanksBetween, ?_, ?_⟩, filled, trimmed,
    compiled⟩
  · exact fun c inside => (List.mem_append.mp inside).elim (blanksLeft c) (blanksBehind c)
  · rw [outer, cut, gap, inner]
    simp

theorem spelledParse {text : String} {rule : Rule} (spelled : rule.Spelled text.toList) :
    Rule.parse text = .ok rule := by
  obtain ⟨before, between, behind, blanksBefore, blanksBetween, blanksBehind, whole⟩ :=
    spelled.signed
  have outer : Text.trim text.toList =
      rule.sign.char :: (between ++ rule.pattern.text.toList) := by
    rw [whole, Text.trimBefore blanksBefore, Text.trimBehind blanksBehind,
      signedFixed rule.sign between spelled.filled spelled.trimmed]
  have inner : Text.trim (between ++ rule.pattern.text.toList) = rule.pattern.text.toList := by
    rw [Text.trimBefore blanksBetween, spelled.trimmed]
  rw [Rule.parse, outer, signRead]
  simp only [inner]
  split
  · rename_i empty
    exact absurd empty spelled.filled
  · rw [String.ofList_toList, spelled.compiled]

theorem textSpelled {text : List Char} {rule : Rule} (spelled : rule.Spelled text) :
    rule.Spelled rule.text.toList := by
  refine ⟨⟨[], [' '], [], by decide, by decide, by decide, ?_⟩, spelled.filled, spelled.trimmed,
    spelled.compiled⟩
  simp [Rule.text]

theorem parseWritten {text : String} {rule : Rule} (read : Rule.parse text = .ok rule) :
    Rule.parse rule.text = .ok rule :=
  spelledParse (textSpelled (parseSpelled read))

end Rule

namespace FileFilter

theorem parseEach {texts : List String} {rules : List Rule}
    (each : List.Forall₂ (fun text rule => Rule.parse text = .ok rule) texts rules) :
    parse texts = .ok ⟨rules⟩ := by
  induction each with
  | nil => rfl
  | cons first _ ih =>
    rw [parseCons, first, ih]
    rfl

theorem parseWritten {f : FileFilter}
    (read : ∀ rule ∈ f.rules, ∃ text, Rule.parse text = .ok rule) :
    parse (f.rules.map Rule.text) = .ok f := by
  refine parseEach (List.forall₂_map_left_iff.mpr (List.forall₂_same.mpr ?_))
  intro rule inside
  obtain ⟨text, parsed⟩ := read rule inside
  exact Rule.parseWritten parsed

theorem writtenRulesReread :
    (∀ text rule, Rule.parse text = .ok rule ↔ rule.Spelled text.toList) ∧
    (∀ text rule, Rule.parse text = .ok rule → Rule.parse rule.text = .ok rule) ∧
    ∀ f : FileFilter, (∀ rule ∈ f.rules, ∃ text, Rule.parse text = .ok rule) →
      ∃ g, parse (f.rules.map Rule.text) = .ok g ∧
        (∀ path, g.accepts path = f.accepts path) ∧
        ∀ candidates, g.select candidates = f.select candidates := by
  refine ⟨?_, fun _ _ => Rule.parseWritten, ?_⟩
  · exact fun text rule => ⟨Rule.parseSpelled, Rule.spelledParse⟩
  · exact fun f read => ⟨f, parseWritten read, fun _ => rfl, fun _ => rfl⟩

theorem signedPatternReread :
    ∃ rule f g, Rule.parse "\u3000-\u2003-x*\n" = .ok rule ∧ rule.text = "- -x*" ∧
      Rule.parse "- -x*" = .ok rule ∧ parse ["\u3000-\u2003-x*\n", "++"] = .ok f ∧
      parse ["- -x*", "+ +"] = .ok g ∧ ∀ path, g.accepts path = f.accepts path := by
  obtain ⟨-, rules, filters⟩ := writtenRulesReread
  obtain ⟨minus, first, firstText⟩ :
      ∃ rule, Rule.parse "\u3000-\u2003-x*\n" = .ok rule ∧ rule.text = "- -x*" :=
    ⟨_, rfl, by decide +kernel⟩
  obtain ⟨plus, second, secondText⟩ :
      ∃ rule, Rule.parse "++" = .ok rule ∧ rule.text = "+ +" := ⟨_, rfl, by decide +kernel⟩
  obtain ⟨g, again, same, -⟩ := filters ⟨[minus, plus]⟩ (List.forall_mem_cons.mpr
    ⟨⟨_, first⟩, List.forall_mem_singleton.mpr ⟨_, second⟩⟩)
  rw [List.map_cons, List.map_cons, List.map_nil, firstText, secondText] at again
  exact ⟨minus, _, g, first, firstText, firstText ▸ rules _ _ first,
    parseEach (.cons first (.cons second .nil)), again, same⟩

end FileFilter

end LintGate
