import LintGate.Filter.Rule
import LintGate.Proofs.Glob.Search
import LintGate.Proofs.Text.Trimmed

/-! Rules with a plain pattern: no bracket class and no `**`. Every such rule is read, whatever
blanks stand between its sign and its pattern, and the characters of its pattern say what paths it
matches. -/
namespace LintGate

structure PlainGlob where
  chars : List Char
  filled : chars ≠ []
  trimmed : Text.trim chars = chars
  unbracketed : '[' ∉ chars
  single : ¬ ['*', '*'] <:+: chars

namespace PlainGlob
open Glob

/- A star stands for any run, a question mark for any one character, and any other character for
itself. -/
def Stands (c : Char) (piece : List Char) : Prop :=
  if c = '*' then True else if c = '?' then piece.length = 1 else piece = [c]

def token (c : Char) : Token :=
  if c = '*' then .anyRun else if c = '?' then .anyChar else .literal c

theorem readStep {c : Char} (unbracketed : c ≠ '[') {cs : List Char}
    (single : ¬ ['*', '*'] <+: c :: cs) (n : Nat) (atStart : Bool) (done : List Token) :
    ∃ next, Glob.read .outside n atStart done (c :: cs) =
      Glob.read .outside (n + 1) next (token c :: done) cs := by
  -- no other case of the reader applies: a second star would have to follow
  have lone : ∀ tail, c = '*' → cs = '*' :: tail → False := by
    rintro tail rfl rfl
    exact single ⟨tail, rfl⟩
  rw [Glob.read]
  · by_cases star : c = '*'
    · exact ⟨false, by rw [token, if_pos star, if_pos star]⟩
    · by_cases mark : c = '?'
      · exact ⟨false, by rw [token, if_neg star, if_neg star, if_pos mark, if_pos mark]⟩
      · refine ⟨c == '/', ?_⟩
        rw [token, if_neg star, if_neg star, if_neg mark, if_neg mark, if_neg unbracketed]
  · exact fun tail => lone ('*' :: tail)
  · exact fun tail _ => lone tail
  · exact fun _ => lone []
  · exact fun d tail _ => lone (d :: tail)

theorem readPlain {cs : List Char} (unbracketed : '[' ∉ cs) (single : ¬ ['*', '*'] <:+: cs)
    (n : Nat) (atStart : Bool) (done : List Token) :
    Glob.read .outside n atStart done cs = .ok (done.reverse ++ cs.map token) := by
  induction cs generalizing n atStart done with
  | nil => simp [Glob.read]
  | cons c cs ih =>
    obtain ⟨first, later⟩ := not_or.mp (fun h => unbracketed (List.mem_cons.mpr h))
    obtain ⟨next, step⟩ :=
      readStep (Ne.symm first) (fun start => single start.isInfix) n atStart done
    rw [step, ih later (fun inner => single (inner.trans (List.suffix_cons c cs).isInfix))]
    simp

theorem parsePlain (glob : PlainGlob) :
    Pattern.parse (String.ofList glob.chars) =
      .ok ⟨String.ofList glob.chars, glob.chars.map token⟩ := by
  rw [Pattern.parse, String.toList_ofList, readPlain glob.unbracketed glob.single]
  rfl

theorem tokenFree (cs : List Char) : Token.anyDirs ∉ cs.map token := by
  intro inside
  obtain ⟨c, -, same⟩ := List.mem_map.mp inside
  unfold token at same
  split at same
  · cases same
  · split at same
    · cases same
    · cases same

theorem tokenStands {c : Char} {piece : List Char} : (token c).Stands piece ↔ Stands c piece := by
  unfold token Stands
  split
  · exact iff_of_true (.inl rfl) trivial
  · split
    · simp [Token.Stands, Token.takes, List.length_eq_one_iff]
    · simp [Token.Stands, Token.takes]

theorem matchesPlain (glob : PlainGlob) (path : String) :
    Pattern.matchesPath ⟨String.ofList glob.chars, glob.chars.map token⟩ path = true ↔
      Cuts Stands glob.chars path.toList := by
  rw [Pattern.matchesPath, beq_iff_eq, searchMatched (tokenFree glob.chars)]
  simp only [Cuts, List.forall₂_map_left_iff, tokenStands]

end PlainGlob

namespace Rule

theorem signRead (sign : Sign) (rest : List Char) :
    sign? (sign.char :: rest) = some (sign, rest) := by
  cases sign with
  | plus => rfl
  | minus => rfl

theorem signedFixed (sign : Sign) (gap : List Char) {cs : List Char} (filled : cs ≠ [])
    (trimmed : Text.trim cs = cs) :
    Text.trim (sign.char :: (gap ++ cs)) = sign.char :: (gap ++ cs) := by
  refine Text.trimFixed.mpr ⟨Text.trimStartFixed.mpr ?_, Text.trimEndFixed.mpr ?_⟩
  · intro c first
    cases Option.some.inj first
    cases sign with
    | plus => rfl
    | minus => rfl
  · intro c last
    rw [← List.cons_append, List.getLast?_append_of_ne_nil _ filled] at last
    exact Text.trimEndFixed.mp (Text.trimFixed.mp trimmed).2 c last

theorem signedTrimmed (sign : Sign) (gap : List Char) (glob : PlainGlob) :
    Text.trim (sign.char :: (gap ++ glob.chars)) = sign.char :: (gap ++ glob.chars) :=
  signedFixed sign gap glob.filled glob.trimmed

theorem plainRuleCuts (sign : Sign) (gap : List Char) (blanks : Text.Blanks gap)
    (glob : PlainGlob) :
    ∃ rule, Rule.parse (String.ofList (sign.char :: (gap ++ glob.chars))) = .ok rule ∧
      rule.sign = sign ∧ rule.pattern.text = String.ofList glob.chars ∧
      ∀ path, rule.matchesPath path = true ↔
        Glob.Cuts PlainGlob.Stands glob.chars path.toList := by
  refine ⟨⟨sign, String.ofList glob.chars, glob.chars.map PlainGlob.token⟩, ?_, rfl, rfl,
    glob.matchesPlain⟩
  have inner : Text.trim (gap ++ glob.chars) = glob.chars := by
    rw [Text.trimBefore blanks, glob.trimmed]
  rw [Rule.parse, String.toList_ofList, signedTrimmed, signRead]
  simp only [inner]
  split
  · rename_i empty
    exact absurd empty glob.filled
  · rw [glob.parsePlain]

theorem starCrossesSlash :
    Text.Blanks [' ', ' '] ∧
      ∃ rule, Rule.parse "+  a/*?c" = .ok rule ∧ rule.matchesPath "a/.b/d/c" = true := by
  have blanks : Text.Blanks [' ', ' '] := by decide
  obtain ⟨rule, read, -, -, fits⟩ := plainRuleCuts .plus [' ', ' '] blanks
    ⟨"a/*?c".toList, by decide, by decide, by decide, by decide⟩
  refine ⟨blanks, rule, read, (fits "a/.b/d/c").mpr ?_⟩
  refine ⟨[['a'], ['/'], ".b/d".toList, ['/'], ['c']], by decide, ?_⟩
  exact .cons rfl (.cons rfl (.cons trivial (.cons rfl (.cons rfl .nil))))

end Rule

end LintGate
