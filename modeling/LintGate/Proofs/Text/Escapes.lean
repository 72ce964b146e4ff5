import LintGate.Proofs.Text.Numeral
import LintGate.Text.Styled

/-! Escape sequences in a text. An escape sequence is an escape, a bracket, digits and semicolons,
and an `m`. Painted text without its escape sequences is the text that was painted, and lines of
spans in colours, without their escape sequences, are the same lines without colours. -/
namespace LintGate.Text

def isParameter (c : Char) : Bool := c.isDigit || c == ';'

def afterParameters? : List Char → Option (List Char)
  | [] => none
  | c :: cs => if c = 'm' then some cs else if isParameter c then afterParameters? cs else none

def afterSequence? : List Char → Option (List Char)
  | '\x1b' :: '[' :: cs => afterParameters? cs
  | _ => none

theorem afterParametersShorter {cs rest : List Char} (found : afterParameters? cs = some rest) :
    rest.length < cs.length := by
  induction cs with
  | nil => cases found
  | cons c cs ih =>
    unfold afterParameters? at found
    split at found
    · cases found
      exact Nat.lt_succ_self _
    · split at found
      · exact Nat.lt_succ_of_lt (ih found)
      · cases found

theorem afterSequenceShorter {cs rest : List Char} (found : afterSequence? cs = some rest) :
    rest.length < cs.length := by
  unfold afterSequence? at found
  split at found
  · exact Nat.lt_succ_of_lt (Nat.lt_succ_of_lt (afterParametersShorter found))
  · cases found

def withoutEscapes : List Char → List Char
  | [] => []
  | c :: cs =>
    match found : afterSequence? (c :: cs) with
    | some rest =>
      have := afterSequenceShorter found
      withoutEscapes rest
    | none => c :: withoutEscapes cs
termination_by cs => cs.length
decreasing_by
  · exact this
  · exact Nat.lt_succ_self _

theorem withoutSequence {cs rest : List Char} (found : afterSequence? cs = some rest) :
    withoutEscapes cs = withoutEscapes rest := by
  cases cs with
  | nil => cases found
  | cons c cs =>
    rw [withoutEscapes]
    split
    · rename_i other same
      cases found.symm.trans same
      rfl
    · rename_i absent
      cases found.symm.trans absent

theorem withoutOther {c : Char} (other : c ≠ '\x1b') (cs : List Char) :
    withoutEscapes (c :: cs) = c :: withoutEscapes cs := by
  have absent : afterSequence? (c :: cs) = none := by
    unfold afterSequence?
    split
    · rename_i rest same
      cases same
      exact absurd rfl other
    · rfl
  rw [withoutEscapes]
  split
  · rename_i rest found
    cases absent.symm.trans found
  · rfl

def Unescaped (s : String) : Prop := '\x1b' ∉ s.toList

instance (s : String) : Decidable (Unescaped s) := inferInstanceAs (Decidable ('\x1b' ∉ s.toList))

theorem unescapedAppend {s t : String} : Unescaped (s ++ t) ↔ Unescaped s ∧ Unescaped t := by
  simp [Unescaped]

theorem unescapedCount {s : String} (plain : Unescaped s) (n : Nat) :
    Unescaped (s ++ toString n) := by
  have digits : (toString n).toList = numeral n := String.toList_ofList
  refine unescapedAppend.mpr ⟨plain, ?_⟩
  rw [Unescaped, digits]
  exact numeralFree (by decide) n

theorem unescapedCounted {s mark : String} (plain : Unescaped s) (fixed : Unescaped mark)
    (n : Nat) : Unescaped (s ++ mark ++ toString n) :=
  unescapedCount (unescapedAppend.mpr ⟨plain, fixed⟩) n

theorem unescapedPadded {s : String} (plain : Unescaped s) (width : Nat) :
    Unescaped (padded width s) := by
  refine unescapedAppend.mpr ⟨plain, ?_⟩
  simp [Unescaped]

theorem withoutKept {cs : List Char} (free : '\x1b' ∉ cs) (rest : List Char) :
    withoutEscapes (cs ++ rest) = cs ++ withoutEscapes rest := by
  induction cs with
  | nil => rfl
  | cons c cs ih =>
    obtain ⟨other, later⟩ := not_or.mp (fun inside => free (List.mem_cons.mpr inside))
    rw [List.cons_append, withoutOther (Ne.symm other), ih later, List.cons_append]

theorem afterParametersCut {code : List Char} (parameters : code.all isParameter = true)
    (rest : List Char) : afterParameters? (code ++ 'm' :: rest) = some rest := by
  induction code with
  | nil => simp [afterParameters?]
  | cons c code ih =>
    obtain ⟨first, later⟩ := Bool.and_eq_true_iff.mp ((List.all_cons).symm.trans parameters)
    have notEnd : c ≠ 'm' := by
      rintro rfl
      exact absurd first (by decide)
    simp [afterParameters?, notEnd, first, ih later]

theorem withoutEscape {code : String} (parameters : code.toList.all isParameter = true)
    (rest : List Char) : withoutEscapes ((escape code).toList ++ rest) = withoutEscapes rest := by
  have shape : (escape code).toList ++ rest = '\x1b' :: '[' :: (code.toList ++ 'm' :: rest) := by
    simp [escape]
  refine withoutSequence ?_
  rw [shape]
  exact afterParametersCut parameters rest

theorem codeParameters (colour : Colour) : colour.code.toList.all isParameter = true := by
  cases colour <;> decide

theorem withoutPaint (style : Style) {text : String} (plain : Unescaped text) (rest : List Char) :
    withoutEscapes ((style.paint text).toList ++ rest) = text.toList ++ withoutEscapes rest := by
  have coloured (colour : Colour) (rest : List Char) :
      withoutEscapes ((escape colour.code ++ text ++ escape "39").toList ++ rest) =
        text.toList ++ withoutEscapes rest := by
    rw [String.toList_append, String.toList_append, List.append_assoc, List.append_assoc,
      withoutEscape (codeParameters colour), withoutKept plain, withoutEscape (by decide)]
  have bold {inner : String} (kept : ∀ rest,
      withoutEscapes (inner.toList ++ rest) = text.toList ++ withoutEscapes rest) :
      withoutEscapes ((escape "1" ++ inner ++ escape "0").toList ++ rest) =
        text.toList ++ withoutEscapes rest := by
    rw [String.toList_append, String.toList_append, List.append_assoc, List.append_assoc,
      withoutEscape (by decide), kept, withoutEscape (by decide)]
  rcases style with ⟨_ | _, _ | colour⟩
  · exact withoutKept plain rest
  · exact coloured colour rest
  · exact bold (withoutKept plain)
  · exact bold (coloured colour)

def SpansUnescaped (spans : List Span) : Prop := ∀ span ∈ spans, Unescaped span.text

@[simp] theorem spansUnescapedNil : SpansUnescaped [] := fun _ inside => nomatch inside

@[simp] theorem spansUnescapedCons {span : Span} {spans : List Span} :
    SpansUnescaped (span :: spans) ↔ Unescaped span.text ∧ SpansUnescaped spans :=
  List.forall_mem_cons

@[simp] theorem plainSpanText (text : String) : (plainSpan text).text = text := rfl

theorem renderSpansChars (coloured : Bool) (spans : List Span) :
    (renderSpans coloured spans).toList =
      spans.flatMap (fun span => (span.render coloured).toList) := by
  have started (out : String) :
      (spans.foldl (fun out span => out ++ span.render coloured) out).toList =
      out.toList ++ spans.flatMap (fun span => (span.render coloured).toList) := by
    induction spans generalizing out with
    | nil => simp
    | cons span spans ih => simp [ih]
  exact started ""

theorem withoutSpans {spans : List Span} (plain : SpansUnescaped spans) (rest : List Char) :
    withoutEscapes ((renderSpans true spans).toList ++ rest) =
      (renderSpans false spans).toList ++ withoutEscapes rest := by
  rw [renderSpansChars, renderSpansChars]
  induction spans with
  | nil => rfl
  | cons span spans ih =>
    obtain ⟨first, later⟩ := List.forall_mem_cons.mp plain
    rw [List.flatMap_cons, List.flatMap_cons, List.append_assoc, List.append_assoc, ← ih later]
    exact withoutPaint span.style first _

theorem withoutLines {lines : List (List Span)} (plain : ∀ line ∈ lines, SpansUnescaped line) :
    withoutEscapes (renderLines true lines).toList = (renderLines false lines).toList := by
  unfold renderLines
  induction lines with
  | nil => simp [join, withoutEscapes]
  | cons line lines ih =>
    obtain ⟨first, later⟩ := List.forall_mem_cons.mp plain
    cases lines with
    | nil => simpa [join, withoutEscapes] using withoutSpans first []
    | cons next lines =>
      -- the line break behind a line is kept like any other text without an escape
      rw [List.map_cons, List.map_cons, join, List.map_cons, List.map_cons, join,
        String.toList_append, String.toList_append, List.append_assoc, withoutSpans first]
      rw [String.toList_append, String.toList_append, List.append_assoc,
        withoutKept (by decide)]
      exact congrArg _ (congrArg _ (ih later))

theorem unescapedSpans {spans : List Span} (plain : SpansUnescaped spans) :
    Unescaped (renderSpans false spans) := by
  rw [Unescaped, renderSpansChars, List.mem_flatMap]
  rintro ⟨span, inside, escaped⟩
  exact plain span inside escaped

theorem unescapedLines {lines : List (List Span)} (plain : ∀ line ∈ lines, SpansUnescaped line) :
    Unescaped (renderLines false lines) := by
  unfold renderLines
  induction lines with
  | nil => decide
  | cons line lines ih =>
    obtain ⟨first, later⟩ := List.forall_mem_cons.mp plain
    cases lines with
    | nil => exact unescapedSpans first
    | cons next lines =>
      refine unescapedAppend.mpr ⟨unescapedAppend.mpr ⟨unescapedSpans first, by decide⟩, ?_⟩
      exact ih later

end LintGate.Text
