import LintGate.Config.Settings
import LintGate.Proofs.Report.Verdict

/-! What the printed text of a report shows. In either format every finding and every checker stands
in it with its own words, and the end of the text tells which verdict the report has. -/
namespace LintGate

namespace Text

def Within (piece text : String) : Prop := ∃ front back, text = front ++ piece ++ back

theorem withinRefl (text : String) : Within text text := ⟨"", "", by simp⟩

theorem withinTrans {a b c : String} (inner : Within a b) (outer : Within b c) : Within a c := by
  obtain ⟨before, after, rfl⟩ := inner
  obtain ⟨front, back, rfl⟩ := outer
  exact ⟨front ++ before, after ++ back, by simp only [String.append_assoc]⟩

theorem withinLeft {piece text : String} (inside : Within piece text) (more : String) :
    Within piece (text ++ more) := by
  obtain ⟨front, back, rfl⟩ := inside
  exact ⟨front, back ++ more, by simp only [String.append_assoc]⟩

theorem withinRight {piece text : String} (inside : Within piece text) (more : String) :
    Within piece (more ++ text) := by
  obtain ⟨front, back, rfl⟩ := inside
  exact ⟨more ++ front, back, by simp only [String.append_assoc]⟩

theorem appendSuffix (front back : String) : back.toList <:+ (front ++ back).toList := by
  rw [String.toList_append]
  exact List.suffix_append _ _

theorem suffixCancel {a b tail : String} (ends : (a ++ tail).toList <:+ (b ++ tail).toList) :
    a.toList <:+ b.toList := by
  obtain ⟨front, split⟩ := ends
  rw [String.toList_append, String.toList_append, ← List.append_assoc] at split
  exact ⟨front, List.append_cancel_right split⟩

theorem joinWithin {texts : List String} {text : String} (inside : text ∈ texts)
    (separator : String) : Within (text ++ separator) (join separator texts ++ separator) := by
  induction texts with
  | nil => exact absurd inside List.not_mem_nil
  | cons first rest ih =>
    cases rest with
    | nil =>
      rw [List.mem_singleton.mp inside]
      exact withinRefl _
    | cons second rest =>
      rw [join, String.append_assoc]
      rcases List.mem_cons.mp inside with rfl | behind
      · exact withinLeft (withinRefl _) _
      · exact withinRight (ih behind) _

@[simp] theorem renderSpansNil (coloured : Bool) : renderSpans coloured [] = "" := rfl

@[simp] theorem renderSpansCons (coloured : Bool) (span : Span) (spans : List Span) :
    renderSpans coloured (span :: spans) = span.render coloured ++ renderSpans coloured spans := by
  have start : ∀ (spans : List Span) (out : String),
      spans.foldl (fun out span => out ++ span.render coloured) out =
        out ++ renderSpans coloured spans := by
    intro spans
    induction spans with
    | nil => exact fun out => String.append_empty.symm
    | cons first rest ih =>
      intro out
      rw [renderSpans, List.foldl_cons, List.foldl_cons, ih, ih, String.empty_append,
        String.append_assoc]
  rw [renderSpans, List.foldl_cons, start, String.empty_append]

@[simp] theorem plainRender (coloured : Bool) (text : String) :
    (plainSpan text).render coloured = text := by
  cases coloured <;> rfl

theorem renderSpansWithin (coloured : Bool) {spans : List Span} {span : Span}
    (inside : span ∈ spans) : Within (span.render coloured) (renderSpans coloured spans) := by
  induction spans with
  | nil => exact absurd inside List.not_mem_nil
  | cons first rest ih =>
    rw [renderSpansCons]
    rcases List.mem_cons.mp inside with rfl | behind
    · exact withinLeft (withinRefl _) _
    · exact withinRight (ih behind) _

theorem renderLinesWithin (coloured : Bool) {lines : List (List Span)} {line : List Span}
    (inside : line ∈ lines) :
    Within (renderSpans coloured line ++ "\n") (renderLines coloured lines ++ "\n") :=
  joinWithin (List.mem_map_of_mem inside) "\n"

end Text

namespace Json
open Text (Within withinRefl withinLeft withinRight)

theorem indentedItemsWithin {items : List Json} {item : Json} (inside : item ∈ items)
    (level : Nat) : Within (indented level item) (indentedItems level items) := by
  induction items with
  | nil => exact absurd inside List.not_mem_nil
  | cons first rest ih =>
    cases rest with
    | nil =>
      rw [List.mem_singleton.mp inside, indentedItems]
      exact withinRight (withinRefl _) _
    | cons second rest =>
      rw [indentedItems]
      · rcases List.mem_cons.mp inside with rfl | behind
        · exact withinLeft (withinLeft (withinRight (withinRefl _) _) _) _
        · exact withinRight (ih behind) _
      · simp

theorem indentedFieldsWithin {fields : Fields} {field : String × Json} (inside : field ∈ fields)
    (level : Nat) : Within (indented level field.2) (indentedFields level fields) := by
  induction fields with
  | nil => exact absurd inside List.not_mem_nil
  | cons first rest ih =>
    cases rest with
    | nil =>
      rw [List.mem_singleton.mp inside, indentedFields]
      exact withinRight (withinRefl _) _
    | cons second rest =>
      rw [indentedFields]
      · rcases List.mem_cons.mp inside with rfl | behind
        · exact withinLeft (withinLeft (withinRight (withinRefl _) _) _) _
        · exact withinRight (ih behind) _
      · simp

theorem listWithin {items : List Json} {item : Json} (inside : item ∈ items) (level : Nat) :
    Within (indented (level + 1) item) (indented level (.list items)) := by
  rw [indented]
  · exact withinLeft (withinLeft (withinRight (indentedItemsWithin inside _) _) _) _
  · exact List.ne_nil_of_mem inside

theorem objectWithin {fields : Fields} {field : String × Json} (inside : field ∈ fields)
    (level : Nat) : Within (indented (level + 1) field.2) (indented level (.object fields)) := by
  rw [indented]
  · exact withinLeft (withinLeft (withinRight (indentedFieldsWithin inside _) _) _) _
  · exact List.ne_nil_of_mem inside

theorem indentedFieldsEnd (level : Nat) (fields : Fields) (field : String × Json)
    (rest : Fields) :
    ∃ front, indentedFields level (fields ++ field :: rest) =
      front ++ indentedFields level (field :: rest) := by
  induction fields with
  | nil => exact ⟨"", String.empty_append.symm⟩
  | cons first later ih =>
    obtain ⟨front, split⟩ := ih
    obtain ⟨name, value⟩ := first
    refine ⟨newLine level ++ escaped name ++ ": " ++ indented level value ++ "," ++ front, ?_⟩
    rw [List.cons_append, indentedFields]
    · rw [split, ← String.append_assoc]
    · simp

end Json

open Text (Within withinRefl withinTrans withinLeft withinRight)

def Finding.shown (m : Finding) (coloured : Bool) : OutputFormat → String
  | .human =>
    Text.Span.render coloured ⟨⟨false, some .red⟩, "✖"⟩ ++ " " ++
      Text.Span.render coloured ⟨boldStyle, m.location⟩ ++ " " ++ m.text ++ "\n"
  | .json =>
    "\x7b" ++ line "\"filename\"" (Json.escaped m.file) ++
      "," ++ line "\"line\"" ((m.line.map toString).getD "null") ++
      "," ++ line "\"column\"" ((m.column.map toString).getD "null") ++
      "," ++ line "\"text\"" (Json.escaped m.text) ++ "\n    " ++ "\x7d"
where
  line (name value : String) : String := "\n      " ++ name ++ ": " ++ value

theorem Finding.shownHuman (m : Finding) (coloured : Bool) :
    m.shown coloured .human = Text.renderSpans coloured m.spans ++ "\n" := by
  simp [shown, spans, String.append_assoc]

theorem Finding.shownJson (m : Finding) (coloured : Bool) :
    m.shown coloured .json = Json.indented 2 m.toJson := by
  have third : Json.newLine 3 = "\n      " := by decide +kernel
  have second : Json.newLine 2 = "\n    " := by decide +kernel
  have file : Json.escaped "filename" = "\"filename\"" := by decide +kernel
  have line : Json.escaped "line" = "\"line\"" := by decide +kernel
  have column : Json.escaped "column" = "\"column\"" := by decide +kernel
  have text : Json.escaped "text" = "\"text\"" := by decide +kernel
  have number : ∀ n : Option Nat,
      Json.indented 3 (.ofOptionalNat n) = (n.map toString).getD "null" := by
    intro n
    cases n with
    | none => rfl
    | some n => rfl
  simp only [shown, shown.line, toJson, Json.indented, Json.indentedFields, number, third, second,
    file, line, column, text, Json.scalarText, String.append_assoc]

def OutputFormat.quoted : OutputFormat → String → String
  | .human, text => text
  | .json, text => Json.escaped text

namespace Verdict

def closing (v : Verdict) (coloured : Bool) : OutputFormat → String
  | .human => v.footer.render coloured ++ "\n"
  | .json =>
    "\n  \"ok\": " ++ (if v = .clean then "true" else "false") ++ ",\n  \"verdict\": " ++
      ("\"" ++ v.word ++ "\"\n\x7d\n")

theorem wordSuffix {v w : Verdict}
    (ends : ("\"" ++ v.word).toList <:+ ("\"" ++ w.word).toList) : v = w := by
  revert ends
  cases v <;> cases w <;> decide

theorem closingSuffix {v w : Verdict} {coloured : Bool} {format : OutputFormat}
    (ends : (v.closing coloured format).toList <:+ (w.closing coloured format).toList) :
    v = w := by
  cases format with
  | human => exact footerSuffix (Text.suffixCancel ends)
  | json =>
    have quoted : ∀ u : Verdict, ("\"" ++ u.word ++ "\"\n\x7d\n").toList <:+
        (u.closing coloured .json).toList := fun u => Text.appendSuffix _ _
    rcases List.suffix_or_suffix_of_suffix ((quoted v).trans ends) (quoted w) with within | within
    · exact wordSuffix (Text.suffixCancel within)
    · exact (wordSuffix (Text.suffixCancel within)).symm

theorem closingExact {v w : Verdict} {coloured : Bool} {format : OutputFormat} {text : String}
    (ends : ∃ front, text = front ++ v.closing coloured format) :
    (w.closing coloured format).toList <:+ text.toList ↔ v = w := by
  obtain ⟨front, rfl⟩ := ends
  have here := Text.appendSuffix front (v.closing coloured format)
  constructor
  · intro also
    -- Of two ends of one text, one is an end of the other.
    rcases List.suffix_or_suffix_of_suffix here also with within | within
    · exact closingSuffix within
    · exact (closingSuffix within).symm
  · rintro rfl
    exact here

end Verdict

namespace CheckerRun

theorem nameWithin (run : CheckerRun) (coloured : Bool) (width : Nat) :
    Within run.name (Text.renderSpans coloured (run.spans width)) := by
  rw [spans, Text.renderSpansCons, Text.plainRender]
  exact withinLeft (withinLeft (withinLeft (withinRefl _) _) _) _

theorem failureWithin {run : CheckerRun} {failure : Failure} (failed : run.failure = some failure)
    (coloured : Bool) (width : Nat) :
    Within failure.message (Text.renderSpans coloured (run.spans width)) := by
  have listed : Text.plainSpan (" " ++ failure.message) ∈ run.spans width := by
    simp [spans, failed]
  have inside := Text.renderSpansWithin coloured listed
  rw [Text.plainRender] at inside
  exact withinTrans (withinRight (withinRefl _) _) inside

end CheckerRun

namespace Report

structure Shows (r : Report) (coloured : Bool) (format : OutputFormat) (text : String) :
    Prop where
  findings : ∀ m ∈ r.findings, Within (m.shown coloured format) text
  names : ∀ run ∈ r.runs, Within (format.quoted run.name) text
  failures : ∀ run ∈ r.runs, ∀ failure, run.failure = some failure →
    Within (format.quoted failure.message) text

theorem humanShows (r : Report) (coloured : Bool) :
    r.Shows coloured .human (r.human coloured ++ "\n") := by
  have line : ∀ line ∈ r.lines,
      Within (Text.renderSpans coloured line ++ "\n") (r.human coloured ++ "\n") :=
    fun line inside => Text.renderLinesWithin coloured inside
  have status : ∀ run ∈ r.runs, ∃ width, run.spans width ∈ r.lines := by
    intro run listed
    refine ⟨nameWidth (r.runs.map (·.name)), ?_⟩
    simp only [lines, List.mem_append, List.mem_map]
    exact .inl (.inr ⟨run, listed, rfl⟩)
  refine ⟨fun m found => ?_, fun run listed => ?_, fun run listed failure failed => ?_⟩
  · rw [Finding.shownHuman]
    refine line m.spans ?_
    simp only [lines, List.mem_append, List.mem_map]
    exact .inl (.inl (.inl ⟨m, found, rfl⟩))
  · obtain ⟨width, inside⟩ := status run listed
    exact withinTrans (withinLeft (run.nameWithin coloured width) _) (line _ inside)
  · obtain ⟨width, inside⟩ := status run listed
    exact withinTrans (withinLeft (CheckerRun.failureWithin failed coloured width) _)
      (line _ inside)

theorem jsonShows (r : Report) (coloured : Bool) :
    r.Shows coloured .json (r.toJson.pretty ++ "\n") := by
  have finding : ∀ m ∈ r.findings, Within (Json.indented 2 m.toJson) r.toJson.pretty := by
    intro m found
    refine withinTrans (Json.listWithin (List.mem_map_of_mem found) 1) ?_
    exact Json.objectWithin List.mem_cons_self 0
  have status : ∀ run ∈ r.runs, Within (Json.indented 2 run.toJson) r.toJson.pretty := by
    intro run listed
    refine withinTrans (Json.listWithin (List.mem_map_of_mem listed) 1) ?_
    exact Json.objectWithin (List.mem_cons_of_mem _ (List.mem_cons_of_mem _ List.mem_cons_self)) 0
  refine ⟨fun m found => ?_, fun run listed => ?_, fun run listed failure failed => ?_⟩
  · rw [Finding.shownJson]
    exact withinLeft (finding m found) _
  · have name : Within (Json.escaped run.name) (Json.indented 2 run.toJson) :=
      Json.objectWithin (List.mem_append_left _ List.mem_cons_self) 2
    exact withinLeft (withinTrans name (status run listed)) _
  · have cause : Within (Json.escaped failure.message) (Json.indented 2 run.toJson) := by
      rw [CheckerRun.toJson, failed]
      exact Json.objectWithin (List.mem_append_right _ (List.mem_singleton_self _)) 2
    exact withinLeft (withinTrans cause (status run listed)) _

theorem humanCloses {r : Report} (closing : r.footer = r.verdict.footer) (coloured : Bool) :
    ∃ front, r.human coloured ++ "\n" = front ++ r.verdict.closing coloured .human := by
  obtain ⟨front, split⟩ := humanEnd r coloured
  refine ⟨front, ?_⟩
  rw [split, closing, String.append_assoc]
  rfl

theorem jsonCloses {r : Report} (success : r.ok = true ↔ r.verdict = .clean) (coloured : Bool) :
    ∃ front, r.toJson.pretty ++ "\n" = front ++ r.verdict.closing coloured .json := by
  obtain ⟨front, split⟩ := Json.indentedFieldsEnd 1
    [("messages", .list (r.findings.map Finding.toJson)),
      ("per_linter_raw_count", .object (r.rawCounts.map (fun count => (count.1, .int count.2)))),
      ("linters", .list (r.runs.map CheckerRun.toJson))]
    ("ok", .bool r.ok) [("verdict", .text r.verdict.word)]
  have ending : r.verdict.closing coloured .json =
      Json.indentedFields 1 [("ok", .bool r.ok), ("verdict", .text r.verdict.word)] ++
        Json.newLine 0 ++ "\x7d" ++ "\n" := by
    have ok : r.ok = decide (r.verdict = .clean) := by
      rw [Bool.eq_iff_iff, success, decide_eq_true_iff]
    rw [ok]
    cases r.verdict <;> decide +kernel +revert
  refine ⟨"\x7b" ++ front, ?_⟩
  have whole : r.toJson.pretty = "\x7b" ++ (front ++
      Json.indentedFields 1 [("ok", .bool r.ok), ("verdict", .text r.verdict.word)]) ++
        Json.newLine 0 ++ "\x7d" := by
    rw [← split]
    rfl
  rw [whole, ending]
  simp only [String.append_assoc]

end Report

end LintGate
