import LintGate.Proofs.Report.Aggregate
import LintGate.Report.Render

/-! What a report says about a run as a whole. Its success, its verdict and the last words of its
text are found separately. In a report that was put together from results they say the same, and
the last words tell which verdict it is, in colours and without. -/
namespace LintGate

namespace Text

theorem joinEnd (separator : String) (texts : List String) (last : String) :
    ∃ front, join separator (texts ++ [last]) = front ++ last := by
  induction texts with
  | nil => exact ⟨"", String.empty_append.symm⟩
  | cons text rest ih =>
    obtain ⟨front, split⟩ := ih
    refine ⟨text ++ separator ++ front, ?_⟩
    rw [String.append_assoc, ← split]
    cases rest <;> rfl

theorem renderSpansEnd (coloured : Bool) (spans : List Span) (last : Span) :
    renderSpans coloured (spans ++ [last]) =
      renderSpans coloured spans ++ last.render coloured := by
  rw [renderSpans, List.foldl_append]
  rfl

end Text

namespace Verdict

def footer : Verdict → Text.Span
  | .clean => ⟨okStyle, "✔ ok"⟩
  | .findingsPresent => ⟨warnStyle, "▲ findings"⟩
  | .executionFailed => ⟨errorStyle, "✖ linter failure"⟩

theorem footerInjective {v w : Verdict} : v.footer = w.footer ↔ v = w := by
  cases v <;> cases w <;> decide

theorem wordInjective {v w : Verdict} : v.word = w.word ↔ v = w := by
  cases v <;> cases w <;> decide

theorem footerSuffix {v w : Verdict} {coloured : Bool}
    (ends : (v.footer.render coloured).toList <:+ (w.footer.render coloured).toList) : v = w := by
  revert ends
  cases coloured <;> cases v <;> cases w <;> decide

end Verdict

namespace Report

theorem verdictFailed {r : Report} :
    r.verdict = .executionFailed ↔ ∃ run ∈ r.runs, run.hasFailed = true := by
  rw [verdict, ← List.any_eq_true]
  split
  · simp_all
  · split <;> simp_all

theorem failuresPresent {r : Report} : 0 < r.failures.length ↔ r.verdict = .executionFailed := by
  rw [verdictFailed, failures, List.length_pos_iff_exists_mem]
  simp only [List.mem_filter]

theorem humanEnd (r : Report) (coloured : Bool) :
    ∃ front, r.human coloured = front ++ r.footer.render coloured := by
  obtain ⟨front, split⟩ := Text.joinEnd "\n" (r.lines.dropLast.map (Text.renderSpans coloured))
    (Text.renderSpans coloured [⟨boldStyle, r.summary⟩, Text.plainSpan " ", r.footer])
  refine ⟨front ++ Text.renderSpans coloured [⟨boldStyle, r.summary⟩, Text.plainSpan " "], ?_⟩
  rw [String.append_assoc, ← Text.renderSpansEnd]
  refine Eq.trans ?_ split
  rw [human, Text.renderLines]
  simp [lines]

def jsonField? (r : Report) (name : String) : Option Json :=
  match r.toJson with
  | .object fields => fields.lookup name
  | _ => none

theorem jsonOk (r : Report) : r.jsonField? "ok" = some (.bool r.ok) := rfl

theorem jsonVerdict (r : Report) (v : Verdict) :
    r.jsonField? "verdict" = some (.text v.word) ↔ r.verdict = v := by
  have field : r.jsonField? "verdict" = some (.text r.verdict.word) := rfl
  rw [field, Option.some.injEq, Json.text.injEq, Verdict.wordInjective]

section Aggregate

variable (results : List (CheckerRun × List Finding))

theorem aggregateClean : (aggregate results).ok = true ↔ (aggregate results).verdict = .clean := by
  rw [aggregateSuccess, verdict]
  cases (aggregate results).runs.any (·.hasFailed) <;>
    cases (aggregate results).findings.isEmpty <;> simp

theorem aggregateFooter : (aggregate results).footer = (aggregate results).verdict.footer := by
  simp only [footer, failuresPresent, aggregateClean]
  cases (aggregate results).verdict <;> rfl

end Aggregate

end Report

end LintGate
