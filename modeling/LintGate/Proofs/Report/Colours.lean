import LintGate.Proofs.Report.Verdict
import LintGate.Proofs.Text.Escapes

/-! A report in colours. All that a report writes itself is free of escapes, so where its names,
findings and failures are, too, the escape sequences are those of the colours: without them the
text in colours is the text without. -/
namespace LintGate
open Text (Unescaped SpansUnescaped spansUnescapedNil spansUnescapedCons unescapedAppend
  unescapedCount unescapedCounted)

theorem Finding.spansUnescaped {f : Finding} (file : Unescaped f.file) (text : Unescaped f.text) :
    SpansUnescaped f.spans := by
  have place : Unescaped f.location := by
    unfold location
    split
    · exact file
    · exact unescapedCounted file (by decide) _
    · exact unescapedCounted (unescapedCounted file (by decide) _) (by decide) _
  have behind : Unescaped (" " ++ f.text) := unescapedAppend.mpr ⟨by decide, text⟩
  simp [spans, place, behind]
  decide

namespace CheckerRun

structure UnescapedTexts (run : CheckerRun) : Prop where
  name : Unescaped run.name
  failure : ∀ failure, run.failure = some failure → Unescaped failure.message

theorem spansUnescaped {run : CheckerRun} (texts : run.UnescapedTexts) (width : Nat) :
    SpansUnescaped (run.spans width) := by
  have name : Unescaped (Text.padded width run.name) := Text.unescapedPadded texts.name width
  have counts : Unescaped run.counts :=
    unescapedCounted (unescapedCounted (unescapedCount (by decide) _) (by decide) _) (by decide) _
  unfold spans
  refine spansUnescapedCons.mpr ⟨unescapedAppend.mpr ⟨name, by decide⟩, ?_⟩
  split
  · rename_i failure failed
    have behind : Unescaped (" " ++ failure.message) :=
      unescapedAppend.mpr ⟨by decide, texts.failure failure failed⟩
    simp [behind]
    decide
  · split
    · exact spansUnescapedCons.mpr ⟨by decide, spansUnescapedNil⟩
    · split
      · simp [counts]
        decide
      · simp [counts]
        decide

end CheckerRun

namespace Report

structure UnescapedTexts (r : Report) : Prop where
  files : ∀ f ∈ r.findings, Unescaped f.file
  texts : ∀ f ∈ r.findings, Unescaped f.text
  runs : ∀ run ∈ r.runs, run.UnescapedTexts

theorem footerUnescaped (r : Report) : Unescaped r.footer.text := by
  unfold footer
  split
  · decide
  · split <;> decide

theorem linesUnescaped {r : Report} (texts : r.UnescapedTexts) :
    ∀ line ∈ r.lines, SpansUnescaped line := by
  have summary : Unescaped r.summary :=
    unescapedCounted (unescapedCounted (unescapedCount (by decide) _) (by decide) _) (by decide) _
  intro line inside
  simp only [lines, List.mem_append, List.mem_map, List.mem_singleton] at inside
  rcases inside with ((⟨f, found, rfl⟩ | gap) | ⟨run, listed, rfl⟩) | rfl
  · exact Finding.spansUnescaped (texts.files f found) (texts.texts f found)
  · split at gap <;> simp_all
  · exact CheckerRun.spansUnescaped (texts.runs run listed) _
  · simp [summary, footerUnescaped]
    decide

theorem humanEscaped (r : Report) : ¬ Unescaped (r.human true) := by
  obtain ⟨front, split⟩ := humanEnd r true
  have painted : ¬ Unescaped (r.footer.render true) := by
    unfold footer
    split
    · decide
    · split <;> decide
  rw [split]
  exact fun plain => painted (unescapedAppend.mp plain).2

theorem coloursAddEscapes (r : Report) (texts : r.UnescapedTexts) :
    Text.withoutEscapes (r.human true).toList = (r.human false).toList ∧
      Unescaped (r.human false) ∧ ¬ Unescaped (r.human true) :=
  ⟨Text.withoutLines (linesUnescaped texts), Text.unescapedLines (linesUnescaped texts),
    humanEscaped r⟩

theorem paddedNamesPlain :
    let r : Report := ⟨[⟨"a.py", some 3, none, "E302"⟩], [],
      [⟨"pep8", .whole, .failed, 1, 0, 0, some (.io "[1m")⟩,
        ⟨"flake8", .whole, .aggregated, 1, 1, 1, none⟩,
        ⟨"header", .whole, .aggregated, 0, 0, 0, none⟩,
        ⟨"cpplint", .whole, .aggregated, 2, 0, 0, none⟩], false⟩
    r.UnescapedTexts ∧ Text.withoutEscapes (r.human true).toList = (r.human false).toList := by
  intro r
  have texts : r.UnescapedTexts := by
    refine ⟨by decide, by decide, ?_⟩
    simp only [r, List.forall_mem_cons]
    refine ⟨⟨by decide, ?_⟩, ⟨by decide, by simp⟩, ⟨by decide, by simp⟩, ⟨by decide, by simp⟩,
      by simp⟩
    intro failure same
    cases same
    decide +kernel
  exact ⟨texts, (coloursAddEscapes r texts).1⟩

end Report

end LintGate
