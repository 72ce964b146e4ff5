import LintGate.Checker.Builtin
import LintGate.Proofs.Options.Overlay
import LintGate.Proofs.Text.Trimmed

/-! The options of the built-in checkers. Each checker has a schema of names and types; its options
are the defaults with the given fields laid over them, and cpplint looks at what comes of it once
more. -/
namespace LintGate

namespace Cpplint

def Sensible (o : Options) : Prop := ¬ Text.Blanks o.script.toList ∧ o.lineLength ≠ 0

theorem validateSensible (o p : Options) : o.validate = .ok p ↔ o = p ∧ Sensible p := by
  have blank : (Text.trim o.script.toList).isEmpty = true ↔ Text.Blanks o.script.toList :=
    List.isEmpty_iff.trans Text.trimNil
  by_cases refused : Text.Blanks o.script.toList ∨ o.lineLength = 0
  · have failed : ∃ e, o.validate = .error e := by
      unfold Options.validate
      rcases refused with blanks | zero
      · exact ⟨_, if_pos (blank.mpr blanks)⟩
      · rw [if_pos zero]
        split
        · exact ⟨_, rfl⟩
        · exact ⟨_, rfl⟩
    obtain ⟨e, failed⟩ := failed
    rw [failed]
    refine iff_of_false nofun (fun accepted => ?_)
    obtain ⟨rfl, script, lineLength⟩ := accepted
    exact refused.elim script lineLength
  · obtain ⟨script, lineLength⟩ := not_or.mp refused
    unfold Options.validate
    rw [if_neg (mt blank.mp script), if_neg lineLength, Except.ok.injEq]
    exact ⟨fun same => ⟨same, same ▸ ⟨script, lineLength⟩⟩, fun accepted => accepted.1⟩

theorem decodeSensible (given : Fields) (o : Options) :
    Options.decode given = .ok o ↔ reader.decode given = .ok o ∧ Sensible o := by
  unfold Options.decode
  rw [bindOk]
  simp only [validateSensible]
  constructor
  · rintro ⟨p, merged, rfl, sensible⟩
    exact ⟨merged, sensible⟩
  · rintro ⟨merged, sensible⟩
    exact ⟨o, merged, rfl, sensible⟩

theorem overlaid :
    Overlays checker Options.decode job Options.toFields reader.schema Sensible :=
  reader.overlays (fun _ => rfl) rfl rfl rfl decodeSensible

end Cpplint

theorem Flake8.overlaid :
    Overlays checker Options.decode job Options.toFields reader.schema (fun _ => True) :=
  reader.overlaysPlain (fun _ => rfl) rfl rfl rfl

theorem Yamllint.overlaid :
    Overlays checker Options.decode job Options.toFields reader.schema (fun _ => True) :=
  reader.overlaysPlain (fun _ => rfl) rfl rfl rfl

theorem Header.overlaid :
    Overlays checker Options.decode job Options.toFields reader.schema (fun _ => True) :=
  reader.overlaysPlain (fun _ => rfl) rfl rfl rfl

theorem Whitespace.overlaid :
    Overlays checker Options.decode job Options.toFields reader.schema (fun _ => True) :=
  reader.overlaysPlain (fun _ => rfl) rfl rfl rfl

theorem optionsOverlaid :
    Overlays Flake8.checker Flake8.Options.decode Flake8.job Flake8.Options.toFields
      [("config", .optionalText)] (fun _ => True) ∧
    Overlays Yamllint.checker Yamllint.Options.decode Yamllint.job Yamllint.Options.toFields
      [("config", .optionalText)] (fun _ => True) ∧
    Overlays Cpplint.checker Cpplint.Options.decode Cpplint.job Cpplint.Options.toFields
      [("script", .text), ("linelength", .nat32), ("filter", .texts)] Cpplint.Sensible ∧
    Overlays Header.checker Header.Options.decode Header.job Header.Options.toFields
      [("header", .text), ("comment", .text), ("shebang", .optionalText), ("extra", .texts)]
      (fun _ => True) ∧
    Overlays Whitespace.checker Whitespace.Options.decode Whitespace.job
      Whitespace.Options.toFields [("tabs", .bool)] (fun _ => True) :=
  ⟨Flake8.overlaid, Yamllint.overlaid, Cpplint.overlaid, Header.overlaid, Whitespace.overlaid⟩

def shortLines : Fields := [("filter", .list []), ("linelength", .int 80)]

theorem shortLinesOverlaid :
    shortLines.names.Nodup ∧
      Cpplint.Options.decode shortLines = .ok ⟨"./cpplint.py", 80, []⟩ ∧
      Cpplint.Options.decode shortLines.reverse = .ok ⟨"./cpplint.py", 80, []⟩ ∧
      Cpplint.Options.decode (Cpplint.checker.defaults.setAll shortLines) =
        .ok ⟨"./cpplint.py", 80, []⟩ := by
  have once : shortLines.names.Nodup := by decide
  have typed : Schema.Typed [("script", .text), ("linelength", .nat32), ("filter", .texts)]
      shortLines := by
    intro field inside
    rcases List.mem_pair.mp inside with rfl | rfl
    · exact ⟨.texts, by simp, [], rfl⟩
    · exact ⟨.nat32, by simp, 80, rfl, by decide⟩
  have sensible : Cpplint.Sensible ⟨"./cpplint.py", 80, []⟩ := ⟨by decide, by decide⟩
  obtain ⟨-, -, overlays, -, -⟩ := optionsOverlaid
  have decoded : Cpplint.Options.decode shortLines = .ok ⟨"./cpplint.py", 80, []⟩ :=
    (overlays.accepted shortLines once _).mpr ⟨typed, rfl, sensible⟩
  exact ⟨once, decoded,
    (overlays.reordered _ _ once (List.reverse_perm shortLines).symm _).mp decoded,
    (overlays.refilled shortLines once _).mpr decoded⟩

end LintGate
