import LintGate.Finding

/-! The name under which a finding is looked up in the change. -/
namespace LintGate.Finding

theorem relativeNameSame {root file : String} (relative : Path.isAbsolute file = false)
    (undotted : Text.startsWith ['.', '/'] file.toList = false) :
    relativeName root file = file := by
  have whole : Text.after? ['.', '/'] file.toList = none := by
    simpa [Text.startsWith] using undotted
  simp [relativeName, relative, whole]

theorem relativeToSame {root : String} {m : Finding} (same : relativeName root m.file = m.file) :
    m.relativeTo root = m := by
  simp [relativeTo, same]

end LintGate.Finding
