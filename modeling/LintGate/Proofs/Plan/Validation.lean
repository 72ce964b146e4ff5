import LintGate.Proofs.Checker.Registrations
import LintGate.Proofs.Filter.LastMatch
import LintGate.Proofs.Options.Builtin
import LintGate.Proofs.Plan.Source

/-! What makes a plan of entries. Each entry is looked at on its own, its name first, then its
filter and then its other options, and the first entry with a problem decides about the list.
Taking the filter out moves the last option into its place, which a checker that reads its options
by name does not notice. -/
namespace LintGate

namespace Fields

def closeGap (behind : Fields) : Fields := behind.getLast?.toList ++ behind.dropLast

theorem closeGapPerm (behind : Fields) : behind.closeGap.Perm behind := by
  cases last : behind.getLast? with
  | none => simp [closeGap, List.getLast?_eq_none_iff.mp last]
  | some field =>
    obtain ⟨start, rfl⟩ := List.getLast?_eq_some_iff.mp last
    rw [closeGap, last, List.dropLast_concat]
    exact (List.perm_append_singleton field start).symm

theorem takeHead (key : String) (value : Json) (rest : Fields) :
    take? key ((key, value) :: rest) = some (value, rest.closeGap) := by
  rw [take?, if_pos rfl, closeGap]
  cases last : rest.getLast? with
  | none => simp [List.getLast?_eq_none_iff.mp last]
  | some field => rfl

theorem takeNone {key : String} {fields : Fields} :
    take? key fields = none ↔ key ∉ fields.names := by
  induction fields with
  | nil => simp [take?]
  | cons field rest ih =>
    obtain ⟨name, value⟩ := field
    by_cases same : name = key
    · subst same
      simp [takeHead]
    · rw [take?, if_neg same, Option.map_eq_none_iff, ih]
      simp [Ne.symm same]

theorem takeSome {key : String} {fields : Fields} {value : Json} {others : Fields} :
    take? key fields = some (value, others) ↔ ∃ before behind, key ∉ Fields.names before ∧
      fields = before ++ (key, value) :: behind ∧ others = before ++ closeGap behind := by
  constructor
  · intro found
    induction fields generalizing others with
    | nil => cases found
    | cons field rest ih =>
      obtain ⟨name, held⟩ := field
      by_cases same : name = key
      · subst same
        rw [takeHead] at found
        cases found
        exact ⟨[], rest, by simp, rfl, rfl⟩
      · rw [take?, if_neg same] at found
        obtain ⟨⟨taken, left⟩, later, whole⟩ := Option.map_eq_some_iff.mp found
        cases whole
        obtain ⟨before, behind, absent, rfl, rfl⟩ := ih later
        exact ⟨(name, held) :: before, behind, by simpa [Ne.symm same] using absent, rfl, rfl⟩
  · rintro ⟨before, behind, absent, rfl, rfl⟩
    induction before with
    | nil => exact takeHead key value behind
    | cons field before ih =>
      obtain ⟨name, held⟩ := field
      obtain ⟨first, later⟩ := not_or.mp (fun listed => absent (List.mem_cons.mpr listed))
      rw [List.cons_append, take?, if_neg (Ne.symm first), ih later]
      rfl

end Fields

def Rule.Written (text : String) : Prop := ∃ rule, Rule.parse text = .ok rule

def Checker.ReadsByName (checker : Checker) : Prop :=
  ∀ given other : Fields, given.names.Nodup → given.Perm other →
    ∀ job, checker.configure given = .ok job ↔ checker.configure other = .ok job

namespace Entry

inductive Ruled (checker : Checker) (entry : Entry) : List String → Fields → Prop
  | byChecker (absent : "filefilter" ∉ entry.options.names) :
      Ruled checker entry checker.fileRules entry.options
  | byEntry {before behind : Fields} {rules : List String} (first : "filefilter" ∉ before.names)
      (given : entry.options = before ++ ("filefilter", .ofTexts rules) :: behind) :
      Ruled checker entry rules (before ++ behind.closeGap)

structure Valid (registry : Registry) (entry : Entry) : Prop where
  known : entry.name ∈ registry.names
  fits : ∀ checker, registry.get? entry.name = some checker →
    ∃ rules options, entry.Ruled checker rules options ∧ (∀ text ∈ rules, Rule.Written text) ∧
      ∃ job, checker.configure options = .ok job

structure Gives (registry : Registry) (entry : Entry) (p : Planned) : Prop where
  known : registry.get? entry.name = some p.checker
  fits : ∃ rules options, entry.Ruled p.checker rules options ∧
    FileFilter.parse rules = .ok p.filter ∧ p.checker.configure options = .ok p.job

/- What is wrong with an entry. Under an unknown name nothing else is looked at, and the other
options are looked at only when the filter is right. -/
inductive Refused (registry : Registry) (entry : Entry) : SetupError → Prop
  | unknown (absent : entry.name ∉ registry.names) :
      Refused registry entry (.unknownChecker entry.name registry.names)
  | notTexts {before behind : Fields} {value : Json} (known : entry.name ∈ registry.names)
      (first : "filefilter" ∉ before.names)
      (given : entry.options = before ++ ("filefilter", value) :: behind)
      (other : ∀ rules, value ≠ .ofTexts rules) :
      Refused registry entry (.badOption entry.name .filterNotTexts)
  | badRule {checker : Checker} {rules : List String} {options : Fields} {bad : BadRule}
      (known : registry.get? entry.name = some checker)
      (ruled : entry.Ruled checker rules options) (first : FileFilter.FirstBad rules bad) :
      Refused registry entry (.badRule entry.name bad)
  | badOption {checker : Checker} {rules : List String} {options : Fields} {error : OptionError}
      (known : registry.get? entry.name = some checker)
      (ruled : entry.Ruled checker rules options) (written : ∀ text ∈ rules, Rule.Written text)
      (refused : checker.configure options = .error error) :
      Refused registry entry (.badOption entry.name error)

end Entry

theorem Planned.ruleTextsOk {value : Json} {rules : List String} :
    ruleTexts value = .ok rules ↔ value = .ofTexts rules := by
  rw [← asTextsOk]
  cases value with
  | list items =>
    rw [ruleTexts, Json.asTexts, mapMEach, mapMEach]
    constructor
    · intro each
      refine each.imp (fun item rule read => ?_)
      cases item <;> cases read
      rfl
    · intro each
      refine each.imp (fun item rule read => ?_)
      rw [asTextOk.mp read]
  | _ => simp [ruleTexts, Json.asTexts]

theorem Planned.ruleTextsOther {value : Json} (other : ∀ rules, value ≠ .ofTexts rules) :
    ruleTexts value = .error .filterNotTexts := by
  cases read : ruleTexts value with
  | ok rules => exact absurd (ruleTextsOk.mp read) (other rules)
  | error error =>
    cases value with
    | list items =>
      obtain ⟨before, item, behind, -, -, refused⟩ := mapMFirstError.mp read
      cases item <;> cases refused <;> rfl
    | _ => exact read.symm

theorem Rule.writtenOfParse {texts : List String} {filter : FileFilter}
    (parsed : FileFilter.parse texts = .ok filter) : ∀ text ∈ texts, Rule.Written text := by
  induction texts generalizing filter with
  | nil => simp
  | cons text texts ih =>
    obtain ⟨rule, rest, first, later, -⟩ := FileFilter.parseConsOk parsed
    exact List.forall_mem_cons.mpr ⟨⟨rule, first⟩, ih later⟩

namespace Entry

variable {registry : Registry} {checker : Checker} {entry : Entry}

theorem ruledOrOther (checker : Checker) (entry : Entry) :
    (∃ rules options, entry.Ruled checker rules options) ∨
      ∃ before value behind, "filefilter" ∉ Fields.names before ∧
        entry.options = before ++ ("filefilter", value) :: behind ∧
        ∀ rules, value ≠ .ofTexts rules := by
  cases taken : Fields.take? "filefilter" entry.options with
  | none => exact .inl ⟨_, _, .byChecker (Fields.takeNone.mp taken)⟩
  | some found =>
    obtain ⟨value, others⟩ := found
    obtain ⟨before, behind, first, given, -⟩ := Fields.takeSome.mp taken
    by_cases texts : ∃ rules, value = .ofTexts rules
    · obtain ⟨rules, rfl⟩ := texts
      exact .inl ⟨_, _, .byEntry first given⟩
    · exact .inr ⟨before, value, behind, first, given, not_exists.mp texts⟩

theorem filterRuled {rules : List String} {options : Fields}
    (ruled : entry.Ruled checker rules options) :
    Planned.filterAndOptions checker entry =
      ((FileFilter.parse rules).map (fun filter => (filter, options))).mapError
        (SetupError.badRule entry.name) := by
  unfold Planned.filterAndOptions
  cases ruled with
  | byChecker absent =>
    simp only [Fields.takeNone.mpr absent, okBind]
    cases FileFilter.parse checker.fileRules <;> rfl
  | byEntry first given =>
    simp only [Fields.takeSome.mpr ⟨_, _, first, given, rfl⟩, Planned.ruleTextsOk.mpr rfl,
      okBind]
    cases FileFilter.parse rules <;> rfl

theorem filterOther {before behind : Fields} {value : Json} (first : "filefilter" ∉ before.names)
    (given : entry.options = before ++ ("filefilter", value) :: behind)
    (other : ∀ rules, value ≠ .ofTexts rules) :
    Planned.filterAndOptions checker entry = .error (.badOption entry.name .filterNotTexts) := by
  unfold Planned.filterAndOptions
  rw [Fields.takeSome.mpr ⟨_, _, first, given, rfl⟩]
  dsimp only
  rw [Planned.ruleTextsOther other]
  rfl

theorem ofEntryKnown (known : registry.get? entry.name = some checker) :
    Planned.ofEntry registry entry = Planned.filterAndOptions checker entry >>= fun found =>
      ((checker.configure found.2).map (fun job => Planned.mk checker found.1 job)).mapError
        (SetupError.badOption entry.name) := by
  unfold Planned.ofEntry
  simp only [known]
  refine bind_congr (fun found => ?_)
  cases checker.configure found.2 <;> rfl

theorem givesPlanned {p : Planned} (gives : entry.Gives registry p) :
    Planned.ofEntry registry entry = .ok p := by
  obtain ⟨known, rules, options, ruled, parsed, configured⟩ := gives
  rw [ofEntryKnown known, filterRuled ruled, parsed]
  simp [configured]

theorem refusedError {error : SetupError} (refused : entry.Refused registry error) :
    Planned.ofEntry registry entry = .error error := by
  cases refused with
  | unknown absent =>
    unfold Planned.ofEntry
    rw [Registry.getNone.mpr absent]
  | notTexts known first given other =>
    obtain ⟨checker, known⟩ := Registry.getKnown.mpr known
    rw [ofEntryKnown known, filterOther first given other]
    rfl
  | badRule known ruled first =>
    rw [ofEntryKnown known, filterRuled ruled, FileFilter.parseError.mpr first]
    rfl
  | badOption known ruled written refused =>
    obtain ⟨filter, parsed⟩ := FileFilter.parseAccepted written
    rw [ofEntryKnown known, filterRuled ruled, parsed]
    simp [refused]

/- The cases follow the order in which an entry is looked at. -/
theorem givesOrRefused (registry : Registry) (entry : Entry) :
    (∃ p, entry.Gives registry p) ∨ ∃ error, entry.Refused registry error := by
  by_cases known : entry.name ∈ registry.names
  · obtain ⟨checker, found⟩ := Registry.getKnown.mpr known
    rcases ruledOrOther checker entry with ⟨rules, options, ruled⟩ | unruled
    · cases parsed : FileFilter.parse rules with
      | error bad => exact .inr ⟨_, .badRule found ruled (FileFilter.parseError.mp parsed)⟩
      | ok filter =>
        cases configured : checker.configure options with
        | error error =>
          exact .inr ⟨_, .badOption found ruled (Rule.writtenOfParse parsed) configured⟩
        | ok job =>
          exact .inl ⟨⟨checker, filter, job⟩, found, rules, options, ruled, parsed, configured⟩
    · obtain ⟨before, value, behind, first, given, other⟩ := unruled
      exact .inr ⟨_, .notTexts known first given other⟩
  · exact .inr ⟨_, .unknown known⟩

theorem plannedGives {p : Planned} :
    Planned.ofEntry registry entry = .ok p ↔ entry.Gives registry p := by
  refine ⟨fun planned => ?_, givesPlanned⟩
  rcases givesOrRefused registry entry with ⟨q, gives⟩ | ⟨error, refused⟩
  · cases planned.symm.trans (givesPlanned gives)
    exact gives
  · cases planned.symm.trans (refusedError refused)

theorem errorRefused {error : SetupError} :
    Planned.ofEntry registry entry = .error error ↔ entry.Refused registry error := by
  refine ⟨fun failed => ?_, refusedError⟩
  rcases givesOrRefused registry entry with ⟨p, gives⟩ | ⟨cause, refused⟩
  · cases failed.symm.trans (givesPlanned gives)
  · cases failed.symm.trans (refusedError refused)
    exact refused

theorem plannedValid : (∃ p, Planned.ofEntry registry entry = .ok p) ↔ entry.Valid registry := by
  simp only [plannedGives]
  constructor
  · rintro ⟨p, known, rules, options, ruled, parsed, configured⟩
    refine ⟨Registry.getKnown.mp ⟨_, known⟩, fun checker found => ?_⟩
    cases known.symm.trans found
    exact ⟨rules, options, ruled, Rule.writtenOfParse parsed, p.job, configured⟩
  · rintro ⟨known, fits⟩
    obtain ⟨checker, found⟩ := Registry.getKnown.mpr known
    obtain ⟨rules, options, ruled, written, job, configured⟩ := fits checker found
    obtain ⟨filter, parsed⟩ := FileFilter.parseAccepted written
    exact ⟨⟨checker, filter, job⟩, found, rules, options, ruled, parsed, configured⟩

section Order

variable {other : Entry}

theorem ruledReordered (once : entry.options.names.Nodup)
    (reordered : entry.options.Perm other.options) {rules : List String} {options : Fields}
    (ruled : entry.Ruled checker rules options) :
    options.names.Nodup ∧
      ∃ others, other.Ruled checker rules others ∧ options.Perm others := by
  have alike : other.options.names.Nodup := (reordered.map Prod.fst).nodup once
  cases ruled with
  | byChecker absent =>
    have missing : "filefilter" ∉ other.options.names :=
      fun listed => absent ((reordered.map Prod.fst).mem_iff.mpr listed)
    exact ⟨once, _, .byChecker missing, reordered⟩
  | @byEntry before behind rules first given =>
    have inside : ("filefilter", Json.ofTexts rules) ∈ other.options :=
      reordered.subset (given ▸ List.mem_append_right before List.mem_cons_self)
    obtain ⟨start, rest, whole⟩ := List.append_of_mem inside
    have left : (before ++ behind.closeGap).Perm (before ++ behind) :=
      (Fields.closeGapPerm behind).append_left before
    have right : (start ++ Fields.closeGap rest).Perm (start ++ rest) :=
      (Fields.closeGapPerm rest).append_left start
    have same : (before ++ behind).Perm (start ++ rest) := by
      rw [given, whole] at reordered
      exact (List.perm_middle.symm.trans (reordered.trans List.perm_middle)).cons_inv
    have fresh : "filefilter" ∉ Fields.names start := by
      rw [whole, Fields.names, List.map_append, List.map_cons, List.nodup_middle] at alike
      exact fun listed => (List.nodup_cons.mp alike).1 (List.mem_append_left _ listed)
    have distinct : (before ++ behind.closeGap).names.Nodup := by
      rw [given, Fields.names, List.map_append, List.map_cons, List.nodup_middle,
        ← List.map_append] at once
      exact (left.symm.map Prod.fst).nodup (List.nodup_cons.mp once).2
    exact ⟨distinct, _, .byEntry fresh whole, left.trans (same.trans right.symm)⟩

theorem givesReordered (named : entry.name = other.name) (once : entry.options.names.Nodup)
    (reordered : entry.options.Perm other.options) {p : Planned} (byName : p.checker.ReadsByName)
    (gives : entry.Gives registry p) : other.Gives registry p := by
  obtain ⟨known, rules, options, ruled, parsed, configured⟩ := gives
  obtain ⟨distinct, others, also, same⟩ := ruledReordered once reordered ruled
  exact ⟨named ▸ known, rules, others, also, parsed,
    (byName options others distinct same p.job).mp configured⟩

end Order

end Entry

theorem Overlays.readsByName {Options : Type} {checker : Checker}
    {decode : Fields → Except OptionError Options} {job : Options → Job}
    {toFields : Options → Fields} {schema : Schema} {Valid : Options → Prop}
    (overlays : Overlays checker decode job toFields schema Valid) : checker.ReadsByName := by
  intro given other once reordered result
  rw [overlays.configured, overlays.configured, mapOk, mapOk]
  simp only [overlays.reordered given other once reordered]

theorem builtinSound : ∀ checker ∈ Registry.builtin.checkers,
    (∀ text ∈ checker.fileRules, Rule.Written text) ∧ checker.ReadsByName := by
  intro checker member
  rcases builtinCases.mp member with rfl | rfl | rfl | rfl | rfl
  · exact ⟨Rule.writtenOfParse rfl, Flake8.overlaid.readsByName⟩
  · exact ⟨Rule.writtenOfParse rfl, Yamllint.overlaid.readsByName⟩
  · exact ⟨Rule.writtenOfParse rfl, Cpplint.overlaid.readsByName⟩
  · exact ⟨Rule.writtenOfParse rfl, Header.overlaid.readsByName⟩
  · exact ⟨Rule.writtenOfParse rfl, Whitespace.overlaid.readsByName⟩

namespace Plan

def FirstRefused (registry : Registry) (entries : List Entry) (error : SetupError) : Prop :=
  ∃ before entry behind, entries = before ++ entry :: behind ∧
    (∀ valid ∈ before, Entry.Valid registry valid) ∧ entry.Refused registry error

theorem namesGiven {registry : Registry} {entries : List Entry} {plan : Plan}
    (given : List.Forall₂ (Entry.Gives registry) entries plan) :
    plan.names = entries.map Entry.name := by
  induction given with
  | nil => rfl
  | cons first rest ih =>
    rw [names, List.map_cons, List.map_cons, ← ih, (Registry.getSource first.known).2]
    rfl

theorem planValidated (registry : Registry) (entries : List Entry) :
    ((∃ plan, ofEntries registry entries = .ok plan) ↔
      ∀ entry ∈ entries, Entry.Valid registry entry) ∧
    (∀ plan, ofEntries registry entries = .ok plan →
      plan.names = entries.map Entry.name ∧ List.Forall₂ (Entry.Gives registry) entries plan) ∧
    (∀ error, ofEntries registry entries = .error error ↔ FirstRefused registry entries error) ∧
    (∀ entry other : Entry, entry.name = other.name → entry.options.names.Nodup →
      entry.options.Perm other.options →
      (∀ checker rules options, entry.Ruled checker rules options →
        ∃ others, other.Ruled checker rules others ∧ options.Perm others) ∧
      ((∀ checker, registry.get? entry.name = some checker → checker.ReadsByName) →
        ∀ p, Planned.ofEntry registry entry = .ok p ↔ Planned.ofEntry registry other = .ok p)) ∧
    (∀ checker ∈ Registry.builtin.checkers,
      (∀ text ∈ checker.fileRules, Rule.Written text) ∧ checker.ReadsByName) := by
  refine ⟨?_, fun plan planned => ?_, fun error => ?_, ?_, builtinSound⟩
  · simp only [ofEntries, mapMOk, Entry.plannedValid]
  · have given : List.Forall₂ (Entry.Gives registry) entries plan :=
      (mapMEach.mp planned).imp (fun entry p => Entry.plannedGives.mp)
    exact ⟨namesGiven given, given⟩
  · simp only [ofEntries, mapMFirstError, Entry.plannedValid, Entry.errorRefused, FirstRefused]
  · intro entry other named once reordered
    have alike : other.options.names.Nodup := (reordered.map Prod.fst).nodup once
    refine ⟨fun checker rules options ruled => (Entry.ruledReordered once reordered ruled).2, ?_⟩
    intro byName p
    simp only [Entry.plannedGives]
    constructor
    · intro gives
      exact Entry.givesReordered named once reordered (byName _ gives.known) gives
    · intro gives
      have known : registry.get? entry.name = some p.checker := named ▸ gives.known
      exact Entry.givesReordered named.symm alike reordered.symm (byName _ known) gives

def rulesFirst : Entry :=
  ⟨"cpplint", [("filefilter", .ofTexts ["+ *.h"]), ("filter", .list []), ("linelength", .int 80)]⟩

def rulesLast : Entry :=
  ⟨"cpplint", [("filter", .list []), ("linelength", .int 80), ("filefilter", .ofTexts ["+ *.h"])]⟩

def unsignedRule : Entry := ⟨"header", [("color", .null), ("filefilter", .ofTexts ["+ *", "*.py"])]⟩

theorem unsignedRuleRefused :
    (∃ plan, ofEntries .builtin [⟨"whitespace", []⟩, rulesFirst, ⟨"whitespace", []⟩] = .ok plan ∧
      plan.names = ["whitespace", "cpplint", "whitespace"]) ∧
    ofEntries .builtin [rulesFirst, unsignedRule, ⟨"pylint", []⟩] =
      .error (.badRule "header" ⟨"*.py", .unsigned⟩) ∧
    ∀ p, Planned.ofEntry .builtin rulesFirst = .ok p ↔
      Planned.ofEntry .builtin rulesLast = .ok p := by
  obtain ⟨-, planned, -, reordered, sound⟩ :=
    planValidated .builtin [⟨"whitespace", []⟩, rulesFirst, ⟨"whitespace", []⟩]
  obtain ⟨-, -, failed, -⟩ := planValidated .builtin [rulesFirst, unsignedRule, ⟨"pylint", []⟩]
  have valid : Entry.Valid .builtin rulesFirst := Entry.plannedValid.mp ⟨_, rfl⟩
  have bad : FileFilter.FirstBad ["+ *", "*.py"] ⟨"*.py", .unsigned⟩ :=
    FileFilter.parseError.mp rfl
  have first : "filefilter" ∉ Fields.names [("color", .null)] := by decide
  have ruled : unsignedRule.Ruled Header.checker ["+ *", "*.py"]
      ([("color", .null)] ++ Fields.closeGap []) := .byEntry first rfl
  refine ⟨⟨_, rfl, (planned _ rfl).1⟩, (failed _).mpr ?_, ?_⟩
  · refine ⟨[rulesFirst], unsignedRule, [⟨"pylint", []⟩], rfl, ?_, .badRule rfl ruled bad⟩
    exact fun entry listed => List.mem_singleton.mp listed ▸ valid
  · refine (reordered rulesFirst rulesLast rfl (by decide) ?_).2 ?_
    · exact (List.perm_append_singleton _ _).symm
    · exact fun checker found => (sound checker (Registry.getSource found).1).2

end Plan

end LintGate
