import LintGate.Checker.Basic
import LintGate.Proofs.Named
import LintGate.Proofs.Options.Schema

/-! Options laid over defaults. What a reader of fields makes of them is known from what it does
with one field. The fields are taken when each has a known name and a value of its type, and then
every option has the value that was given under its name, or its default. Hence the order of the
fields does not matter, nor whether the defaults are spelled out. -/
namespace LintGate

namespace Fields
open Named

def overlaid (defaults given : Fields) : Fields :=
  defaults.map (fun field => (field.1, (given.lookup field.1).getD field.2))

def setAll (fields given : Fields) : Fields :=
  given.foldl (fun fields field => fields.set field.1 field.2) fields

theorem lookupPerm {given other : Fields} (distinct : given.names.Nodup)
    (reordered : given.Perm other) (name : String) : given.lookup name = other.lookup name := by
  have alike : other.names.Nodup := (reordered.map Prod.fst).nodup distinct
  refine Option.ext (fun value => ?_)
  rw [lookupDistinct distinct, lookupDistinct alike, reordered.mem_iff]

@[simp] theorem lookupSet (fields : Fields) (key : String) (value : Json) (name : String) :
    (fields.set key value).lookup name = if name = key then some value else fields.lookup name := by
  induction fields with
  | nil =>
    by_cases same : name = key
    · simp [same]
    · simp [lookupOther same, same]
  | cons field rest ih =>
    obtain ⟨first, old⟩ := field
    by_cases found : first = key
    · subst found
      rw [setFirst]
      by_cases same : name = first
      · simp [same]
      · simp [lookupOther same, same]
    · rw [setLater found]
      by_cases same : name = first
      · subst same
        simp [found]
      · rw [lookupOther same, lookupOther same, ih]

@[simp] theorem namesSet {fields : Fields} {key : String} {value : Json} {name : String} :
    name ∈ (fields.set key value).names ↔ name = key ∨ name ∈ fields.names := by
  induction fields with
  | nil => simp
  | cons field rest ih =>
    obtain ⟨first, old⟩ := field
    by_cases found : first = key
    · simp [found]
    · simp [found, ih, or_left_comm]

theorem distinctSet {fields : Fields} (distinct : fields.names.Nodup) (key : String)
    (value : Json) : (fields.set key value).names.Nodup := by
  induction fields with
  | nil => simp
  | cons field rest ih =>
    obtain ⟨first, old⟩ := field
    obtain ⟨absent, later⟩ := List.nodup_cons.mp distinct
    by_cases found : first = key
    · subst found
      simpa using distinct
    · rw [setLater found]
      refine List.nodup_cons.mpr ⟨fun inside => ?_, ih later⟩
      rcases namesSet.mp inside with same | inside
      · exact found same
      · exact absent inside

theorem namesSetKnown {fields : Fields} {key : String} (known : key ∈ fields.names)
    (value : Json) : (fields.set key value).names = fields.names := by
  induction fields with
  | nil => exact absurd known List.not_mem_nil
  | cons field rest ih =>
    obtain ⟨first, old⟩ := field
    by_cases found : first = key
    · simp [found]
    · rw [setLater found]
      have behind : key ∈ Fields.names rest := by
        rcases List.mem_cons.mp known with same | behind
        · exact absurd same.symm found
        · exact behind
      exact congrArg (first :: ·) (ih behind)

theorem distinctSetAll {fields : Fields} (distinct : fields.names.Nodup) (given : Fields) :
    (fields.setAll given).names.Nodup := by
  induction given generalizing fields with
  | nil => exact distinct
  | cons field rest ih => exact ih (distinctSet distinct field.1 field.2)

theorem lookupSetAll (fields : Fields) {given : Fields} (distinct : given.names.Nodup)
    (name : String) :
    (fields.setAll given).lookup name = (given.lookup name).or (fields.lookup name) := by
  induction given generalizing fields with
  | nil => rfl
  | cons field rest ih =>
    obtain ⟨first, value⟩ := field
    obtain ⟨absent, later⟩ := List.nodup_cons.mp distinct
    have step : setAll fields ((first, value) :: rest) = setAll (fields.set first value) rest := rfl
    rw [step, ih _ later, lookupSet]
    by_cases same : name = first
    · subst same
      simp [lookupAbsent absent]
    · rw [if_neg same, lookupOther same]

theorem namesSetAll {fields given : Fields} (known : given.names ⊆ fields.names) :
    (fields.setAll given).names = fields.names := by
  induction given generalizing fields with
  | nil => rfl
  | cons field rest ih =>
    have here : field.1 ∈ fields.names := known List.mem_cons_self
    have same := namesSetKnown here field.2
    have later : Fields.names rest ⊆ (fields.set field.1 field.2).names := by
      rw [same]
      exact fun name inside => known (List.mem_cons_of_mem _ inside)
    exact (ih later).trans same

@[simp] theorem lookupOverlaid (defaults given : Fields) (name : String) :
    (overlaid defaults given).lookup name =
      (defaults.lookup name).map (fun value => (given.lookup name).getD value) := by
  induction defaults with
  | nil => rfl
  | cons field rest ih =>
    obtain ⟨first, value⟩ := field
    by_cases same : name = first
    · subst same
      simp [overlaid]
    · rw [lookupOther same, ← ih]
      exact lookupOther same _ _

@[simp] theorem namesOverlaid (defaults given : Fields) :
    (overlaid defaults given).names = defaults.names := by
  simp [overlaid, names, Function.comp_def]

theorem restored {fields : Fields} (distinct : fields.names.Nodup) :
    fields.names.map (fun name => (name, (fields.lookup name).getD .null)) = fields := by
  have each : ∀ field ∈ fields, (field.1, (fields.lookup field.1).getD .null) = field := by
    intro field inside
    rw [(lookupDistinct distinct).mpr inside]
    rfl
  rw [names, List.map_map]
  exact (List.map_congr_left each).trans (List.map_id _)

theorem setAllOverlaid {defaults given : Fields} (distinct : defaults.names.Nodup)
    (once : given.names.Nodup) (known : given.names ⊆ defaults.names) :
    defaults.setAll given = overlaid defaults given := by
  have left : (defaults.setAll given).names = defaults.names := namesSetAll known
  have right : (overlaid defaults given).names = defaults.names := namesOverlaid defaults given
  have apart : (overlaid defaults given).names.Nodup := by rwa [right]
  rw [← restored (distinctSetAll distinct given), ← restored apart, left, right]
  refine List.map_congr_left (fun name inside => ?_)
  obtain ⟨field, listed, same⟩ := List.mem_map.mp inside
  subst same
  have default : defaults.lookup field.1 = some field.2 := (lookupDistinct distinct).mpr listed
  rw [lookupSetAll defaults once, lookupOverlaid, default]
  cases given.lookup field.1 with
  | none => rfl
  | some value => rfl

theorem overlaidAlike (defaults : Fields) {given other : Fields}
    (same : ∀ name, given.lookup name = other.lookup name) :
    overlaid defaults given = overlaid defaults other := by
  simp only [overlaid, same]

theorem overlaidRefilled {defaults given : Fields} (distinct : defaults.names.Nodup)
    (once : given.names.Nodup) :
    overlaid defaults (defaults.setAll given) = overlaid defaults given := by
  refine List.map_congr_left (fun field inside => ?_)
  have default : defaults.lookup field.1 = some field.2 := (lookupDistinct distinct).mpr inside
  rw [lookupSetAll defaults once, default]
  cases given.lookup field.1 with
  | none => rfl
  | some value => rfl

end Fields

section Types

variable {schema : Schema} {given : Fields}

theorem typedLookup (once : given.names.Nodup) :
    schema.Typed given ↔
      ∀ name value, given.lookup name = some value → schema.Takes name value := by
  constructor
  · intro typed name value found
    exact typed (name, value) ((Named.lookupDistinct once).mp found)
  · intro each field inside
    exact each field.1 field.2 ((Named.lookupDistinct once).mpr inside)

theorem typedNames (typed : schema.Typed given) : given.names ⊆ schema.names := by
  intro name listed
  obtain ⟨field, inside, same⟩ := List.mem_map.mp listed
  obtain ⟨type, known, -⟩ := typed field inside
  exact List.mem_map.mpr ⟨(field.1, type), known, same⟩

theorem typedRefilled {defaults : Fields} (distinct : defaults.names.Nodup)
    (once : given.names.Nodup) (typed : schema.Typed defaults) :
    schema.Typed (defaults.setAll given) ↔ schema.Typed given := by
  rw [typedLookup (Fields.distinctSetAll distinct given), typedLookup once]
  constructor
  · intro each name value found
    refine each name value ?_
    rw [Fields.lookupSetAll defaults once, found, Option.some_or]
  · intro each name value found
    rw [Fields.lookupSetAll defaults once, Option.or_eq_some_iff] at found
    rcases found with here | behind
    · exact each name value here
    · exact (typedLookup distinct).mp typed name value behind.2

end Types

structure Overlays {Options : Type} (checker : Checker)
    (decode : Fields → Except OptionError Options) (job : Options → Job)
    (toFields : Options → Fields) (schema : Schema) (Valid : Options → Prop) : Prop where
  configured : ∀ given, checker.configure given = (decode given).map job
  listed : checker.defaultOptions =
    .object (checker.defaults ++ [("filefilter", .ofTexts checker.fileRules)])
  merged : ∀ given : Fields, given.names.Nodup → schema.Typed given →
    ∃! o, toFields o = Fields.overlaid checker.defaults given
  accepted : ∀ given : Fields, given.names.Nodup → ∀ o, decode given = .ok o ↔
    schema.Typed given ∧ toFields o = Fields.overlaid checker.defaults given ∧ Valid o
  reordered : ∀ given other : Fields, given.names.Nodup → given.Perm other →
    ∀ o, decode given = .ok o ↔ decode other = .ok o
  refilled : ∀ given : Fields, given.names.Nodup →
    ∀ o, decode (checker.defaults.setAll given) = .ok o ↔ decode given = .ok o

namespace Schema

variable {schema : Schema} {given : Fields}

theorem readTyped (distinct : schema.names.Nodup) (typed : schema.Typed given)
    (start : schema.Values) :
    ∃ values, schema.read start given = .ok values ∧
      schema.write values = (schema.write start).setAll given := by
  induction given generalizing start with
  | nil => exact ⟨start, rfl, rfl⟩
  | cons field rest ih =>
    obtain ⟨next, taken, set⟩ := assignTakes distinct (typed field List.mem_cons_self) start
    obtain ⟨values, later, same⟩ :=
      ih (fun other inside => typed other (List.mem_cons_of_mem field inside)) next
    refine ⟨values, ?_, by rw [same, set]; rfl⟩
    rw [read, List.foldlM_cons]
    exact bindOk.mpr ⟨next, taken, later⟩

theorem typedOfRead {start values : schema.Values} (ok : schema.read start given = .ok values) :
    schema.Typed given := by
  induction given generalizing start with
  | nil => exact fun _ inside => absurd inside List.not_mem_nil
  | cons field rest ih =>
    rw [read, List.foldlM_cons] at ok
    obtain ⟨next, taken, later⟩ := bindOk.mp ok
    intro other inside
    rcases List.mem_cons.mp inside with same | behind
    · rw [same]
      exact assignOk taken
    · exact ih later other behind

theorem readOverlaid (distinct : schema.names.Nodup) (once : given.names.Nodup)
    (typed : schema.Typed given) (start : schema.Values) :
    ∃ values, schema.read start given = .ok values ∧
      schema.write values = Fields.overlaid (schema.write start) given := by
  obtain ⟨values, read, same⟩ := readTyped distinct typed start
  rw [← writeNames start] at distinct
  refine ⟨values, read, same.trans (Fields.setAllOverlaid distinct once ?_)⟩
  rw [writeNames]
  exact typedNames typed

theorem readExact (distinct : schema.names.Nodup) (once : given.names.Nodup)
    {start values : schema.Values} :
    schema.read start given = .ok values ↔
      schema.Typed given ∧ schema.write values = Fields.overlaid (schema.write start) given := by
  constructor
  · intro ok
    have typed := typedOfRead ok
    obtain ⟨others, read, same⟩ := readOverlaid distinct once typed start
    cases ok.symm.trans read
    exact ⟨typed, same⟩
  · intro known
    obtain ⟨others, read, same⟩ := readOverlaid distinct once known.1 start
    rw [writeUnique (known.2.trans same.symm)]
    exact read

end Schema

namespace OptionReader

variable {Options : Type} {reader : OptionReader Options} {given : Fields}

theorem toFieldsUnique {o p : Options} (same : reader.toFields o = reader.toFields p) : o = p := by
  rw [← reader.restored o, ← reader.restored p, Schema.writeUnique same]

theorem decodeOk {o : Options} :
    reader.decode given = .ok o ↔
      reader.schema.read (reader.toValues reader.start) given = .ok (reader.toValues o) := by
  rw [decode, mapOk]
  constructor
  · rintro ⟨values, read, rfl⟩
    rw [read, reader.held]
  · exact fun read => ⟨_, read, reader.restored o⟩

theorem decodeExact (once : given.names.Nodup) {o : Options} :
    reader.decode given = .ok o ↔ reader.schema.Typed given ∧
      reader.toFields o = Fields.overlaid (reader.toFields reader.start) given := by
  rw [decodeOk, Schema.readExact reader.distinct once]
  rfl

theorem overlays {checker : Checker} {decode : Fields → Except OptionError Options}
    {job : Options → Job} {Valid : Options → Prop}
    (configured : ∀ given, checker.configure given = (decode given).map job)
    (listed : checker.defaultOptions =
      .object (checker.defaults ++ [("filefilter", .ofTexts checker.fileRules)]))
    (defaults : checker.defaults = reader.toFields reader.start)
    (readBack : reader.decode (reader.toFields reader.start) = .ok reader.start)
    (decoded : ∀ given o, decode given = .ok o ↔ reader.decode given = .ok o ∧ Valid o) :
    Overlays checker decode job reader.toFields reader.schema Valid := by
  have accepted : ∀ given : Fields, given.names.Nodup → ∀ o, decode given = .ok o ↔
      reader.schema.Typed given ∧
        reader.toFields o = Fields.overlaid (reader.toFields reader.start) given ∧ Valid o := by
    intro given once o
    rw [decoded, decodeExact once, and_assoc]
  have distinct : (reader.toFields reader.start).names.Nodup := by
    rw [toFields, Schema.writeNames]
    exact reader.distinct
  refine ⟨configured, listed, fun given once typed => ?_, ?_, ?_, fun given once o => ?_⟩
  · obtain ⟨values, -, same⟩ :=
      Schema.readOverlaid reader.distinct once typed (reader.toValues reader.start)
    have written : reader.toFields (reader.ofValues values) =
        Fields.overlaid checker.defaults given := by
      rw [toFields, reader.held, same, defaults, toFields]
    exact ⟨_, written, fun other also => toFieldsUnique (also.trans written.symm)⟩
  · rw [defaults]
    exact accepted
  · intro given other once reordered o
    have alike : other.names.Nodup := (reordered.map Prod.fst).nodup once
    rw [accepted given once, accepted other alike, typedLookup once, typedLookup alike,
      Fields.overlaidAlike _ (Fields.lookupPerm once reordered)]
    simp only [Fields.lookupPerm once reordered]
  · have typed := Schema.typedOfRead (decodeOk.mp readBack)
    rw [defaults, accepted _ (Fields.distinctSetAll distinct given), accepted given once,
      typedRefilled distinct once typed, Fields.overlaidRefilled distinct once]

theorem overlaysPlain {checker : Checker} {job : Options → Job}
    (configured : ∀ given, checker.configure given = (reader.decode given).map job)
    (listed : checker.defaultOptions =
      .object (checker.defaults ++ [("filefilter", .ofTexts checker.fileRules)]))
    (defaults : checker.defaults = reader.toFields reader.start)
    (readBack : reader.decode (reader.toFields reader.start) = .ok reader.start) :
    Overlays checker reader.decode job reader.toFields reader.schema (fun _ => True) := by
  refine overlays configured listed defaults readBack (fun given o => ?_)
  rw [and_true]

end OptionReader
end LintGate
