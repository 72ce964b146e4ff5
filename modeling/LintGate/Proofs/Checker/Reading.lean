import LintGate.Checker.Reading
import LintGate.Change.Supply
import LintGate.Proofs.Except

/-! A check that reads its files on its own fails exactly when one of them cannot be read;
otherwise its findings are those of the files, one after the other. -/
namespace LintGate

def Context.ofFiles (files : List (String × ByteArray)) : Context :=
  ⟨".", ⟨files.map (fun file => ([file.1], .file file.2 false)), []⟩,
    fun command => .error (.spawn (commandLine command) "not found")⟩

def oneBlank : Context := .ofFiles [("a.py", "b \n".toUTF8)]

def Readable (ctx : Context) (file : String) : Prop :=
  ∃ bytes, ctx.tree.read (Path.join ctx.root file) = .ok bytes

def foundIn (ctx : Context) (check : (file source : String) → List Finding) (file : String) :
    List Finding :=
  (ctx.tree.readText (Path.join ctx.root file)).toOption.elim [] (check file)

variable {ctx : Context} {file : String}

theorem existsReadable : existsBelow ctx.tree ctx.root file = true ↔ Readable ctx file := by
  unfold existsBelow FileTree.isFile Readable
  cases ctx.tree.read (Path.join ctx.root file) with
  | error e => simp [Except.isOk, Except.toBool]
  | ok bytes => simp [Except.isOk, Except.toBool]

theorem readableText {source : String}
    (text : ctx.tree.readText (Path.join ctx.root file) = .ok source) : Readable ctx file := by
  unfold FileTree.readText at text
  split at text
  · cases text
  · exact ⟨_, by assumption⟩

theorem textDecoded {bytes : ByteArray} {source : String}
    (content : ctx.tree.read (Path.join ctx.root file) = .ok bytes)
    (decoded : String.fromUTF8? bytes = some source) :
    ctx.tree.readText (Path.join ctx.root file) = .ok source := by
  simp only [FileTree.readText, content, decodeText, decoded]

theorem textUndecoded {bytes : ByteArray}
    (content : ctx.tree.read (Path.join ctx.root file) = .ok bytes)
    (undecoded : String.fromUTF8? bytes = none) :
    ctx.tree.readText (Path.join ctx.root file) = .error .notText := by
  simp only [FileTree.readText, content, decodeText, undecoded]

variable {check : (file source : String) → List Finding}

theorem foundInText {source : String}
    (text : ctx.tree.readText (Path.join ctx.root file) = .ok source) :
    foundIn ctx check file = check file source := by
  simp [foundIn, text, Except.toOption]

theorem foundInNothing {e : ReadError}
    (text : ctx.tree.readText (Path.join ctx.root file) = .error e) :
    foundIn ctx check file = [] := by
  simp [foundIn, text, Except.toOption]

theorem foundInMem {m : Finding} (member : m ∈ foundIn ctx check file) :
    ∃ source, ctx.tree.readText (Path.join ctx.root file) = .ok source ∧
      m ∈ check file source := by
  cases text : ctx.tree.readText (Path.join ctx.root file) with
  | error e => simp [foundInNothing text] at member
  | ok source =>
    rw [foundInText text] at member
    exact ⟨source, rfl, member⟩

theorem checkEachCons (readable : Readable ctx file) (rest : List String) :
    checkEach ctx check (file :: rest) =
      (checkEach ctx check rest).map (foundIn ctx check file ++ ·) := by
  obtain ⟨bytes, content⟩ := readable
  -- Unfolded as a whole: the equation of the second case alone evaluates the lookup of the file.
  conv => lhs; unfold checkEach
  cases decoded : String.fromUTF8? bytes with
  | none => simp [content, decoded, foundInNothing (textUndecoded content decoded)]
  | some source => simp [content, decoded, foundInText (textDecoded content decoded)]

theorem checkEachUnread {e : ReadError}
    (unread : ctx.tree.read (Path.join ctx.root file) = .error e) (rest : List String) :
    checkEach ctx check (file :: rest) =
      .error (.io ("cannot read " ++ Path.join ctx.root file ++ ": " ++ e.message)) := by
  unfold checkEach
  simp only [unread]

variable (check)

theorem checkEachAppend {earlier : List String} (readable : ∀ file ∈ earlier, Readable ctx file)
    (later : List String) :
    checkEach ctx check (earlier ++ later) =
      (checkEach ctx check later).map (earlier.flatMap (foundIn ctx check) ++ ·) := by
  induction earlier with
  | nil => simp
  | cons file rest ih =>
    rw [List.cons_append, checkEachCons (readable file List.mem_cons_self),
      ih (fun other inside => readable other (List.mem_cons_of_mem file inside))]
    simp

theorem checkEachReadable {files : List String} (readable : ∀ file ∈ files, Readable ctx file) :
    checkEach ctx check files = .ok (files.flatMap (foundIn ctx check)) := by
  have whole := checkEachAppend check readable []
  rw [List.append_nil] at whole
  exact whole.trans (congrArg Except.ok (List.append_nil _))

theorem checkEachFirst {files : List String} (unreadable : ∃ file ∈ files, ¬ Readable ctx file) :
    ∃ before file after e, files = before ++ file :: after ∧
      (∀ other ∈ before, Readable ctx other) ∧
      ctx.tree.read (Path.join ctx.root file) = .error e ∧
      checkEach ctx check files =
        .error (.io ("cannot read " ++ Path.join ctx.root file ++ ": " ++ e.message)) := by
  have some : (files.find? (fun file => !existsBelow ctx.tree ctx.root file)).isSome = true := by
    obtain ⟨file, inside, missing⟩ := unreadable
    refine List.find?_isSome.mpr ⟨file, inside, ?_⟩
    simpa [← existsReadable] using missing
  obtain ⟨file, found⟩ := Option.isSome_iff_exists.mp some
  obtain ⟨missing, before, after, cut, earlier⟩ := List.find?_eq_some_iff_append.mp found
  simp only [Bool.not_not, existsReadable] at earlier
  cases content : ctx.tree.read (Path.join ctx.root file) with
  | ok bytes => simp [existsReadable.mpr ⟨bytes, content⟩] at missing
  | error e =>
    refine ⟨before, file, after, e, cut, earlier, content, ?_⟩
    rw [cut, checkEachAppend check earlier, checkEachUnread content]
    rfl

variable {check}

theorem checkEachOk {files : List String} {raw : List Finding} :
    checkEach ctx check files = .ok raw ↔
      (∀ file ∈ files, Readable ctx file) ∧ raw = files.flatMap (foundIn ctx check) := by
  constructor
  · intro ok
    have readable : ∀ file ∈ files, Readable ctx file := by
      by_contra unread
      simp only [not_forall, exists_prop] at unread
      obtain ⟨_, _, _, _, _, _, _, failed⟩ := checkEachFirst check unread
      cases ok.symm.trans failed
    exact ⟨readable, Except.ok.inj (ok.symm.trans (checkEachReadable check readable))⟩
  · rintro ⟨readable, rfl⟩
    exact checkEachReadable check readable

end LintGate
