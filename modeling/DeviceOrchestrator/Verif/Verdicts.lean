import Mathlib.Data.List.TakeWhile
import DeviceOrchestrator.Core.Inventory
import DeviceOrchestrator.Targets.Apk

/-!
# The verdict of an install

`install` is to return only on a genuine verdict: a line of its own that says `Success`, and no
failure beside it. `classify_install_output` looks for a named failure in both streams joined and
for the word anywhere in stdout, so it takes a text for a verdict that is none. What it names as
a failure always raises one of the two exceptions that the scheduler classifies. `Misleading`
describes the outputs that pass and are no verdict.
-/
namespace DeviceOrchestrator

/-! ## What a search finds -/

/-- **A search finds nothing exactly if its pattern refuses what follows each occurrence.** -/
theorem searchAfter_eq_none (mark : List Char) (pattern : List Char → Option String)
    (text : List Char) : searchAfter mark pattern text = none ↔
      ∀ before after, text = before ++ mark ++ after → pattern after = none := by
  induction text with
  | nil =>
    cases mark with
    | nil =>
      constructor
      · intro unfound before after joined
        simp only [List.append_nil] at joined
        obtain ⟨-, rfl⟩ := List.append_eq_nil_iff.mp joined.symm
        exact unfound
      · exact fun refuses => refuses [] [] rfl
    | cons first more => simp [searchAfter]
  | cons char rest ih =>
    have cut : (∀ before after, char :: rest = before ++ mark ++ after → pattern after = none) ↔
        (∀ after, char :: rest = mark ++ after → pattern after = none) ∧
          ∀ before after, rest = before ++ mark ++ after → pattern after = none := by
      constructor
      · intro refuses
        refine ⟨fun after joined => refuses [] after joined, fun before after joined => ?_⟩
        exact refuses (char :: before) after (by rw [joined, List.cons_append, List.cons_append])
      · rintro ⟨front, later⟩ before after joined
        cases before with
        | nil => exact front after joined
        | cons first before => exact later before after (List.cons.inj joined).2
    rw [cut, ← ih, searchAfter]
    split
    · rename_i begins
      obtain ⟨after, joined⟩ := List.isPrefixOf_iff_prefix.mp begins
      have front : (∀ after, char :: rest = mark ++ after → pattern after = none) ↔
          pattern after = none := by
        rw [← joined]
        exact ⟨fun refuses => refuses after rfl, fun refused other same =>
          List.append_cancel_left same ▸ refused⟩
      rw [front, ← joined, List.drop_left]
      cases pattern after <;> simp
    · rename_i apart
      have front : ∀ after, char :: rest = mark ++ after → pattern after = none := fun after joined =>
        absurd (List.isPrefixOf_iff_prefix.mpr ⟨after, joined.symm⟩) apart
      simp only [and_iff_right front]

/-- A part is in a text exactly if the text splits around it. -/
theorem contains_iff {part text : String} :
    contains part text = true ↔ ∃ before after, text = before ++ part ++ after := by
  have none_iff := searchAfter_eq_none part.toList (fun _ => some "") text.toList
  rw [contains, Option.isSome_iff_ne_none, ne_eq, none_iff]
  constructor
  · intro found
    by_contra apart
    refine found fun before after joined => absurd ⟨String.ofList before, String.ofList after, ?_⟩ apart
    apply String.toList_inj.mp
    simpa using joined
  · rintro ⟨before, after, rfl⟩ refuses
    cases refuses before.toList after.toList (by simp)

/-- Blanks, an opening bracket and a character of a code. -/
theorem bracketed_isSome {chars : List Char} : (bracketed chars).isSome = true ↔
    ∃ blanks char after, chars = blanks ++ '[' :: char :: after ∧
      (∀ blank ∈ blanks, isSpace blank = true) ∧ codeChar char = true := by
  have begun : ∀ rest : List Char, (leading codeChar rest).isSome = true ↔
      ∃ char after, rest = char :: after ∧ codeChar char = true := by
    intro rest
    cases rest with
    | nil => simp [leading]
    | cons char after =>
      cases kind : codeChar char with
      | true => simp [leading, kind]
      | false => simp [leading, kind]
  constructor
  · intro found
    have split := List.takeWhile_append_dropWhile (p := isSpace) (l := chars)
    unfold bracketed at found
    split at found
    · rename_i rest opened
      obtain ⟨char, after, rfl, kind⟩ := (begun rest).mp found
      refine ⟨chars.takeWhile isSpace, char, after, ?_, ?_, kind⟩
      · rw [← opened, split]
      · exact fun blank member => List.mem_takeWhile_imp member
    · cases found
  · rintro ⟨blanks, char, after, rfl, spaces, kind⟩
    have bracket : isSpace '[' = false := by decide
    have opened : (blanks ++ '[' :: char :: after).dropWhile isSpace = '[' :: char :: after := by
      rw [List.dropWhile_append_of_pos spaces, List.dropWhile_cons_of_neg (by simp [bracket])]
    unfold bracketed
    rw [opened]
    exact (begun (char :: after)).mpr ⟨char, after, rfl, kind⟩

/-- A text names a failure: the word, blanks, an opening bracket and a character of a code stand in
it one after the other. -/
def NamesFailure (text : String) : Prop :=
  ∃ before blanks char after,
    text.toList = before ++ "Failure".toList ++ (blanks ++ '[' :: char :: after) ∧
      (∀ blank ∈ blanks, isSpace blank = true) ∧ codeChar char = true

/-- **`_FAILURE_RE` finds exactly these.** -/
theorem failureCode_eq_none {text : String} : failureCode text = none ↔ ¬NamesFailure text := by
  rw [failureCode, searchAfter_eq_none]
  constructor
  · rintro refuses ⟨before, blanks, char, after, joined, spaces, kind⟩
    have found := bracketed_isSome.mpr ⟨blanks, char, after, rfl, spaces, kind⟩
    rw [refuses before _ joined] at found
    cases found
  · intro unnamed before after joined
    rw [← Option.not_isSome_iff_eq_none, bracketed_isSome]
    rintro ⟨blanks, char, rest, rfl, spaces, kind⟩
    exact unnamed ⟨before, blanks, char, rest, joined, spaces, kind⟩

/-! ## What the step makes of it -/

/-- `FatalError` or `RetryableError`. -/
def Raised.classified : Raised → Bool
  | .fatal _ | .retryable _ _ => true
  | _ => false

/-- Every code raises one of the two. -/
theorem raiseForInstallCode_classified (code package deviceId : String) :
    (raiseForInstallCode code package deviceId).classified = true := by
  unfold raiseForInstallCode
  split
  · rfl
  · split
    · rfl
    · split <;> rfl

/-- A genuine verdict: a line of stdout, trimmed, is `Success`, and neither stream has a
failure. -/
def AdbResult.genuine (result : AdbResult) : Bool :=
  (splitLines result.stdout).any (fun line => strip line = "Success") &&
    !contains "Failure [" result.stdout && !contains "Failure [" result.stderr

/-- The two streams as `classify_install_output` joins them. -/
def AdbResult.blob (result : AdbResult) : String := result.stdout ++ "\n" ++ result.stderr

/-- Outputs that say `Success` somewhere in stdout and name no failure, and are no verdict. -/
inductive AdbResult.Misleading (result : AdbResult) : Prop
  /-- The word stands on no line of its own. -/
  | stray : (∃ before after, result.stdout = before ++ "Success" ++ after) →
      (∀ line ∈ splitLines result.stdout, strip line ≠ "Success") →
      ¬NamesFailure result.blob → Misleading result
  /-- A stream begins to name a failure, and no code follows. -/
  | unfinished {stream : String} : (∃ before after, result.stdout = before ++ "Success" ++ after) →
      stream ∈ [result.stdout, result.stderr] →
      (∃ before after, stream = before ++ "Failure [" ++ after) →
      ¬NamesFailure result.blob → Misleading result

/-- **What counts as an install.** No failure is named in the joined streams, and the word is
somewhere in stdout. -/
theorem classifyInstallOutput_none_iff (result : AdbResult) :
    classifyInstallOutput result = none ↔
      failureCode result.blob = none ∧ contains "Success" result.stdout = true := by
  have joined : result.stdout ++ "\n" ++ result.stderr = result.blob := rfl
  unfold classifyInstallOutput
  rw [joined]
  cases failureCode result.blob with
  | some code => simp
  | none =>
    cases contains "Success" result.stdout with
    | true => simp
    | false =>
      simp only [Bool.false_eq_true, ↓reduceIte, and_false, iff_false]
      split
      · simp
      · split <;> simp

/-- **These are the outputs that count as an install and are no verdict.** -/
theorem AdbResult.misleading_iff {result : AdbResult} :
    result.Misleading ↔ classifyInstallOutput result = none ∧ result.genuine = false := by
  rw [classifyInstallOutput_none_iff, failureCode_eq_none, contains_iff]
  have line : (splitLines result.stdout).any (fun line => strip line = "Success") = false ↔
      ∀ line ∈ splitLines result.stdout, strip line ≠ "Success" := by
    simp
  constructor
  · rintro (⟨word, apart, unnamed⟩ | ⟨word, member, begun, unnamed⟩)
    · exact ⟨⟨unnamed, word⟩, by rw [genuine, line.mpr apart]; rfl⟩
    · refine ⟨⟨unnamed, word⟩, ?_⟩
      have begun := contains_iff.mpr begun
      rcases List.mem_pair.mp member with rfl | rfl
      · simp [genuine, begun]
      · simp [genuine, begun]
  · rintro ⟨⟨unnamed, word⟩, other⟩
    simp only [genuine, Bool.and_eq_false_iff, Bool.not_eq_false'] at other
    rcases other with (apart | begun) | begun
    · exact .stray word (line.mp apart) unnamed
    · exact .unfinished word List.mem_cons_self (contains_iff.mp begun) unnamed
    · exact .unfinished word (by simp) (contains_iff.mp begun) unnamed

instance (result : AdbResult) : Decidable result.Misleading :=
  decidable_of_iff _ AdbResult.misleading_iff.symm

/-- The word on its own line does not excuse a failure without a code. -/
example : AdbResult.Misleading ⟨0, "Success\n", "Failure [null]\n", false⟩ := by
  decide +kernel

namespace ApkTarget

variable (python : Python) (target : ApkTarget) (adb : ApkAnswers) (deviceId : DeviceId)
  (step : Fields) {result : AdbResult}

/-- The step ran `adb install`, which answered. -/
structure Installs (result : AdbResult) : Prop where
  /-- It has a path. -/
  named : installPath python step ≠ ""
  /-- There is a build. -/
  isFile : (adb.file (installPath python step)).isFile = true
  /-- It could be hashed. -/
  hashed : ∃ digest, (adb.file (installPath python step)).digest = .ok digest
  /-- adb answered within the budget. -/
  answered : ∃ seconds,
    (step.getD "timeout_s" (.float target.installTimeoutS)).toFloat = .ok seconds ∧
      adb.run (["install"] ++ installFlags step ++ [installPath python step])
        (pyMin seconds adb.budget) = .ok result

/-- The step returns only on a genuine verdict, and raises `FatalError` or `RetryableError` on
everything else. -/
def Honest (result : AdbResult) : Prop :=
  (∀ fields, target.install python adb deviceId step = .ok fields → result.genuine = true) ∧
    (result.genuine = false →
      ∃ raised, target.install python adb deviceId step = .error raised ∧
        raised.classified = true)

variable {python target adb step}

/-- What the step does with what adb answered. -/
theorem Installs.install_eq (installs : target.Installs python adb step result) :
    ∃ package digest, target.install python adb deviceId step =
      match classifyInstallOutput result with
      | some code => .error (raiseForInstallCode code package deviceId)
      | none => (escaping (adb.file (installPath python step)).size).bind fun size =>
        .ok [("installed", .str package), ("sha256", .str digest), ("bytes", .int size)] := by
  obtain ⟨digest, hashed⟩ := installs.hashed
  obtain ⟨seconds, converted, answered⟩ := installs.answered
  refine ⟨if (step.get "package").truthy then (step.get "package").text python
    else basename (installPath python step), digest, ?_⟩
  simp only [install, installs.named, installs.isFile, hashed, converted, escaping,
    ↓reduceIte, Bool.not_true, Bool.false_eq_true]
  show (adb.run _ _).bind _ = _
  rw [answered]
  rfl

/-- **When an install is green only on a genuine verdict.** Exactly when what adb printed is not
misleading: the word `Success` beside no line of its own, or beside a failure without a code. -/
theorem install_honest_iff (installs : target.Installs python adb step result) :
    target.Honest python adb deviceId step result ↔ ¬result.Misleading := by
  rw [AdbResult.misleading_iff]
  obtain ⟨package, digest, install⟩ := installs.install_eq deviceId
  cases classified : classifyInstallOutput result with
  | some code =>
    rw [classified] at install
    have stopped : ¬(some code = none ∧ result.genuine = false) := fun passes => by
      cases passes.1
    refine ⟨fun _ => stopped, fun _ => ⟨?_, ?_⟩⟩
    · intro fields returned
      rw [install] at returned
      cases returned
    · intro _
      exact ⟨_, install, raiseForInstallCode_classified code package deviceId⟩
  | none =>
    rw [classified] at install
    constructor
    · rintro honest ⟨-, other⟩
      obtain ⟨raised, raises, named⟩ := honest.2 other
      rw [install] at raises
      cases size : (adb.file (installPath python step)).size with
      | ok bytes =>
        rw [size] at raises
        cases raises
      | error error =>
        rw [size] at raises
        cases raises
        cases named
    · intro calm
      have genuine : result.genuine = true := by
        by_contra other
        exact calm ⟨rfl, Bool.eq_false_iff.mpr other⟩
      exact ⟨fun _ _ => genuine, fun other => by rw [genuine] at other; cases other⟩

/-- A build is there, and adb answers. -/
def oneBuild (result : AdbResult) : ApkAnswers where
  remaining := 60
  budget := 60
  run _ _ := .ok result
  file _ := { isFile := true, digest := .ok "5f70bf18a086", size := .ok 4096 }

/-- A step that installs a build. -/
def installStep : Fields :=
  [("op", .str "install"), ("path", .str "build/SuccessTracker.apk")]

/-- The step runs `adb install`. -/
theorem installs_oneBuild (result : AdbResult) :
    ApkTarget.Installs default {} (oneBuild result) installStep result where
  named := by decide
  isFile := rfl
  hashed := ⟨_, rfl⟩
  answered := ⟨_, rfl, rfl⟩

/-- The package manager is down; adb exits 0 and has named the file it pushed. -/
def managerDown : AdbResult where
  returncode := 0
  stdout := "\tpkg: /data/local/tmp/SuccessTracker.apk\n" ++
    "Error: Could not access the Package Manager.  Is the system running?\n"

/-- The name of the file passes for the verdict. -/
theorem install_green_managerDown :
    ApkTarget.Installs default {} (oneBuild managerDown) installStep managerDown ∧
      managerDown.genuine = false ∧
      (∃ fields, ApkTarget.install default {} (oneBuild managerDown) "R9WABC123" installStep =
        .ok fields) ∧
      ¬ ApkTarget.Honest default {} (oneBuild managerDown) "R9WABC123" installStep managerDown := by
  have installs := installs_oneBuild managerDown
  have other : managerDown.genuine = false := by decide +kernel
  have passes : classifyInstallOutput managerDown = none := by decide +kernel
  obtain ⟨package, digest, install⟩ := installs.install_eq "R9WABC123"
  rw [passes] at install
  refine ⟨installs, other, ⟨_, install⟩, fun honest => ?_⟩
  have genuine := honest.1 _ install
  rw [other] at genuine
  cases genuine

/-- A phone that says so has the build. -/
theorem install_honest_success :
    ApkTarget.Honest default {} (oneBuild ⟨0, "Performing Streamed Install\nSuccess\n", "", false⟩)
      "R9WABC123" installStep ⟨0, "Performing Streamed Install\nSuccess\n", "", false⟩ := by
  have calm :
      ¬AdbResult.Misleading ⟨0, "Performing Streamed Install\nSuccess\n", "", false⟩ := by
    decide +kernel
  exact (install_honest_iff "R9WABC123" (installs_oneBuild _)).mpr calm

end ApkTarget

end DeviceOrchestrator
