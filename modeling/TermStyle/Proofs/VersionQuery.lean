import TermStyle.Proofs.ConsoleTrace
import TermStyle.Proofs.VersionBanner

/-! Asking the platform for its version. Elsewhere nothing is run. On Windows one command is, and whatever comes of it the
version is known or unknown, unless the command prints a version with a number that is too long to be read. -/

namespace TermStyle.Proofs.VersionQuery
open ActionRun ConsoleRun ConsoleOutcome ConsoleTrace ExceptSteps Logging NumeralReading StylerRun VersionBanner Platform Text

/-- The first bracket of the form has a number that is too long to be read. -/
def Overlong (banner : String) : Prop := ∃ front bracket, Leftmost (stripped banner) front bracket ∧ ¬ bracket.Short

theorem ofBanner_cases (banner : String) :
    (¬ Overlong banner ∧ ∃ found, Version.ofBanner banner = .ok found) ∨
      (Overlong banner ∧ ∃ digits, Numeral.digitLimit < digits ∧ Version.ofBanner banner = .error (.tooLong digits)) := by
  rcases find?_cases (stripped banner) with ⟨_, nowhere⟩ | ⟨front, bracket, leftmost, _⟩
  · refine .inl ⟨?_, none, ofBanner_none nowhere⟩
    rintro ⟨front, bracket, leftmost, _⟩
    exact nowhere front bracket leftmost.toAnnounces
  · rcases ofNumerals_cases leftmost.fits with ⟨short, read⟩ | ⟨group, member, long, refused⟩
    · refine .inl ⟨?_, _, (ofBanner_leftmost leftmost).trans read⟩
      rintro ⟨_, other, first, lengthy⟩
      have same := (find?_leftmost first).symm.trans (find?_leftmost leftmost)
      apply lengthy
      rwa [Bracket.Short, Option.some.inj same]
    · refine .inr ⟨⟨front, bracket, leftmost, fun short => ?_⟩, _, long, (ofBanner_leftmost leftmost).trans refused⟩
      exact absurd (short group member) (Nat.not_le.mpr long)

def question : List String := ["cmd", "/c", "ver"]

def reply (before : Session) : Outcome := (Platform.next before.world.platform.outcomes).1

def printed? : Outcome → Option String
  | .exit 0 banner => some banner
  | _ => none

/-- The version that is read off the reply of the command. -/
def told (reply : Outcome) : Except Failure (Option Version) :=
  match printed? reply with
  | some banner => (Version.ofBanner banner).mapError fun error => .fault (.numeral error)
  | none => .ok none

section Telling

variable {reply : Outcome} {banner : String}

theorem printed?_ill (ill : endsWell reply = false) : printed? reply = none := by
  unfold printed?
  split
  · cases ill
  · rfl

theorem told_well (well : printed? reply = some banner) :
    told reply = (Version.ofBanner banner).mapError fun error => .fault (.numeral error) := by
  rw [told, well]

theorem told_ill (ill : printed? reply = none) : told reply = .ok none := by
  rw [told, ill]

theorem told_ok_iff {found : Option Version} : told reply = .ok found ↔
    (∃ banner, printed? reply = some banner ∧ Version.ofBanner banner = .ok found) ∨ (printed? reply = none ∧ found = none) := by
  cases printed : printed? reply with
  | none => simp [told_ill printed, eq_comm]
  | some banner => simp [told_well printed, mapError_ok_iff]

theorem told_returns_iff : (∃ found, told reply = .ok found) ↔ ∀ banner, printed? reply = some banner → ¬ Overlong banner := by
  cases printed : printed? reply with
  | none => simp [told_ill printed]
  | some banner =>
    rw [told_well printed]
    rcases ofBanner_cases banner with ⟨short, found, read⟩ | ⟨long, digits, _, refused⟩
    · simp [read, short]
    · simp [refused, long]

theorem told_error {failure : Failure} (failed : told reply = .error failure) :
    ∃ digits, Numeral.digitLimit < digits ∧ failure = .fault (.numeral (.tooLong digits)) := by
  cases printed : printed? reply with
  | none =>
    rw [told_ill printed] at failed
    cases failed
  | some banner =>
    rw [told_well printed] at failed
    rcases ofBanner_cases banner with ⟨_, found, read⟩ | ⟨_, digits, long, refused⟩
    · rw [read] at failed
      cases failed
    · rw [refused] at failed
      cases failed
      exact ⟨digits, long, rfl⟩

end Telling

section Asking

variable {before : Session}

theorem version_elsewhere (elsewhere : before.world.platform.onWindows = false) :
    outcome Query.version before = (.ok none, before) := by
  simp [Query.version, elsewhere]

theorem absorbed_run (before : Session) : ∃ after,
    outcome (Query.absorbed Query.failed (runCommand question patience)) before = (.ok (printed? (reply before)), after) ∧
      after.world.platform = (before.world.platform.run question patience).2 := by
  have replied : (before.world.platform.run question patience).1 = reply before := rfl
  have filled : question ≠ [] := by simp [question]
  cases well : endsWell (reply before) with
  | false =>
    rw [printed?_ill well]
    rw [← replied] at well
    obtain ⟨problem, failed⟩ := runCommand_ill before filled well
    exact ⟨_, absorbed_problem (fun _ => rfl) failed, emitted_platform _ _⟩
  | true =>
    obtain ⟨banner, same⟩ := endsWell_exit well
    rw [same]
    rw [← replied] at same
    exact ⟨_, absorbed_value (runCommand_well before same), rfl⟩

/-- The version is what is told by the reply, whether or not it is noted that nothing was found in it. -/
theorem version_run (windows : before.world.platform.onWindows = true) : ∃ after,
    outcome Query.version before = (told (reply before), after) ∧
      after.world.platform = (before.world.platform.run question patience).2 := by
  obtain ⟨middle, asked, platform⟩ := absorbed_run before
  rw [question] at asked
  simp only [Query.version, outcome_bind, outcome_world, andThen_ok, windows, Bool.not_true, Bool.false_eq_true,
    if_false, asked]
  cases printed : printed? (reply before) with
  | none =>
    rw [told_ill printed]
    exact ⟨middle, rfl, platform⟩
  | some banner =>
    rw [told_well printed]
    simp only [outcome_bind, outcome_lift]
    cases Version.ofBanner banner with
    | error error => exact ⟨middle, rfl, platform⟩
    | ok found =>
      cases found with
      | some version => exact ⟨middle, rfl, platform⟩
      | none =>
        have bare : (Log.Record.debug Query.logger ("Unrecognized ver output: " ++ Quoted.quoted banner)).args = [] := rfl
        have noted := note_single bare middle
        simp only [mapError_ok, andThen_ok, Option.isNone_none, if_true, outcome_bind, noted, outcome_pure]
        exact ⟨_, rfl, (emitted_platform _ _).trans platform⟩

end Asking

/-- Off Windows the version is unknown and nothing happens. On Windows one command is run, and with any reply the version
is known or unknown, but for a reply with a number that is too long. That alone ends the query with a fault. -/
theorem version_asked_once (before : Session) :
    (before.world.platform.onWindows = false → outcome Query.version before = (.ok none, before)) ∧
    (before.world.platform.onWindows = true →
      (outcome Query.version before).2.world.platform.trace = before.world.platform.trace ++ [ran question (reply before)] ∧
      ((∃ found, (outcome Query.version before).1 = .ok found) ↔
        ∀ banner, printed? (reply before) = some banner → ¬ Overlong banner) ∧
      (∀ found, (outcome Query.version before).1 = .ok found ↔
        (∃ banner, printed? (reply before) = some banner ∧ Version.ofBanner banner = .ok found) ∨
          (printed? (reply before) = none ∧ found = none)) ∧
      (∀ failure, (outcome Query.version before).1 = .error failure →
        ∃ digits, Numeral.digitLimit < digits ∧ failure = .fault (.numeral (.tooLong digits)))) := by
  refine ⟨version_elsewhere, fun windows => ?_⟩
  obtain ⟨after, run, platform⟩ := version_run windows
  rw [run]
  exact ⟨by rw [platform]; rfl, told_returns_iff, fun found => told_ok_iff, fun failure => told_error⟩

def asking (reply : Outcome) : Session :=
  { plainSession .none with
    world := { (plainSession .none).world with platform := { Platform.plain with onWindows := true, outcomes := [reply] } } }

theorem version_asked_once_late :
    (plainSession .none).world.platform.onWindows = false ∧ (asking (.fault .timedOut)).world.platform.onWindows = true ∧
    outcome Query.version (plainSession .none) = (.ok none, plainSession .none) ∧
    (outcome Query.version (asking (.fault .timedOut))).1 = .ok none := by
  obtain ⟨_, _, read, _⟩ := (version_asked_once (asking (.fault .timedOut))).2 rfl
  exact ⟨rfl, rfl, (version_asked_once (plainSession .none)).1 rfl, (read none).mpr (.inr ⟨rfl, rfl⟩)⟩

/-- For any digits, so that nothing has to be computed on the long ones. -/
private theorem overlong_major {digits : String} (run : IsRun digits.toList) (long : Numeral.digitLimit < digits.toList.length) :
    Overlong ("[Version " ++ digits ++ ".0.0]") := by
  have zero : IsRun ['0'] := ⟨by simp, by simp; decide⟩
  have fits : Bracket.Fits ⟨"Version".toList, digits.toList, ['0'], ['0'], []⟩ :=
    ⟨by simp, by simp; decide, run, zero, zero, by simp, by simp⟩
  have leftmost := leftmost_printed fits (List.not_mem_nil (a := '[')) (List.forall_mem_nil (Blank.isBlank · = true))
  have lengthy : ¬ Bracket.Short ⟨"Version".toList, digits.toList, ['0'], ['0'], []⟩ :=
    fun short => absurd (short digits.toList List.mem_cons_self) (Nat.not_le.mpr long)
  have letters : stripped ("[Version " ++ digits ++ ".0.0]") = Blank.stripBy Blank.isBlank
      ([] ++ '[' :: (Bracket.text ⟨"Version".toList, digits.toList, ['0'], ['0'], []⟩ ++ [])) := by
    simp [stripped, Bracket.text]
  rw [← letters] at leftmost
  exact ⟨_, _, leftmost, lengthy⟩

theorem overlong_version_fails :
    ¬ ∃ found, (outcome Query.version (asking (.exit 0 ("[Version " ++ ones ++ ".0.0]")))).1 = .ok found := by
  have run : IsRun ones.toList := ⟨List.ne_nil_of_length_pos (Nat.zero_lt_of_lt ones_long), ones_all (by decide)⟩
  have windows : (asking (.exit 0 ("[Version " ++ ones ++ ".0.0]"))).world.platform.onWindows = true := rfl
  obtain ⟨after, asked, _⟩ := version_run windows
  rw [asked, told_returns_iff]
  exact fun short => short _ rfl (overlong_major run ones_long)

end TermStyle.Proofs.VersionQuery
