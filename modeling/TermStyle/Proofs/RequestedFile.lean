import TermStyle.Proofs.DiscoveredFile
import TermStyle.Proofs.LoadOutcome

/-! A settings file that is asked for and holds no mapping. The user is told of what cannot be opened, of a malformed
document and of a value of another kind; but an empty value of another kind counts as a mapping without entries, and the
faults that are neither of the file nor of the document's form end the load by themselves. -/

namespace TermStyle.Proofs.RequestedFile
open Log Settings ExceptSteps SettingsSources DiscoveredFile LoadOutcome

/-- What is neither a mapping nor the value of a document that is not there. -/
def Foreign : Yaml.Object → Prop
  | .dict _ => False
  | .scalar value => value ≠ .null
  | .list _ | .pairs _ | .set _ => True

def Hollow : Yaml.Object → Prop
  | .dict _ => False
  | .scalar value => value ≠ .null ∧ value.isEmpty = true
  | .list items => items = []
  | .pairs items => items = []
  | .set members => members = []

/-- Why there are no settings in a file: a fault on the way to its document, or what the document is. -/
inductive Reason
  | fault (fault : Fault)
  | document (root : Yaml.Object)

inductive Unfit (store : Store) (name : String) : Reason → Prop
  | unread {error : Store.Error} (failed : store.read name = .error error) : Unfit store name (.fault (.store error))
  | unparsed {content : ByteArray} {fault : Fault} (read : store.read name = .ok content)
      (failed : Yaml.read content = .error fault) : Unfit store name (.fault fault)
  | foreign {content : ByteArray} {document : Yaml.Document} (read : store.read name = .ok content)
      (parsed : Yaml.read content = .ok document) (foreign : Foreign (document.object document.root)) :
      Unfit store name (.document (document.object document.root))

/-- The reasons that the user is told of. -/
def Told : Reason → Prop
  | .fault fault => Absorbed (some fault)
  | .document root => ¬ Hollow root

def Overlooked : Reason → Prop
  | .fault _ => False
  | .document root => Hollow root

def report (name : String) : Reason → Problem
  | .fault fault => .configuration "Could not read config file" none none (some name) (some fault)
  | .document _ => .configuration "Config file must contain a mapping" none none (some name) none

variable {store : Store} {env : Environment} {name : String} {reason : Reason}

theorem Foreign.entries {document : Yaml.Document} (foreign : Foreign (document.object document.root)) :
    (Hollow (document.object document.root) → document.entries? = some []) ∧
    (¬ Hollow (document.object document.root) → document.entries? = none) := by
  unfold Yaml.Document.entries?
  generalize document.object document.root = root at foreign ⊢
  cases root with
  | dict entries => exact foreign.elim
  | scalar value =>
    have something : value ≠ .null := foreign
    simp [Hollow, something]
  | list items => simp [Hollow]
  | pairs items => simp [Hollow]
  | set members => simp [Hollow]

theorem absorbed_unreadable {fault : Fault} (absorbed : Absorbed (some fault)) :
    Obstacle.ofFault fault = .unreadable fault := by
  unfold Absorbed at absorbed
  split at absorbed
  next same => cases same
  next same =>
    cases same
    rfl
  next same =>
    cases same
    rfl
  · exact absorbed.elim

theorem load_requested (named : name ≠ "") (there : isThere store name = .ok true) :
    load store env (some name) =
      match readEntries store name with
      | .error obstacle => ⟨.error (obstacle.failure name), []⟩
      | .ok entries => ⟨laidOver (overlay name entries standard).value env, (overlay name entries standard).records⟩ := by
  have asked : (some name).filter (!·.isEmpty) = some name := by simp [named]
  have wanted : ofFiles store env (some name) = requested store name := ofFiles_asked asked
  cases read : readEntries store name with
  | error obstacle =>
    have refused : requested store name = ⟨.error (obstacle.failure name), []⟩ := by
      unfold requested
      rw [there]
      dsimp only
      rw [read]
    rw [load, wanted, refused]
    rfl
  | ok entries =>
    have found : store.exists? (Store.Path.ofText name).text = .ok true := mapError_ok_iff.mp there
    have values := wanted.trans (requested_read read found)
    rw [load_value (congrArg Noted.value values), values]

/-- What a file that is fit for nothing is taken for. -/
theorem Unfit.entries (unfit : Unfit store name reason) :
    (Overlooked reason → readEntries store name = .ok []) ∧
    (Told reason → ∃ obstacle, readEntries store name = .error obstacle ∧ obstacle.failure name = .problem (report name reason)) ∧
    (¬ Overlooked reason → ¬ Told reason → ∃ fault, reason = .fault fault ∧ readEntries store name = .error (.stray fault)) := by
  cases unfit with
  | unread failed =>
    have broken := broken_entries (.unread failed)
    refine ⟨False.elim, fun _ => ⟨_, broken, rfl⟩, fun _ untold => absurd trivial untold⟩
  | @unparsed content fault read failed =>
    have broken := broken_entries (.unparsed read failed)
    refine ⟨False.elim, ?_, ?_⟩
    · intro told
      exact ⟨_, broken.trans (congrArg _ (absorbed_unreadable told)), rfl⟩
    · intro _ untold
      obtain ⟨_, ⟨⟩, stray⟩ := unabsorbed_stray untold
      exact ⟨fault, rfl, broken.trans (congrArg _ stray)⟩
  | foreign read parsed foreign =>
    obtain ⟨hollow, solid⟩ := foreign.entries
    refine ⟨?_, ?_, fun full untold => absurd full untold⟩
    · intro overlooked
      have listed : entries? _ = some [] := congrArg (Option.map _) (hollow overlooked)
      exact readEntries_ok parsed listed read
    · intro told
      exact ⟨_, broken_entries (.noMapping read parsed (solid told)), rfl⟩

/-- An unfit file that is asked for ends the load with a problem for the user exactly if its reason is one that is told,
or if it is overlooked and the environment is wrong by itself. Told reasons are told with the name of the file; a file
that is overlooked leaves no trace, as if it held a mapping without entries; any other fault ends the load as it is. -/
theorem unfit_file_told_iff (named : name ≠ "") (there : isThere store name = .ok true) (unfit : Unfit store name reason) :
    ((∃ failure, (load store env (some name)).value = .error failure ∧ OfSettings failure) ↔
      Told reason ∨ Overlooked reason ∧ ∃ failure, laidOver standard env = .error failure) ∧
    (Told reason → load store env (some name) = ⟨.error (.problem (report name reason)), []⟩) ∧
    (Overlooked reason → load store env (some name) = ⟨laidOver standard env, []⟩) ∧
    (¬ Overlooked reason → ¬ Told reason →
      ∃ fault, reason = .fault fault ∧ load store env (some name) = ⟨.error (.fault fault), []⟩) := by
  obtain ⟨overlooked, told, stray⟩ := unfit.entries
  have telling : Told reason → load store env (some name) = ⟨.error (.problem (report name reason)), []⟩ := by
    intro isTold
    obtain ⟨obstacle, read, failed⟩ := told isTold
    rw [load_requested named there, read]
    dsimp only
    rw [failed]
  have overlooking : Overlooked reason → load store env (some name) = ⟨laidOver standard env, []⟩ := by
    intro isOverlooked
    rw [load_requested named there, overlooked isOverlooked]
    rfl
  have escaping : ¬ Overlooked reason → ¬ Told reason →
      ∃ fault, reason = .fault fault ∧ load store env (some name) = ⟨.error (.fault fault), []⟩ := by
    intro full untold
    obtain ⟨fault, isFault, read⟩ := stray full untold
    refine ⟨fault, isFault, ?_⟩
    rw [load_requested named there, read]
    rfl
  refine ⟨⟨?_, ?_⟩, telling, overlooking, escaping⟩
  · rintro ⟨failure, failed, problem⟩
    by_cases isTold : Told reason
    · exact Or.inl isTold
    by_cases isOverlooked : Overlooked reason
    · rw [overlooking isOverlooked] at failed
      exact Or.inr ⟨isOverlooked, failure, failed⟩
    · -- A fault by itself is no problem for the user.
      obtain ⟨fault, _, ended⟩ := escaping isOverlooked isTold
      rw [ended] at failed
      cases failed
      obtain ⟨_, _, _, _, _, other⟩ := problem
      cases other
  · rintro (isTold | ⟨isOverlooked, failure, failed⟩)
    · refine ⟨_, congrArg Noted.value (telling isTold), ?_⟩
      cases reason with
      | fault fault => exact ⟨_, _, _, _, _, rfl⟩
      | document root => exact ⟨_, _, _, _, _, rfl⟩
    · exact ⟨failure, (congrArg Noted.value (overlooking isOverlooked)).trans failed, laidOver_error failed⟩

/-- A file under a name of its own, with a list that has no items. -/
def emptied : Store := ⟨[(⟨false, ["custom.yml"]⟩, .file (String.ofList "[]".toList).toUTF8)], none⟩

private theorem emptied_read : ∃ document, Yaml.read (String.ofList "[]".toList).toUTF8 = .ok document ∧
    document.object document.root = .list [] := by
  have basic : ∀ c ∈ "[]".toList, c.toNat < 0x80 ∧ Yaml.Source.isAllowed c = true ∧ c ≠ '\r' :=
    List.all_iff_forall_prop.mp (by decide)
  have source : Yaml.Source.ofBytes (String.ofList "[]".toList).toUTF8 = .ofText "[]".toList :=
    DocumentSource.ofBytes_basic (by decide) (fun c member => DocumentSource.basic_of (basic c member)) (by decide)
  have nodes : (Yaml.Graph.read (.ofText "[]".toList)).toOption.map (fun found => (found.1.nodes.toList, found.2)) =
      some ([.sequence Yaml.Tag.sequence []], some 0) := by decide +kernel
  obtain ⟨⟨graph, root⟩, parsed, made⟩ := Option.map_eq_some_iff.mp nodes
  obtain ⟨listed, rfl⟩ := Prod.mk.inj made
  obtain rfl : graph = ⟨#[.sequence Yaml.Tag.sequence []]⟩ := congrArg Yaml.Graph.mk (Array.toList_inj.mp listed)
  have meant : Yaml.Document.ofGraph ⟨#[.sequence Yaml.Tag.sequence []]⟩ 0 = .ok ⟨#[some (.list [])], 0⟩ := by
    have unmet : (#[Yaml.Node.sequence Yaml.Tag.sequence []].map fun _ => (none : Option Yaml.Object)) = #[none] := by simp
    rw [Yaml.Document.ofGraph, unmet]
    rfl
  refine ⟨⟨#[some (.list [])], 0⟩, ?_, rfl⟩
  rw [Yaml.read, source, toOption_some_iff.mp parsed]
  exact meant

theorem emptied_unfit : Unfit emptied "custom.yml" (.document (.list [])) := by
  obtain ⟨document, parsed, root⟩ := emptied_read
  have foreign : Foreign (document.object document.root) := by
    rw [root]
    trivial
  exact root ▸ .foreign (rfl : emptied.read "custom.yml" = .ok _) parsed foreign

theorem unfit_file_told_occupied :
    isThere occupied "huecode.yml" = .ok true ∧ Unfit occupied "huecode.yml" (.fault (.store .isDirectory)) ∧
    Told (.fault (.store .isDirectory)) ∧ load occupied wishing (some "huecode.yml") =
      ⟨.error (.problem (report "huecode.yml" (.fault (.store .isDirectory)))), []⟩ := by
  have unfit : Unfit occupied "huecode.yml" (.fault (.store .isDirectory)) := .unread rfl
  exact ⟨rfl, unfit, trivial, (unfit_file_told_iff (by decide) rfl unfit).2.1 trivial⟩

/-- A list is no mapping, and yet there are settings. -/
theorem emptied_file_loads : isThere emptied "custom.yml" = .ok true ∧
    Unfit emptied "custom.yml" (.document (.list [])) ∧ load emptied ⟨[]⟩ (some "custom.yml") = ⟨.ok standard, []⟩ := by
  refine ⟨rfl, emptied_unfit, ?_⟩
  have entries : readEntries emptied "custom.yml" = .ok [] := (emptied_unfit.entries).1 rfl
  rw [load_requested (by decide) rfl, entries]
  rfl

end TermStyle.Proofs.RequestedFile
