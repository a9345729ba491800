import TermStyle.CommandLine.Program
import TermStyle.Proofs.FlagValues

/-! Walks through the words of a command line. A flag changes values and nothing else, words that are left over stay left
over, and two walks that meet the same flags keep the same values. -/

namespace TermStyle.Proofs.FlagWalks
open CommandLine Reading ExceptSteps FlagValues

variable {flags : List Flag} {menu : Bool} {word : Word} {rest : List Word} {state next small big : State} {flag : Flag}

/-- A flag changes values, and what is waited for, and nothing else. -/
structure Beside (before after : State) : Prop where
  extras : after.extras = before.extras
  unfilled : after.unfilled = before.unfilled
  stretch : after.stretch = before.stretch

theorem store_beside {kind : Kind} {text : String} (stored : store state flag kind text = .ok next) : Beside state next := by
  unfold store at stored
  split at stored
  · cases stored
    exact ⟨rfl, rfl, rfl⟩
  · split at stored
    · cases stored
      exact ⟨rfl, rfl, rfl⟩
    · cases stored

theorem act_beside (acted : act state flag = .ok next) : Beside state next := by
  unfold act at acted
  split at acted
  · cases acted
  · cases acted
    exact ⟨rfl, rfl, rfl⟩
  · cases acted
    exact ⟨rfl, rfl, rfl⟩

theorem cluster_storing {kind : Kind} {mark : String} (effect : flag.effect = .store kind mark) (short : Bool)
    (letters : List Char) : cluster flags flag short letters = .ok ([], .value flag kind (.ofList letters)) := by
  unfold cluster
  cases letters with
  | nil => simp only [effect]
  | cons c rest => simp only [effect]

theorem useFlag_long {name : String} {attached : Option String} (long : Flag.isShort name = false)
    (used : useFlag flags state flag name attached = .ok next) :
    (attached = none ∧ act state flag = .ok next) ∨
      ∃ text kind mark, attached = some text ∧ flag.effect = .store kind mark ∧ store state flag kind text = .ok next := by
  cases attached with
  | none => exact Or.inl ⟨rfl, used⟩
  | some text =>
    obtain ⟨⟨first, tail⟩, clustered, remaining⟩ := bind_ok_iff.mp used
    obtain ⟨middle, acted, finished⟩ := bind_ok_iff.mp remaining
    rw [long] at clustered
    cases effect : flag.effect with
    | help | switch =>
      cases spelled : text.toList with
      | nil => simp [spelled, cluster, effect, ignored, refuse] at clustered
      | cons c letters => simp [spelled, cluster, effect, ignored, refuse] at clustered
    | store kind mark =>
      rw [cluster_storing effect, String.ofList_toList] at clustered
      cases clustered
      cases acted
      exact Or.inr ⟨text, kind, mark, rfl, rfl, finished⟩

theorem useFlag_storing {name text : String} {kind : Kind} {mark : String} (effect : flag.effect = .store kind mark) :
    useFlag flags state flag name (some text) = store state flag kind text := by
  change (cluster flags flag (Flag.isShort name) text.toList >>= _) = _
  rw [cluster_storing effect, String.ofList_toList]
  rfl

theorem useFlag_helping {name : String} {attached : Option String} (helps : flag.effect = .help) :
    useFlag flags state flag name attached ≠ .ok next := by
  have ended : act state flag = .error .help := by
    unfold act
    rw [helps]
  cases attached with
  | none => simp [useFlag, ended]
  | some text =>
    intro used
    obtain ⟨⟨first, tail⟩, clustered, remaining⟩ := bind_ok_iff.mp used
    obtain ⟨middle, acted, finished⟩ := bind_ok_iff.mp remaining
    obtain ⟨more, rfl⟩ : ∃ more, first = flag :: more := by
      unfold cluster at clustered
      rw [helps] at clustered
      split at clustered
      · cases clustered
      · dsimp only at clustered
        split at clustered
        · cases clustered
        · split at clustered
          · cases clustered
            exact ⟨_, rfl⟩
          · obtain ⟨⟨later, last⟩, _, made⟩ := map_ok_iff.mp clustered
            cases made
            exact ⟨_, rfl⟩
    rw [List.foldlM_cons, ended] at acted
    cases acted

theorem acts_beside {flags : List Flag} (acted : flags.foldlM act state = .ok next) : Beside state next := by
  induction flags generalizing state with
  | nil =>
    cases acted
    exact ⟨rfl, rfl, rfl⟩
  | cons flag flags ih =>
    rw [List.foldlM_cons] at acted
    obtain ⟨middle, first, others⟩ := bind_ok_iff.mp acted
    have near := act_beside first
    have far := ih others
    exact ⟨far.extras.trans near.extras, far.unfilled.trans near.unfilled, far.stretch.trans near.stretch⟩

theorem useFlag_beside {name : String} {attached : Option String}
    (used : useFlag flags state flag name attached = .ok next) : Beside state next := by
  cases attached with
  | none => exact act_beside used
  | some text =>
    obtain ⟨⟨first, tail⟩, _, remaining⟩ := bind_ok_iff.mp used
    obtain ⟨middle, acted, finished⟩ := bind_ok_iff.mp remaining
    have near := acts_beside acted
    have far : Beside middle next := by
      cases tail with
      | flag last => exact act_beside finished
      | value last kind text => exact store_beside finished
    exact ⟨far.extras.trans near.extras, far.unfilled.trans near.unfilled, far.stretch.trans near.stretch⟩

/-- There is something that no operand will take. -/
structure Cluttered (state : State) : Prop where
  unfilled : state.unfilled = []
  left : state.extras ≠ [] ∨ state.stretch ≠ []

theorem Cluttered.beside (cluttered : Cluttered state) (beside : Beside state next) : Cluttered next := by
  refine ⟨beside.unfilled.trans cluttered.unfilled, ?_⟩
  rw [beside.extras, beside.stretch]
  exact cluttered.left

theorem Cluttered.offered (cluttered : Cluttered state) : Cluttered state.offered ∧ state.offered.extras ≠ [] := by
  have kept : state.offered.unfilled = [] ∧ state.offered.extras = state.extras ++ state.stretch.map (·.text) := by
    unfold State.offered
    rw [cluttered.unfilled]
    exact ⟨rfl, rfl⟩
  have left : state.offered.extras ≠ [] := by
    rw [kept.2]
    rcases cluttered.left with extras | stretch
    · simp [extras]
    · simp [stretch]
  exact ⟨⟨kept.1, Or.inl left⟩, left⟩

theorem Cluttered.flushed (cluttered : Cluttered state) : Cluttered state.flushed := by
  unfold State.flushed
  split
  · exact cluttered
  · exact cluttered.offered.1

/-- What no operand takes is never lost: at each word the clutter stays or grows, and where flags end a stretch it turns
into extras. -/
theorem walk_cluttered {words rest : List Word} (cluttered : Cluttered state)
    (walked : walk flags false words state = .ok (next, rest)) : next.extras ≠ [] := by
  induction words generalizing state with
  | nil =>
    unfold walk at walked
    split at walked
    · cases walked
    · cases walked
      exact cluttered.offered.2
  | cons word words ih =>
    cases walk_takes walked with
    | value _ _ stored further =>
      have free : Cluttered { state with waiting := none } := ⟨cluttered.unfilled, cluttered.left⟩
      exact ih (free.beside (store_beside stored)) further
    | unknown _ _ further =>
      refine ih ?_ further
      exact ⟨cluttered.flushed.unfilled, Or.inl (by simp)⟩
    | flag _ _ used further => exact ih (cluttered.flushed.beside (useFlag_beside used)) further
    | command _ _ given _ => cases given
    | argument _ _ _ further =>
      refine ih ?_ further
      exact ⟨cluttered.unfilled, Or.inr (by simp)⟩

/-- Two readings that are at the same place. The menu's field is of no interest. -/
structure Abreast (chosen : String) (small big : State) : Prop where
  values : ∀ field, field ≠ chosen → big.values.lookup field = small.values.lookup field
  waiting : big.waiting = small.waiting
  extras : small.extras = []
  smallIdle : small.stretch = [] ∧ small.unfilled = []
  bigIdle : big.stretch = [] ∧ big.unfilled = []

variable {chosen : String}

theorem Abreast.set (abreast : Abreast chosen small big) (field : String) (value : Value) :
    Abreast chosen (small.set field value) (big.set field value) := by
  refine ⟨?_, abreast.waiting, abreast.extras, abreast.smallIdle, abreast.bigIdle⟩
  intro asked other
  simp only [State.set, List.lookup_cons, abreast.values asked other]

theorem store_abreast (abreast : Abreast chosen small big) {kind : Kind} {text : String}
    (stored : store small flag kind text = .ok next) :
    ∃ other, store big flag kind text = .ok other ∧ Abreast chosen next other := by
  unfold store at stored ⊢
  split at stored
  next separator =>
    cases stored
    exact ⟨_, if_pos separator, abreast.set _ _⟩
  next text' =>
    rw [if_neg text']
    split at stored
    next value read =>
      cases stored
      exact ⟨_, rfl, abreast.set _ _⟩
    · cases stored

theorem act_abreast (abreast : Abreast chosen small big) (acted : act small flag = .ok next) :
    ∃ other, act big flag = .ok other ∧ Abreast chosen next other := by
  unfold act at acted ⊢
  split at acted
  · cases acted
  · cases acted
    exact ⟨_, rfl, abreast.set _ _⟩
  · cases acted
    exact ⟨_, rfl, abreast.values, rfl, abreast.extras, abreast.smallIdle, abreast.bigIdle⟩

theorem useFlag_abreast (abreast : Abreast chosen small big) {name : String} {attached : Option String}
    (long : Flag.isShort name = false) (used : useFlag flags small flag name attached = .ok next) (others : List Flag) :
    ∃ other, useFlag others big flag name attached = .ok other ∧ Abreast chosen next other := by
  rcases useFlag_long long used with ⟨rfl, acted⟩ | ⟨text, kind, mark, rfl, effect, stored⟩
  · exact act_abreast abreast acted
  · obtain ⟨other, same, beside⟩ := store_abreast abreast stored
    exact ⟨other, (useFlag_storing effect).trans same, beside⟩

theorem flushed_idle (idle : state.stretch = [] ∧ state.unfilled = []) : state.flushed = state := by
  simp [State.flushed, idle.1]

theorem offered_values (unfilled : state.unfilled = []) : state.offered.values = state.values := by
  simp [State.offered, unfilled, offer]

end TermStyle.Proofs.FlagWalks
