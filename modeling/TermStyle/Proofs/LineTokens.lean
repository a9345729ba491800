import TermStyle.Proofs.ScanRun
import TermStyle.Yaml.Lexer

/-! The tokens of a document of lines with a key and a value each. They are made as they are asked for: those in front of a
value together, at the colon, and the value by itself. -/

namespace TermStyle.Proofs.LineTokens
open Yaml Lexer StateSteps ScanRun

variable {lexer after : Lexer} {rest tail word : List Char} {c : Char} {size index line column : Nat}

theorem scan_ends {step : Scan α} {value : α} {cursor : Cursor} (ends : Ends step lexer.cursor value cursor) :
    Ends (scan step) lexer value { lexer with cursor } := by
  have run : step.run lexer.cursor = .ok (value, cursor) := ends
  refine Ends.bind (ends_get.mpr ⟨rfl, rfl⟩) ?_
  rw [run]
  exact Ends.bind rfl (Ends.bind (ends_set.mpr rfl) (ends_pure.mpr ⟨rfl, rfl⟩))

theorem lift_pure (value : α) : (liftM (pure value : Scan α) : Lexing α) = pure value := rfl

/-- What a token is made by, from its first character on. -/
def chosen (inFlow atMargin : Bool) (c : Char) : Lexing Unit := do
  if c == '\x00' then streamEnd
  else if c == '%' && atMargin then directiveLine
  else if ← asking (c == '-' && atMargin) (Scan.marks ['-']) then marker .documentStart
  else if ← asking (c == '.' && atMargin) (Scan.marks ['.']) then marker .documentEnd
  else if c == '[' then openFlow .flowSequenceStart
  else if c == '{' then openFlow .flowMappingStart
  else if c == ']' then closeFlow .flowSequenceEnd
  else if c == '}' then closeFlow .flowMappingEnd
  else if c == ',' then flowEntry
  else if ← asking (c == '-') standsAlone then blockEntry
  else if ← asking (c == '?') (indicates inFlow) then explicitKey
  else if ← asking (c == ':') (indicates inFlow) then value
  else if c == '*' then keyLike (reference .alias)
  else if c == '&' then keyLike (reference .anchor)
  else if c == '!' then keyLike tag
  else if c == '|' && !inFlow then block false
  else if c == '>' && !inFlow then block true
  else if c == '\'' then quoted false
  else if c == '"' then quoted true
  else if ← startsPlain inFlow c then plain
  else throw .document

theorem advance_chosen : advance = (do
    skip
    dropStale
    unwind (← get).column
    let inFlow := (← get).inFlow
    let atMargin := (← get).column == 0
    chosen inFlow atMargin (← Scan.peek)) := rfl

def starters : List Char := "\x00%-.[]\x7b\x7d,?:*&!|>'\"".toList

theorem wordly_starts (wordly : isWordly c = true) : indicators.contains c = false ∧ ∀ d ∈ starters, (c == d) = false := by
  have apart : indicators.contains c = false ∧ starters.contains c = false := by
    refine wordly_forall c wordly ?_
    decide +kernel
  refine ⟨apart.1, fun d listed => beq_false_of_ne ?_⟩
  rintro rfl
  exact absurd (List.contains_iff_mem.mpr listed) (Bool.eq_false_iff.mp apart.2)

theorem skipLines_none {cursor : Cursor} (whole : cursor.lack = none) (quiet : Quiet (cursor.charAt 0)) (fuel : Nat)
    (fresh : Bool) : Ends (skipLines (fuel + 1) fresh) cursor fresh cursor := by
  refine Ends.bind (skipSpaces_none whole quiet.noBlank) (Ends.bind (skipComment_none whole quiet.noHash) ?_)
  exact Ends.bind (lineBreak_none whole quiet.noBreak) (ends_pure.mpr ⟨rfl, rfl⟩)

theorem skipLines_blank (quiet : Quiet c) (fuel : Nat) (fresh : Bool) :
    Ends (skipLines (fuel + 1) fresh) ⟨' ' :: c :: tail, none, size, index, line, column⟩ fresh
      ⟨c :: tail, none, size, index + 1, line, column + 1⟩ := by
  refine Ends.bind (skipSpaces_one quiet.noBlank) (Ends.bind (skipComment_none rfl quiet.noHash) ?_)
  exact Ends.bind (lineBreak_none rfl quiet.noBreak) (ends_pure.mpr ⟨rfl, rfl⟩)

theorem skipLines_feed (fresh : Fresh tail) (fuel : Nat) (before : Bool) :
    Ends (skipLines (fuel + 2) before) ⟨'\n' :: tail, none, size, index, line, column⟩ true
      ⟨tail, none, size, index + 1, line + 1, 0⟩ := by
  have quiet : Quiet (Cursor.charAt ⟨tail, none, size, index + 1, line + 1, 0⟩ 0) := fresh.quiet
  have feed : ' ' ≠ '\n' ∧ '#' ≠ '\n' := by decide
  refine Ends.bind (skipSpaces_none rfl feed.1.symm) (Ends.bind (skipComment_none rfl feed.2.symm) ?_)
  exact Ends.bind lineBreak_feed (skipLines_none rfl quiet fuel true)

theorem skip_ends {cursor : Cursor} {fresh : Bool} (whole : lexer.cursor.lack = none)
    (noMark : lexer.cursor.charAt 0 ≠ byteOrderMark)
    (lines : Ends (skipLines (lexer.cursor.size + 1) false) lexer.cursor fresh cursor) :
    Ends skip lexer ⟨⟩ { lexer with cursor, keyAllowed := lexer.keyAllowed || (fresh && !lexer.inFlow) } := by
  have unmarked : (lexer.cursor.charAt 0 == byteOrderMark) = false := beq_false_of_ne noMark
  refine Ends.bind (ends_get.mpr ⟨rfl, rfl⟩) (Ends.bind (scan_ends (peekAt_ends whole 0)) ?_)
  dsimp only
  rw [unmarked, Bool.and_false]
  refine Ends.bind (scan_ends (ends_map.mpr ⟨_, ends_get.mpr ⟨rfl, rfl⟩, rfl⟩)) (Ends.bind (scan_ends lines) ?_)
  exact ends_modify.mpr rfl

theorem skip_none (whole : lexer.cursor.lack = none) (quiet : Quiet (lexer.cursor.charAt 0)) : Ends skip lexer ⟨⟩ lexer := by
  have skipped := skip_ends whole quiet.noMark (skipLines_none whole quiet _ false)
  rwa [Bool.false_and, Bool.or_false] at skipped

theorem dropStale_ends (fresh : ∀ entry ∈ lexer.candidates, lexer.isStale entry.2 = false) : Ends dropStale lexer ⟨⟩ lexer := by
  refine Ends.bind (ends_get.mpr ⟨rfl, rfl⟩) ?_
  rw [List.any_eq_false.mpr fun entry member => ?_, List.filter_eq_self.mpr fun entry member => ?_]
  · exact ends_set.mpr rfl
  · simp [fresh entry member]
  · simp [fresh entry member]

/-- Nothing is stale, and no collection ends here. -/
structure Steady (lexer : Lexer) : Prop where
  whole : lexer.cursor.lack = none
  depth : lexer.depth = 0
  fresh : ∀ entry ∈ lexer.candidates, lexer.isStale entry.2 = false
  inside : unwindFrom lexer.column lexer.outer lexer.indent lexer.queue = (lexer.indent, lexer.outer, lexer.queue)

/-- A token that ends no collection is made by what its first character asks for. -/
theorem advance_ends {middle : Lexer} (skipped : Ends skip lexer ⟨⟩ middle) (steady : Steady middle)
    (made : Ends (chosen false (middle.column == 0) (middle.cursor.charAt 0)) middle ⟨⟩ after) :
    Ends advance lexer ⟨⟩ after := by
  have flat : middle.inFlow = false := by simp [inFlow, steady.depth]
  have unwound : Ends (unwind middle.column) middle ⟨⟩ middle := by
    refine ends_modify.mpr ?_
    simp only [flat, steady.inside]
    rfl
  rw [advance_chosen]
  refine Ends.bind skipped (Ends.bind (dropStale_ends steady.fresh) (Ends.bind (ends_get.mpr ⟨rfl, rfl⟩) ?_))
  refine Ends.bind unwound (Ends.bind (ends_get.mpr ⟨rfl, rfl⟩) (Ends.bind (ends_get.mpr ⟨rfl, rfl⟩) ?_))
  refine Ends.bind (scan_ends (peekAt_ends steady.whole 0)) ?_
  rw [flat]
  exact made

theorem chosen_word (wordly : isWordly c = true) (atMargin : Bool) (made : Ends plain lexer ⟨⟩ after) :
    Ends (chosen false atMargin c) lexer ⟨⟩ after := by
  obtain ⟨unlisted, other⟩ := wordly_starts wordly
  have starts : startsPlain false c = pure true := by
    simp only [startsPlain, (wordly_of wordly).goesOn, unlisted]
    rfl
  simp (disch := decide) only [chosen, asking, other, starts, lift_pure, pure_bind, Bool.false_and, Bool.false_eq_true, if_false,
    if_true]
  exact made

theorem chosen_quote (atMargin : Bool) (made : Ends (quoted true) lexer ⟨⟩ after) :
    Ends (chosen false atMargin '"') lexer ⟨⟩ after := made

theorem chosen_colon (atMargin : Bool) (whole : lexer.cursor.lack = none) (stands : endsWord (lexer.cursor.charAt 1) = true)
    (made : Ends value lexer ⟨⟩ after) : Ends (chosen false atMargin ':') lexer ⟨⟩ after := by
  have alone : Ends standsAlone lexer.cursor true lexer.cursor := ends_map.mpr ⟨_, peekAt_ends whole 1, stands.symm⟩
  have asked : Ends (liftM (indicates false) : Lexing Bool) lexer true lexer := scan_ends alone
  have passed (test : Scan Bool) : Ends (liftM (asking false test) : Lexing Bool) lexer false lexer := ends_pure.mpr ⟨rfl, rfl⟩
  exact Ends.bind (passed _) (Ends.bind (passed _) (Ends.bind (passed _) (Ends.bind (passed _) (Ends.bind asked made))))

theorem chosen_end (atMargin : Bool) (made : Ends streamEnd lexer ⟨⟩ after) :
    Ends (chosen false atMargin '\x00') lexer ⟨⟩ after := made

theorem unsettled_empty (going : lexer.ended = false) (empty : lexer.queue = []) : Ends isUnsettled lexer true lexer := by
  refine Ends.bind (ends_get.mpr ⟨rfl, rfl⟩) ?_
  rw [going]
  refine Ends.bind (ends_get.mpr ⟨rfl, rfl⟩) ?_
  rw [empty]
  exact ends_pure.mpr ⟨rfl, rfl⟩

theorem unsettled_filled (going : lexer.ended = false) (filled : lexer.queue ≠ [])
    (fresh : ∀ entry ∈ lexer.candidates, lexer.isStale entry.2 = false) :
    Ends isUnsettled lexer (lexer.candidates.any (·.2.number == lexer.taken)) lexer := by
  have nonempty : lexer.queue.isEmpty = false := by simpa using filled
  refine Ends.bind (ends_get.mpr ⟨rfl, rfl⟩) ?_
  rw [going]
  refine Ends.bind (ends_get.mpr ⟨rfl, rfl⟩) ?_
  rw [nonempty]
  exact Ends.bind (dropStale_ends fresh) (Ends.bind (ends_get.mpr ⟨rfl, rfl⟩) (ends_pure.mpr ⟨rfl, rfl⟩))

theorem settled_ended (ended : lexer.ended = true) : Ends isUnsettled lexer false lexer := by
  refine Ends.bind (ends_get.mpr ⟨rfl, rfl⟩) ?_
  rw [ended]
  exact ends_pure.mpr ⟨rfl, rfl⟩

theorem settle_done (settled : Ends isUnsettled lexer false lexer) (fuel : Nat) : Ends (settle (fuel + 1)) lexer ⟨⟩ lexer :=
  Ends.bind settled (ends_pure.mpr ⟨rfl, rfl⟩)

theorem settle_step {middle : Lexer} {fuel : Nat} (unsettled : Ends isUnsettled lexer true lexer)
    (made : Ends advance lexer ⟨⟩ middle) (further : Ends (settle fuel) middle ⟨⟩ after) :
    Ends (settle (fuel + 1)) lexer ⟨⟩ after := Ends.bind unsettled (Ends.bind made further)

/-- A token that is there and that no candidate may still precede. -/
theorem peek_settled {token : Token} {queue : List Token} (settled : Ends isUnsettled lexer false lexer)
    (head : lexer.queue = token :: queue) : Ends peek lexer token lexer := by
  refine Ends.bind (ends_get.mpr ⟨rfl, rfl⟩) (Ends.bind (settle_done settled _) (Ends.bind (ends_get.mpr ⟨rfl, rfl⟩) ?_))
  rw [head]
  exact ends_pure.mpr ⟨rfl, rfl⟩

theorem push_ends (token : Token) : Ends (push token) lexer ⟨⟩ { lexer with queue := lexer.queue ++ [token] } :=
  ends_modify.mpr rfl

/-- A lexer inside the mapping, which remembers no place where a key may have started. -/
def held (cursor : Cursor) (keyAllowed : Bool) (queue : List Token) (taken : Nat) : Lexer :=
  ⟨cursor, 0, 0, [-1], keyAllowed, [], queue, taken, false⟩

theorem held_settled {cursor : Cursor} {keyAllowed : Bool} {queue : List Token} {taken : Nat} (filled : queue ≠ []) :
    Ends isUnsettled (held cursor keyAllowed queue taken) false (held cursor keyAllowed queue taken) :=
  @unsettled_filled (held cursor keyAllowed queue taken) rfl filled nofun

/-- Where a line starts, inside the mapping or, for the first line, in front of it, with the token that opens it. -/
inductive Margin : Int → List Int → List Token → Prop
  | outside : Margin (-1) [] [.blockMappingStart]
  | inside : Margin 0 [-1] []

variable {indent : Int} {outer : List Int} {opening : List Token} {key : List Char} {taken : Nat}

theorem plain_key_ends (wordly : ∀ c ∈ key, isWordly c = true) (filled : key ≠ []) :
    Ends plain ⟨⟨key ++ ':' :: ' ' :: tail, none, size, index, line, column⟩, 0, indent, outer, true, [], [], taken, false⟩ ⟨⟩
      ⟨⟨':' :: ' ' :: tail, none, size, index + key.length, line, column + key.length⟩, 0, indent, outer, false,
        [(0, ⟨taken, indent == column, index, line, column⟩)], [.scalar (.ofList key) true], taken, false⟩ := by
  have saved : Ends saveCandidate
      ⟨⟨key ++ ':' :: ' ' :: tail, none, size, index, line, column⟩, 0, indent, outer, true, [], [], taken, false⟩ ⟨⟩
      ⟨⟨key ++ ':' :: ' ' :: tail, none, size, index, line, column⟩, 0, indent, outer, true,
        [(0, ⟨taken, indent == column, index, line, column⟩)], [], taken, false⟩ := rfl
  refine Ends.bind saved (Ends.bind (ends_get.mpr ⟨rfl, rfl⟩) ?_)
  exact Ends.bind (scan_ends (plain_key wordly filled _)) (Ends.bind (ends_modify.mpr rfl) (push_ends _))

theorem insert_front (token : Token) : Ends (insert lexer.taken token) lexer ⟨⟩ { lexer with queue := token :: lexer.queue } := by
  refine ends_modify.mpr ?_
  rw [Nat.sub_self]
  rfl

/-- The colon behind a word at the margin makes the word a key, and opens the mapping at the first one. -/
theorem value_ends (margin : Margin indent outer opening) {start : Nat} {required : Bool} {token : Token} :
    Ends value ⟨⟨':' :: ' ' :: tail, none, size, index, line, column⟩, 0, indent, outer, false,
        [(0, ⟨taken, required, start, line, 0⟩)], [token], taken, false⟩ ⟨⟩
      (held ⟨' ' :: tail, none, size, index + 1, line, column + 1⟩ false (opening ++ [.key, token, .value]) taken) := by
  refine Ends.bind (ends_get.mpr ⟨rfl, rfl⟩) (Ends.bind (ends_set.mpr rfl) (Ends.bind (insert_front .key) ?_))
  cases margin with
  | outside =>
    refine Ends.bind (Ends.bind (ends_get.mpr ⟨rfl, rfl⟩) (Ends.bind (ends_set.mpr rfl) (insert_front .blockMappingStart))) ?_
    exact Ends.bind (ends_modify.mpr rfl) (Ends.bind (scan_ends (ScanRun.advance_ends rfl 1)) (push_ends _))
  | inside =>
    refine Ends.bind (Ends.bind (ends_get.mpr ⟨rfl, rfl⟩) (ends_pure.mpr ⟨rfl, rfl⟩)) ?_
    exact Ends.bind (ends_modify.mpr rfl) (Ends.bind (scan_ends (ScanRun.advance_ends rfl 1)) (push_ends _))

/-- Nothing but the end of a line is in front of the next one, and no token is waiting. -/
structure Comes (lexer : Lexer) (indent : Int) (outer : List Int) (tail : List Char) (size taken : Nat) : Prop where
  waiting : lexer.queue = []
  going : lexer.ended = false
  room : lexer.cursor.size = size + 1
  skips : ∃ index line, Ends skip lexer ⟨⟩ ⟨⟨tail, none, size + 1, index, line, 0⟩, 0, indent, outer, true, [], [], taken, false⟩

theorem margin_kept (margin : Margin indent outer opening) (queue : List Token) (column : Nat) :
    unwindFrom column outer indent queue = (indent, outer, queue) := by
  cases margin with
  | outside => rfl
  | inside =>
    have inside : ¬ (column : Int) < 0 := by omega
    simp [unwindFrom, inside]

theorem quiet_colon : Quiet ':' := ⟨by decide, by decide, by decide, by decide, by decide⟩

/-- A lexer that has read the word at the margin and stands at the colon behind it. -/
def atColon (tail : List Char) (size index line column : Nat) (indent : Int) (outer : List Int) (required : Bool) (start : Nat)
    (token : Token) (taken : Nat) : Lexer :=
  ⟨⟨':' :: ' ' :: tail, none, size, index, line, column⟩, 0, indent, outer, false, [(0, ⟨taken, required, start, line, 0⟩)],
    [token], taken, false⟩

variable {start : Nat} {required : Bool} {token : Token}

theorem atColon_fresh (short : index - start ≤ keyLimit) :
    ∀ entry ∈ (atColon tail size index line column indent outer required start token taken).candidates,
      (atColon tail size index line column indent outer required start token taken).isStale entry.2 = false := by
  intro entry listed
  rw [List.mem_singleton.mp listed]
  have near : decide (keyLimit < index - start) = false := decide_eq_false (Nat.not_lt.mpr short)
  simp only [isStale, atColon, bne_self_eq_false, Bool.false_or]
  exact near

theorem atColon_unsettled (short : index - start ≤ keyLimit) :
    Ends isUnsettled (atColon tail size index line column indent outer required start token taken) true
      (atColon tail size index line column indent outer required start token taken) := by
  have first : ((atColon tail size index line column indent outer required start token taken).candidates.any
      (·.2.number == (atColon tail size index line column indent outer required start token taken).taken)) = true := by
    simp [atColon]
  rw [← first]
  exact unsettled_filled rfl (by simp [atColon]) (atColon_fresh short)

theorem advance_colon (margin : Margin indent outer opening) (short : index - start ≤ keyLimit) :
    Ends advance (atColon tail size index line column indent outer required start token taken) ⟨⟩
      (held ⟨' ' :: tail, none, size, index + 1, line, column + 1⟩ false (opening ++ [.key, token, .value]) taken) := by
  have skipped : Ends skip (atColon tail size index line column indent outer required start token taken) ⟨⟩
      (atColon tail size index line column indent outer required start token taken) :=
    skip_none rfl quiet_colon
  have steady : Steady (atColon tail size index line column indent outer required start token taken) :=
    ⟨rfl, rfl, atColon_fresh short, margin_kept margin _ _⟩
  have blank : endsWord ' ' = true := by decide
  exact advance_ends skipped steady (chosen_colon _ rfl blank (value_ends margin))

theorem peek_line (comes : Comes lexer indent outer (key ++ ':' :: ' ' :: tail) size taken) (margin : Margin indent outer opening)
    (wordly : ∀ c ∈ key, isWordly c = true) (filled : key ≠ []) (short : key.length ≤ keyLimit) :
    ∃ index line column, Ends peek lexer ((opening ++ [Token.key]).head?.getD .streamEnd)
      (held ⟨' ' :: tail, none, size + 1, index, line, column⟩ false (opening ++ [.key, .scalar (.ofList key) true, .value]) taken) := by
  obtain ⟨index, line, skips⟩ := comes.skips
  have steady : Steady ⟨⟨key ++ ':' :: ' ' :: tail, none, size + 1, index, line, 0⟩, 0, indent, outer, true, [], [],
      taken, false⟩ := ⟨rfl, rfl, nofun, margin_kept margin _ _⟩
  have word : Ends advance lexer ⟨⟩ (atColon tail (size + 1) (index + key.length) line (0 + key.length) indent outer
      (indent == (0 : Nat)) index (.scalar (.ofList key) true) taken) := by
    refine advance_ends skips steady ?_
    obtain ⟨first, more, rfl⟩ := List.exists_cons_of_ne_nil filled
    exact chosen_word (wordly first (by simp)) _ (plain_key_ends wordly filled)
  have near : index + key.length - index ≤ keyLimit := by omega
  have all := settle_step (unsettled_empty comes.going comes.waiting) word
    (settle_step (atColon_unsettled near) (advance_colon margin near) (settle_done (held_settled (by simp)) size))
  refine ⟨index + key.length + 1, line, 0 + key.length + 1, Ends.bind (ends_get.mpr ⟨rfl, rfl⟩) ?_⟩
  rw [comes.room]
  refine Ends.bind all (Ends.bind (ends_get.mpr ⟨rfl, rfl⟩) (ends_pure.mpr ⟨?_, rfl⟩))
  cases margin <;> rfl

theorem peek_made {middle : Lexer} {size : Nat} (going : lexer.ended = false) (waiting : lexer.queue = [])
    (room : lexer.cursor.size = size + 1) (made : Ends advance lexer ⟨⟩ middle) (settled : Ends isUnsettled middle false middle) :
    Ends peek lexer (middle.queue.head?.getD .streamEnd) middle := by
  refine Ends.bind (ends_get.mpr ⟨rfl, rfl⟩) ?_
  rw [room]
  have all := settle_step (unsettled_empty going waiting) made (settle_done settled (size + 1))
  exact Ends.bind all (Ends.bind (ends_get.mpr ⟨rfl, rfl⟩) (ends_pure.mpr ⟨rfl, rfl⟩))

theorem held_steady {rest : List Char} (keyAllowed : Bool) (queue : List Token) :
    Steady (held ⟨rest, none, size, index, line, column⟩ keyAllowed queue taken) :=
  ⟨rfl, rfl, nofun, margin_kept .inside _ _⟩

theorem skip_blank (quiet : Quiet c) (queue : List Token) :
    Ends skip (held ⟨' ' :: c :: tail, none, size, index, line, column⟩ false queue taken) ⟨⟩
      (held ⟨c :: tail, none, size, index + 1, line, column + 1⟩ false queue taken) := by
  have noMark : ' ' ≠ byteOrderMark := by decide
  exact @skip_ends (held ⟨' ' :: c :: tail, none, size, index, line, column⟩ false queue taken) _ _ rfl noMark
    (skipLines_blank quiet _ false)

theorem peek_word (wordly : ∀ c ∈ word, isWordly c = true) (filled : word ≠ []) (fresh : Fresh tail) :
    Ends peek (held ⟨' ' :: (word ++ '\n' :: tail), none, size + 1, index, line, column⟩ false [] taken) (.scalar (.ofList word) true)
      (held ⟨tail, none, size + 1, index + 1 + word.length + 1, line + 1, 0⟩ true [.scalar (.ofList word) true] taken) := by
  obtain ⟨first, more, rfl⟩ := List.exists_cons_of_ne_nil filled
  have made : Ends plain (held ⟨first :: more ++ '\n' :: tail, none, size + 1, index + 1, line, column + 1⟩ false [] taken) ⟨⟩
      (held ⟨tail, none, size + 1, index + 1 + (first :: more).length + 1, line + 1, 0⟩ true [.scalar (.ofList (first :: more)) true]
        taken) := by
    have inside : (0 : Int) < 0 + 1 := by decide
    refine Ends.bind (Ends.bind (ends_get.mpr ⟨rfl, rfl⟩) (ends_pure.mpr ⟨rfl, rfl⟩)) (Ends.bind (ends_get.mpr ⟨rfl, rfl⟩) ?_)
    exact Ends.bind (scan_ends (plain_line wordly filled fresh inside)) (Ends.bind (ends_modify.mpr rfl) (push_ends _))
  have quiet := (wordly_of (wordly first (by simp))).toQuiet
  have stepped : Ends advance (held ⟨' ' :: (first :: more ++ '\n' :: tail), none, size + 1, index, line, column⟩ false [] taken) ⟨⟩ _ :=
    advance_ends (skip_blank quiet []) (held_steady false []) (chosen_word (wordly first (by simp)) _ made)
  exact peek_made rfl rfl rfl stepped (held_settled (by simp))

/-- A value between double quotes. The end of its line is left where it is. -/
theorem peek_quoted {text : List Char} (letters : ∀ c ∈ text, isWordly c = true ∨ c = dotless) (enough : text.length ≤ size + 1) :
    ∃ index' column', Ends peek
      (held ⟨' ' :: '"' :: (text.flatMap spelled ++ '"' :: tail), none, size + 1, index, line, column⟩ false [] taken)
      (.scalar (.ofList text) false)
      (held ⟨tail, none, size + 1, index', line, column'⟩ false [.scalar (.ofList text) false] taken) := by
  have made : Ends (quoted true)
      (held ⟨'"' :: (text.flatMap spelled ++ '"' :: tail), none, size + 1, index + 1, line, column + 1⟩ false [] taken) ⟨⟩
      (held ⟨tail, none, size + 1, index + 1 + (text.flatMap spelled).length + 2, line,
        column + 1 + (text.flatMap spelled).length + 2⟩ false [.scalar (.ofList text) false] taken) := by
    refine Ends.bind (Ends.bind (ends_get.mpr ⟨rfl, rfl⟩) (ends_pure.mpr ⟨rfl, rfl⟩)) (Ends.bind (ends_modify.mpr rfl) ?_)
    exact Ends.bind (scan_ends (Ends.bind (quoted_ends letters enough) (ends_pure.mpr ⟨rfl, rfl⟩))) (push_ends _)
  have quiet : Quiet '"' := ⟨by decide, by decide, by decide, by decide, by decide⟩
  have stepped : Ends advance
      (held ⟨' ' :: '"' :: (text.flatMap spelled ++ '"' :: tail), none, size + 1, index, line, column⟩ false [] taken) ⟨⟩ _ :=
    advance_ends (skip_blank quiet []) (held_steady false []) (chosen_quote _ made)
  exact ⟨_, _, peek_made rfl rfl rfl stepped (held_settled (by simp))⟩

theorem peek_end (comes : Comes lexer 0 [-1] [] size taken) : ∃ index line, Ends peek lexer .blockEnd
    ⟨⟨[], none, size + 1, index, line, 0⟩, 0, -1, [], false, [], [.blockEnd, .streamEnd], taken, true⟩ := by
  obtain ⟨index, line, skips⟩ := comes.skips
  have made : Ends streamEnd ⟨⟨[], none, size + 1, index, line, 0⟩, 0, 0, [-1], true, [], [], taken, false⟩ ⟨⟩
    ⟨⟨[], none, size + 1, index, line, 0⟩, 0, -1, [], false, [], [.blockEnd, .streamEnd], taken, true⟩ := rfl
  have stepped := advance_ends skips (held_steady true []) (chosen_end _ made)
  exact ⟨index, line, peek_made comes.going comes.waiting comes.room stepped (settled_ended rfl)⟩

/-! ## From line to line -/

theorem comes_start {text : List Char} (fresh : Fresh text) (sized : text.length = size + 1) :
    Comes (.start (.ofText text)) (-1) [] text size 0 := by
  have skipped : Ends skip (.start (.ofText text)) ⟨⟩
      ⟨⟨text, none, text.length, 0, 0, 0⟩, 0, -1, [], true, [], [], 0, false⟩ := skip_none rfl fresh.quiet
  rw [sized] at skipped
  exact ⟨rfl, rfl, sized, 0, 0, skipped⟩

theorem comes_line (fresh : Fresh tail) : Comes (held ⟨tail, none, size + 1, index, line, 0⟩ true [] taken) 0 [-1] tail size taken :=
  ⟨rfl, rfl, rfl, index, line, skip_none rfl fresh.quiet⟩

theorem comes_feed (fresh : Fresh tail) :
    Comes (held ⟨'\n' :: tail, none, size + 1, index, line, column⟩ false [] taken) 0 [-1] tail size taken := by
  have noMark : '\n' ≠ byteOrderMark := by decide
  exact ⟨rfl, rfl, rfl, index + 1, line + 1, @skip_ends (held ⟨'\n' :: tail, none, size + 1, index, line, column⟩ false [] taken) _ _ rfl noMark
    (skipLines_feed fresh size false)⟩

end TermStyle.Proofs.LineTokens
