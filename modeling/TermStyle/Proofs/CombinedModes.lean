import TermStyle.CommandLine.Perform
import TermStyle.Proofs.CompileOutput
import TermStyle.Proofs.StylerRun
import TermStyle.Proofs.TemplateText

/-! Placeholders and attributes together. Applying attributes puts sequences in front of a text and a reset behind it.
Neither opens or closes a placeholder, so expanding the whole is expanding the text between them. -/

namespace TermStyle.Proofs.CombinedModes
open Log ActionRun Logging StylerRun TemplateText CommandLine

/-- First attributes, then placeholders, in one text. -/
def nested (text : String) (words : List String) : Action String := do
  Styler.format (← Styler.apply text [" ".intercalate words])

def apart (text : String) (words : List String) : Action String := do
  let front ← Styler.compile (" ".intercalate words)
  let body ← Styler.rawFormat text
  return front ++ body ++ Sequence.reset.render ++ Sequence.reset.render

theorem compiled_opens_none {directives front : String} {tier : Int}
    (compiled : (Compile.text directives tier).value = .ok front) : '%' ∉ front.toList := by
  rw [CompileOutcome.text_shown compiled]
  intro member
  rcases CompileOutput.renderAll_plain member with same | same | same | same <;> exact absurd same (by decide)

theorem reset_closes_none : '}' ∉ Sequence.reset.render.toList := by decide

/-- Once the tier is read, both ways go on with it alone. -/
theorem nested_eq_apart {session : Session} (calm : session.world.interrupting = false) (text : String)
    (words : List String) : outcome (nested text words) session = outcome (apart text words) session := by
  simp only [nested, apart, Styler.apply, Styler.rawApply, outcome_bind, compile_run, String.intercalate_singleton]
  cases read : outcome Styler.level session with
  | mk result after =>
    cases result with
    | error failure => rfl
    | ok tier =>
      obtain ⟨inForce, _, logged⟩ := level_settles read
      simp only [andThen_ok, shown]
      cases compiled : (Compile.text (" ".intercalate words) tier.level).value with
      | error error => rfl
      | ok front =>
        simp only [ExceptSteps.mapError_ok, andThen_ok, outcome_pure]
        have still : (emitted (Compile.text (" ".intercalate words) tier.level).records after).styler.tier = some tier :=
          inForce
        have quiet := (logged.trans (emitted_logged (Compile.text (" ".intercalate words) tier.level).records after)).interrupting
        rw [format_calm (quiet.trans calm)]
        simp only [outcome_bind, rawFormat_run, level_kept still, andThen_ok,
          expand_framed (compiled_opens_none compiled) reset_closes_none]
        simp only [shown, changed]
        cases ((Template.ofText text).expand tier.level).value with
        | error error => rfl
        | ok body => rfl

/-- Expanding after applying comes to the same as expanding the text alone, with the sequences of the attributes in
front of it and two resets behind. So do the failures and all that is left in the session, and the command that does
both prints just that. -/
theorem expanding_after_applying {session : Session} (calm : session.world.interrupting = false) (text : String)
    (words : List String) :
    outcome (nested text words) session = outcome (apart text words) session ∧
    ∀ settings globals, outcome (Perform.command settings globals (.both text words)) session =
      outcome (apart text words >>= Action.print) session := by
  have same := nested_eq_apart calm text words
  refine ⟨same, fun settings globals => ?_⟩
  have command : Perform.command settings globals (.both text words) = nested text words >>= Action.print := by
    simp only [Perform.command, nested, bind_assoc]
  rw [command, outcome_bind, outcome_bind, same]

def ragged : String := "\x7d%\x7bred\x7d%\x7bblue %"

private theorem ragged_parts : Template.ofText ragged = ⟨[("\x7d".toList, "red".toList)], "%\x7bblue %".toList⟩ := by
  simp [Template.ofText, ragged, Template.parse, Template.cut?, Template.cons]

theorem expanding_after_applying_ragged :
    (plainSession .basic).world.interrupting = false ∧
    ∃ after, Returns (nested ragged ["bold", "\x7d%\x7b"]) (plainSession .basic)
      "\x1b[1m\x7d\x1b[31m%\x7bblue %\x1b[m\x1b[m" after := by
  have calm : (plainSession .basic).world.interrupting = false := rfl
  refine ⟨calm, emitted [.debug Compile.logger "Ignoring unknown attribute '\x7d%\x7b'"] (plainSession .basic), ?_⟩
  rw [Returns, (expanding_after_applying calm ragged _).1, apart]
  simp only [outcome_bind, compile_run, rawFormat_run, ragged_parts]
  rfl

end TermStyle.Proofs.CombinedModes
