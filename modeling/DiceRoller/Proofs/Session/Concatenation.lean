import DiceRoller.Proofs.Notation.Concatenation
import DiceRoller.Proofs.Session.Spelling

/-!
# Orders joined by a semicolon

A text that is accepted and has a semicolon might as well have come in two
orders.  Each part keeps the limits that the whole text keeps, and the second
order draws on from where the first one stopped.
-/

namespace DiceRoller

open Notation (groups? groups?_append_semicolon rolls?
  rolls?_append_semicolon)
open Source (draws_append)

/-- What one report tells of its rolls is told by two others, one behind the
other. -/
structure Report.Joins (first later whole : Report) : Prop where
  descriptions : whole.descriptions = first.descriptions ++ later.descriptions
  results : whole.results = first.results ++ later.results
  totals : whole.totals = first.totals ++ later.totals

namespace Request

theorem joins_report (text front back : String) (first later : List Roll)
    (provenance before behind : Provenance)
    (stamp frontStamp backStamp : Stamp) (results others : List Result) :
    Report.Joins ((ofRolls front first).report before frontStamp results)
      ((ofRolls back later).report behind backStamp others)
      ((ofRolls text (first ++ later)).report provenance stamp
        (results ++ others)) := by
  have breakdowns : (results ++ others).map Result.breakdown =
      results.map Result.breakdown ++ others.map Result.breakdown :=
    List.map_append
  constructor
  · exact List.map_append
  · exact breakdowns
  · exact (congrArg _ breakdowns).trans List.map_append

theorem dice_append (text front back : String) (first later : List Roll) :
    (ofRolls text (first ++ later)).dice =
      (ofRolls front first).dice ++ (ofRolls back later).dice :=
  List.flatMap_append

/-- The parts of an accepted text are accepted. -/
theorem readWithin_parts {settings : Settings} {first later : String}
    {journal : Journal} {request : Request}
    (accepted : (readWithin settings (first ++ ";" ++ later) journal).1 =
      .ok request) (other : Journal) :
    ∃ firstRolls laterRolls,
      request = ofRolls (first ++ ";" ++ later) (firstRolls ++ laterRolls) ∧
      (readWithin settings first other).1 = .ok (ofRolls first firstRolls) ∧
      (readWithin settings later other).1 =
        .ok (ofRolls later laterRolls) := by
  obtain ⟨rolls, spelled, admits, rfl⟩ :=
    readWithin_eq_ok_iff_admits.mp accepted
  rw [rolls?_append_semicolon] at spelled
  obtain ⟨firstRolls, firstSpelled, joined⟩ :=
    Option.bind_eq_some_iff.mp spelled
  obtain ⟨laterRolls, laterSpelled, rfl⟩ := Option.map_eq_some_iff.mp joined
  have firstAdmits := admits.of_sublist
    (List.sublist_append_left firstRolls laterRolls)
  have laterAdmits := admits.of_sublist
    (List.sublist_append_right firstRolls laterRolls)
  exact ⟨firstRolls, laterRolls, rfl,
    readWithin_eq_ok_iff_admits.mpr ⟨_, firstSpelled, firstAdmits, rfl⟩,
    readWithin_eq_ok_iff_admits.mpr ⟨_, laterSpelled, laterAdmits, rfl⟩⟩

end Request

namespace Session

variable {σ : Type} [Source σ]

/-- A text divided at a semicolon is read as its parts are; and if it is
accepted, its parts are accepted as orders one after the other, which tell the
same of its rolls and leave every generator in the same state. -/
theorem answer_append_semicolon (session : Session σ) (order : Order)
    (first later : String) (stamp firstStamp laterStamp : Stamp) :
    let whole := session.answer stamp
      (order.retext (first ++ ";" ++ later))
    let front := session.answer firstStamp (order.retext first)
    let back := front.2.answer laterStamp (order.retext later)
    groups? (first ++ ";" ++ later) =
        ((groups? first).bind fun firstGroups =>
          (groups? later).map fun laterGroups =>
            firstGroups ++ laterGroups) ∧
      ∀ report, whole.1 = .ok report →
        ∃ firstReport laterReport, front.1 = .ok firstReport ∧
          back.1 = .ok laterReport ∧
          Report.Joins firstReport laterReport report ∧
          ∀ selection, back.2.state? selection = whole.2.state? selection := by
  intro whole front back
  refine ⟨groups?_append_semicolon first later, ?_⟩
  intro report accepted
  have wholeAnswered :=
    answered session stamp (order.retext (first ++ ";" ++ later))
  have frontAnswered := answered session firstStamp (order.retext first)
  have backAnswered := answered front.2 laterStamp (order.retext later)
  -- All three orders select the same generator.
  have chosen : front.2.select (order.retext later) = session.select order :=
    frontAnswered.sameNames.select_eq _
  rw [accepted] at wholeAnswered
  cases wholeAnswered with
  | accepted reading reported changed =>
      obtain ⟨firstRolls, laterRolls, rfl, frontReading, backReading⟩ :=
        Request.readWithin_parts (reading #[]) #[]
      obtain ⟨_, frontReply, frontReported, frontState⟩ :=
        frontAnswered.of_ok frontReading
      obtain ⟨_, backReply, backReported, backState⟩ :=
        backAnswered.of_ok backReading
      have handed := frontAnswered.generator_eq frontReading
      rw [select_retext] at handed
      rw [chosen, handed] at backReported backState
      refine ⟨_, _, frontReply, backReply, ?_, ?_⟩
      · obtain ⟨_, told, rfl⟩ := reported
        obtain ⟨_, frontTold, rfl⟩ := frontReported
        obtain ⟨_, backTold, rfl⟩ := backReported
        simp only [Request.dice, Request.ofRolls, select_retext,
          Roll.outcomes_append] at told
        rw [told.unique (frontTold.append backTold)]
        exact Request.joins_report _ _ _ _ _ _ _ _ _ _ _ _ _
      · intro selection
        rw [backState, changed, frontState,
          Request.dice_append _ first later, draws_append]
        by_cases here : selection = session.select order <;>
          simp [select_retext, here]

theorem answer_append_semicolon_scripted :
    let session := start
      [("script", Generator.scripted (.ofFaces [2, 5, 3]))] .lowest
    let stamp : Stamp := { identifier := "", time := "", nonce := "" }
    let order : Order :=
      { text := "", generator := some "script", settings := {} }
    let whole := session.answer stamp (order.retext ("2d6" ++ ";" ++ "d4+1"))
    let front := session.answer stamp (order.retext "2d6")
    let back := front.2.answer stamp (order.retext "d4+1")
    ∃ report, whole.1 = .ok report ∧
      ∃ firstReport laterReport, front.1 = .ok firstReport ∧
        back.1 = .ok laterReport ∧
        Report.Joins firstReport laterReport report ∧
        ∀ selection, back.2.state? selection = whole.2.state? selection := by
  intro session stamp order whole front back
  have reading : (Request.readWithin order.settings ("2d6" ++ ";" ++ "d4+1")
      #[]).1 = .ok (.ofRolls "2d6;d4+1"
        [.single (.mk 2 6 0 (by decide) (by decide)),
          .single (.mk 1 4 1 (by decide) (by decide))]) := by decide +kernel
  obtain ⟨report, replied⟩ : ∃ report, whole.1 = .ok report :=
    (exists_report_iff #[]).mpr ⟨_, reading⟩
  exact ⟨report, replied, (answer_append_semicolon session order "2d6" "d4+1"
    stamp stamp stamp).2 report replied⟩

end Session

end DiceRoller
