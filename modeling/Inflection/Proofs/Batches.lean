import Inflection.Proofs.Printed
import Inflection.Proofs.Selection
import Mathlib.Data.List.Forall2

/-!
# Batches of verbs

What one sees of a run of the command is described here without following it
through.  If no inflector can be made with the filter that the arguments ask
for, only the line about that is seen.  Otherwise there is the list of what is
declared, if it is asked for, and behind it a block for each verb in front of
the first whose rules are broken.  Verbs without rule have their block, too, but
the exit code tells of them.

So verbs may be given in one run or in several: as long as nothing fails, the
outputs join, and the exit code is the worst one.
-/

namespace Inflection.CommandLine

open Inflection.Rules
open Inflection.Markup (Element isDocumentChar readDocument?)

/-- The line about what failed, if anything did. -/
def Ending.failure? : Ending → Option String
  | .failed message => some message
  | _ => none

/-- What one sees of a run. -/
structure Seen where
  output : String
  failure : Option String
  exitCode : Nat

/-- What one sees of a result. -/
def RunResult.seen (result : RunResult) : Seen :=
  ⟨result.output, result.ending.failure?, result.ending.exitCode⟩

/-- Tells what is wanted if some items are named: these, or all if none is. -/
inductive Wants {Item : Type} : List Item → Option (List Item) → Prop where
  | all : Wants [] none
  | named (item : Item) (further : List Item) :
      Wants (item :: further) (some (item :: further))

/-- Tells that a filter is the one that arguments ask for. -/
structure Asks (arguments : Arguments) (filter : Filter) : Prop where
  forms : Wants arguments.forms filter.forms
  formsExcept : filter.formsExcept = arguments.formsExcept
  paradigms : Wants arguments.paradigms filter.paradigms
  paradigmsExcept : filter.paradigmsExcept = arguments.paradigmsExcept

/-- Tells that the rules for some verbs are not broken, and what
they come to. -/
abbrev Finds (inflector : Inflector) :
    List String → List (Option Conjugation) → Prop :=
  List.Forall₂ fun verb found => inflector.conjugate verb = .ok found

/-- The exit code for what some verbs came to: whether one of them is without
rule. -/
def codeOf (found : List (Option Conjugation)) : Nat :=
  if none ∈ found then 1 else 0

/-- Tells what one sees of a batch of verbs. -/
inductive BatchSeen (inflector : Inflector) (verbs : List String) :
    Seen → Prop where
  /-- The rules for no verb are broken. -/
  | completed
      {found : List (Option Conjugation)}
      {text : String}
      (finds : Finds inflector verbs found)
      (printed : Blocks verbs found text) :
      BatchSeen inflector verbs ⟨text, none, codeOf found⟩
  /-- The first verb whose rules are broken is the last that is looked at. -/
  | stopped
      {earlier later : List String}
      {found : List (Option Conjugation)}
      {verb text : String}
      {broken : BrokenRules}
      (order : verbs = earlier ++ verb :: later)
      (finds : Finds inflector earlier found)
      (printed : Blocks earlier found text)
      (fails : inflector.conjugate verb = .error broken) :
      BatchSeen inflector verbs
        ⟨text,
          some ("Error: The rules for `" ++ verb ++ "` are broken: " ++
            broken.message),
          2⟩

/-- Tells what one sees of a run with a rule file, given by its path, by what
reading it came to, and by what is said about it if it is refused. -/
inductive RunSeen
    (arguments : Arguments)
    (path : String)
    (content : Except ReadFailure ByteArray)
    (complaints : Complaints) :
    Seen → Prop where
  /-- The rules cannot be loaded, or the filter is refused. -/
  | refused
      {filter : Filter}
      {error : SetupError}
      {text : String}
      (asked : Asks arguments filter)
      (failed :
        Inflector.ofFile (arguments.language.getD "fr") path content filter =
          .error error)
      (told : Told error.summary (error.cause? complaints) text) :
      RunSeen arguments path content complaints
        ⟨"",
          some ("Error: Could not load the rules for `" ++
            arguments.language.getD "fr" ++ "`: " ++ text),
          2⟩
  /-- The declarations are those of the book, whatever the filter. -/
  | reported
      {filter : Filter}
      {document front : String}
      {book : RuleBook}
      {inflector : Inflector}
      {batch : Seen}
      (asked : Asks arguments filter)
      (isText : textOfBytes content = .ok document)
      (isBook : RuleBook.ofText document = .ok book)
      (made :
        Inflector.ofBook (arguments.language.getD "fr") book filter =
          .ok inflector)
      (preface : Preface book arguments.list front)
      (seen : BatchSeen inflector arguments.verbs batch) :
      RunSeen arguments path content complaints
        ⟨front ++ batch.output, batch.failure, batch.exitCode⟩

/-! ## The filter -/

theorem wants_iff
    {Item : Type}
    {named : List Item}
    {wanted : Option (List Item)} :
    Wants named wanted ↔
      wanted = if named.isEmpty then none else some named := by
  constructor
  · intro wants
    cases wants with
    | all => rfl
    | named item further => rfl
  · rintro rfl
    cases named with
    | nil => exact .all
    | cons item further => exact .named item further

/-- Arguments ask for one filter only. -/
theorem asks_iff {arguments : Arguments} {filter : Filter} :
    Asks arguments filter ↔ filter = arguments.filter := by
  constructor
  · rintro ⟨forms, formsExcept, paradigms, paradigmsExcept⟩
    rcases filter with ⟨wantedForms, exceptedForms, wantedParadigms, excepted⟩
    cases formsExcept
    cases paradigmsExcept
    cases wants_iff.mp forms
    cases wants_iff.mp paradigms
    rfl
  · rintro rfl
    exact ⟨wants_iff.mpr rfl, rfl, wants_iff.mpr rfl, rfl⟩

/-! ## Verbs one after the other -/

@[simp]
theorem Ending.failure?_behind (ending : Ending) (found : Bool) :
    (ending.behind found).failure? = ending.failure? := by
  cases ending with
  | allFound => cases found <;> rfl
  | someNotFound => rfl
  | failed message => rfl

@[simp]
theorem Ending.exitCode_behind (ending : Ending) (found : Option Conjugation) :
    (ending.behind found.isSome).exitCode =
      max (codeOf [found]) ending.exitCode := by
  cases found <;> cases ending <;> rfl

/-- What comes to no more than one verb after the other is as bad as the
worst of them. -/
theorem codeOf_cons
    (first : Option Conjugation)
    (others : List (Option Conjugation)) :
    codeOf (first :: others) = max (codeOf [first]) (codeOf others) := by
  cases first with
  | none => by_cases again : none ∈ others <;> simp [codeOf, again]
  | some conjugation => simp [codeOf]

section

variable
    {inflector : Inflector}
    {verbs : List String}
    {found : List (Option Conjugation)}

/-- Behind verbs that are not broken the run goes on as if it began there. -/
theorem seen_runVerbs_append
    (finds : Finds inflector verbs found)
    (later : List String) :
    (runVerbs inflector (verbs ++ later)).seen =
      ⟨blocks verbs found ++ (runVerbs inflector later).output,
        (runVerbs inflector later).ending.failure?,
        max (codeOf found) (runVerbs inflector later).ending.exitCode⟩ := by
  induction finds with
  | nil => simp [RunResult.seen, blocks, codeOf]
  | @cons verb first verbs others isFound rest ih =>
    have one :
        runVerbs inflector (verb :: verbs ++ later) =
          ⟨Report.verbBlock verb first ++
            (runVerbs inflector (verbs ++ later)).output,
            (runVerbs inflector (verbs ++ later)).ending.behind
              first.isSome⟩ := by
      rw [List.cons_append, runVerbs, isFound]
    simp only [RunResult.seen, Seen.mk.injEq] at ih
    rcases ih with ⟨sameOutput, sameFailure, sameCode⟩
    rw [one, codeOf_cons]
    simp only [RunResult.seen, Ending.failure?_behind, Ending.exitCode_behind,
      sameOutput, sameFailure, sameCode, blocks, List.zipWith_cons_cons,
      String.join_cons, String.append_assoc, Nat.max_assoc]

/-- Either no verb is broken, or there is a first one that is. -/
theorem finds_or_fails (inflector : Inflector) (verbs : List String) :
    (∃ found, Finds inflector verbs found) ∨
      ∃ earlier verb later found broken,
        verbs = earlier ++ verb :: later ∧
        Finds inflector earlier found ∧
        inflector.conjugate verb = .error broken := by
  induction verbs with
  | nil => exact .inl ⟨[], .nil⟩
  | cons verb verbs ih =>
    cases conjugated : inflector.conjugate verb with
    | error broken =>
      exact .inr ⟨[], verb, verbs, [], broken, rfl, .nil, conjugated⟩
    | ok first =>
      rcases ih with
        ⟨found, finds⟩ |
        ⟨earlier, other, later, found, broken, order, finds, fails⟩
      · exact .inl ⟨first :: found, .cons conjugated finds⟩
      · refine .inr
          ⟨verb :: earlier, other, later, first :: found, broken, ?_, ?_, fails⟩
        · rw [order, List.cons_append]
        · exact .cons conjugated finds

theorem seen_runVerbs_of_finds (finds : Finds inflector verbs found) :
    (runVerbs inflector verbs).seen = ⟨blocks verbs found, none,
      codeOf found⟩ := by
  have all := seen_runVerbs_append finds []
  rw [List.append_nil] at all
  rw [all]
  simp [runVerbs, Ending.failure?, Ending.exitCode]

theorem seen_runVerbs_of_fails
    (finds : Finds inflector verbs found)
    {verb : String}
    {broken : BrokenRules}
    (fails : inflector.conjugate verb = .error broken)
    (later : List String) :
    (runVerbs inflector (verbs ++ verb :: later)).seen =
      ⟨blocks verbs found,
        some ("Error: The rules for `" ++ verb ++ "` are broken: " ++
          broken.message),
        2⟩ := by
  have last :
      runVerbs inflector (verb :: later) =
        ⟨"", .failed (verbFailure verb broken)⟩ := by
    rw [runVerbs, fails]
  have worst : max (codeOf found) 2 = 2 := by
    apply Nat.max_eq_right
    unfold codeOf
    split <;> decide
  rw [seen_runVerbs_append finds, last]
  simp [Ending.failure?, Ending.exitCode, worst, verbFailure_eq]

/-- A batch of verbs is seen as laid down, and not otherwise. -/
theorem seen_runVerbs_iff
    (inflector : Inflector)
    (verbs : List String)
    (seen : Seen) :
    (runVerbs inflector verbs).seen = seen ↔
      BatchSeen inflector verbs seen := by
  constructor
  · rintro rfl
    rcases finds_or_fails inflector verbs with
      ⟨found, finds⟩ | ⟨earlier, verb, later, found, broken, rfl, finds, fails⟩
    · rw [seen_runVerbs_of_finds finds]
      exact .completed finds ((blocks_iff finds.length_eq).mpr rfl)
    · rw [seen_runVerbs_of_fails finds fails]
      exact .stopped rfl finds ((blocks_iff finds.length_eq).mpr rfl) fails
  · intro isSeen
    cases isSeen with
    | completed finds printed =>
      rw [(blocks_iff finds.length_eq).mp printed]
      exact seen_runVerbs_of_finds finds
    | stopped order finds printed fails =>
      subst order
      rw [(blocks_iff finds.length_eq).mp printed]
      exact seen_runVerbs_of_fails finds fails _

end

/-! ## Whole runs -/

/-- An inflector is made from a file by reading its text and its book, and then
setting the filter. -/
theorem ofFile_eq_ok_iff
    {language path : String}
    {content : Except ReadFailure ByteArray}
    {filter : Filter}
    {inflector : Inflector} :
    Inflector.ofFile language path content filter = .ok inflector ↔
      ∃ text book,
        textOfBytes content = .ok text ∧
        RuleBook.ofText text = .ok book ∧
        Inflector.ofBook language book filter = .ok inflector := by
  unfold Inflector.ofFile Inflector.ofText
  cases textOfBytes content with
  | error failure => simp
  | ok text =>
    cases isBook : RuleBook.ofText text with
    | error error => simp [isBook]
    | ok book =>
      cases isMade : Inflector.ofBook language book filter with
      | error error => simp [isBook, isMade, Except.mapError]
      | ok made => simp [isBook, isMade, Except.mapError]

/-- A filter that is refused is the reason why there is no inflector. -/
theorem ofFile_of_refused
    {language text : String}
    (path : String)
    {content : Except ReadFailure ByteArray}
    {book : RuleBook}
    {filter : Filter}
    {error : FilterError}
    (isText : textOfBytes content = .ok text)
    (isBook : RuleBook.ofText text = .ok book)
    (refused : Inflector.ofBook language book filter = .error error) :
    Inflector.ofFile language path content filter = .error (.filter error) := by
  simp only [Inflector.ofFile, isText, Inflector.ofText, isBook, refused,
    Except.mapError]

section

variable
    {arguments : Arguments}
    {path : String}
    {content : Except ReadFailure ByteArray}
    {complaints : Complaints}

theorem seen_runWithFile_of_error
    {error : SetupError}
    (failed :
      Inflector.ofFile arguments.languageCode path content arguments.filter =
        .error error) :
    (runWithFile arguments path content complaints).seen =
      ⟨"", some (setupFailure arguments.languageCode complaints error), 2⟩ := by
  simp only [runWithFile, run, failed]
  rfl

theorem seen_runWithFile_of_ok
    {inflector : Inflector}
    (made :
      Inflector.ofFile arguments.languageCode path content arguments.filter =
        .ok inflector) :
    (runWithFile arguments path content complaints).seen =
      ⟨(if arguments.list then Report.declared inflector.book else "") ++
          (runVerbs inflector arguments.verbs).seen.output,
        (runVerbs inflector arguments.verbs).seen.failure,
        (runVerbs inflector arguments.verbs).seen.exitCode⟩ := by
  simp only [runWithFile, run, made]
  cases arguments.list with
  | false => simp [RunResult.seen]
  | true => rfl

/-- A run is seen as laid down, and not otherwise. -/
theorem seen_runWithFile_iff (seen : Seen) :
    (runWithFile arguments path content complaints).seen = seen ↔
      RunSeen arguments path content complaints seen := by
  constructor
  · rintro rfl
    have asked : Asks arguments arguments.filter := asks_iff.mpr rfl
    cases setup : Inflector.ofFile arguments.languageCode path content
        arguments.filter with
    | error error =>
      rcases exists_told error.summary (error.cause? complaints) with
        ⟨text, told⟩
      rw [seen_runWithFile_of_error setup, setupFailure_of_told told]
      exact .refused asked setup told
    | ok inflector =>
      rcases ofFile_eq_ok_iff.mp setup with ⟨text, book, isText, isBook, made⟩
      rcases Inflector.parts_of_ofBook made with ⟨-, sameBook, -⟩
      rw [seen_runWithFile_of_ok setup, sameBook]
      exact .reported asked isText isBook made (preface_iff.mpr rfl)
        ((seen_runVerbs_iff _ _ _).mp rfl)
  · intro isSeen
    cases isSeen with
    | refused asked failed told =>
      cases asks_iff.mp asked
      rw [seen_runWithFile_of_error failed]
      exact congrArg (fun line => Seen.mk "" (some line) 2)
        (setupFailure_of_told told _)
    | reported asked isText isBook made preface isBatch =>
      cases asks_iff.mp asked
      rcases Inflector.parts_of_ofBook made with ⟨-, sameBook, -⟩
      rw [seen_runWithFile_of_ok
          (ofFile_eq_ok_iff.mpr ⟨_, _, isText, isBook, made⟩),
        sameBook, (seen_runVerbs_iff _ _ _).mpr isBatch, preface_iff.mp preface]

end

/-- The same arguments with other verbs. -/
def Arguments.withVerbs (arguments : Arguments) (verbs : List String) :
    Arguments :=
  { arguments with verbs := verbs }

/-- A run with some verbs does not fail only if they all are looked up. -/
theorem exists_finds_of_exitCode
    {arguments : Arguments}
    {path : String}
    {content : Except ReadFailure ByteArray}
    {complaints : Complaints}
    {verbs : List String}
    (notFailed :
      (runWithFile (arguments.withVerbs verbs) path content
        complaints).seen.exitCode ≠ 2) :
    ∃ inflector found,
      Inflector.ofFile arguments.languageCode path content arguments.filter =
        .ok inflector ∧
      Finds inflector verbs found := by
  have isSeen :
      RunSeen (arguments.withVerbs verbs) path content complaints
        (runWithFile (arguments.withVerbs verbs) path content
          complaints).seen :=
    (seen_runWithFile_iff _).mp rfl
  revert notFailed
  generalize (runWithFile (arguments.withVerbs verbs) path content
    complaints).seen = seen at isSeen
  intro notFailed
  cases isSeen with
  | refused asked failed told => exact absurd rfl notFailed
  | reported asked isText isBook made preface isBatch =>
    cases asks_iff.mp asked
    cases isBatch with
    | completed finds printed =>
      exact ⟨_, _, ofFile_eq_ok_iff.mpr ⟨_, _, isText, isBook, made⟩, finds⟩
    | stopped order finds printed fails => exact absurd rfl notFailed

/-- What one sees of a run for some verbs. -/
def seenFor
    (arguments : Arguments)
    (path : String)
    (content : Except ReadFailure ByteArray)
    (complaints : Complaints)
    (verbs : List String) :
    Seen :=
  (runWithFile (arguments.withVerbs verbs) path content complaints).seen

/-- A run with a rule file is seen as laid down, and not otherwise.  Without the
list of declarations, verbs that do not fail may as well be given to a run of
their own: the outputs join, and the exit code is the larger one. -/
theorem runWithFile_verb_by_verb
    (arguments : Arguments)
    (path : String)
    (content : Except ReadFailure ByteArray)
    (complaints : Complaints) :
    (∀ seen,
      (runWithFile arguments path content complaints).seen = seen ↔
        RunSeen arguments path content complaints seen) ∧
    ∀ verbs further,
      arguments.list = false →
      (seenFor arguments path content complaints verbs).exitCode ≠ 2 →
        (seenFor arguments path content complaints (verbs ++ further)).output =
            (seenFor arguments path content complaints verbs).output ++
              (seenFor arguments path content complaints further).output ∧
          (seenFor arguments path content complaints
            (verbs ++ further)).exitCode =
            max (seenFor arguments path content complaints verbs).exitCode
              (seenFor arguments path content complaints further).exitCode := by
  refine ⟨seen_runWithFile_iff, ?_⟩
  intro verbs further unlisted notFailed
  rcases exists_finds_of_exitCode notFailed with
    ⟨inflector, found, setup, finds⟩
  have each :
      ∀ given,
        seenFor arguments path content complaints given =
          (runVerbs inflector given).seen := by
    intro given
    have made :
        Inflector.ofFile (arguments.withVerbs given).languageCode path content
          (arguments.withVerbs given).filter = .ok inflector := setup
    have unasked : (arguments.withVerbs given).list = false := unlisted
    rw [seenFor, seen_runWithFile_of_ok made, unasked]
    simp [Arguments.withVerbs]
  rw [each, each, each, seen_runVerbs_append finds,
    seen_runVerbs_of_finds finds]
  exact ⟨rfl, rfl⟩

/-- The text of a file is what was written to it. -/
theorem textOfBytes_toUTF8 (text : String) :
    textOfBytes (.ok text.toUTF8) = .ok text := by
  have valid : text.toUTF8.IsValidUTF8 := text.isValidUTF8
  have decoded : String.fromUTF8? text.toUTF8 = some text := by
    rw [String.fromUTF8?, dif_pos valid]
    rfl
  simp only [textOfBytes, Except.bind, decoded]

/-- The pieces of a rule file with two forms and three paradigms, for a verb
with endings in the present and a verb that inherits from nothing declared. -/
def piecesOfTwoVerbs : List String :=
  ["<verbs><meta>",
    "<forms><form>prs</form>", "<form>pst</form></forms>", "<paradigms>",
    "<paradigm ", "person=\"1\" ", "quant=\"sg\"/>",
    "<paradigm ", "person=\"2\" ", "quant=\"sg\"/>",
    "<paradigm ", "person=\"12\" ", "quant=\"pl\"/>",
    "</paradigms></meta>",
    "<verb word=\"aimer\">", "<group id=\"prs\">", "<endlength>1</endlength>",
    "<pdgmgroup id=\"12\">", "<append>nt</append>", "</pdgmgroup>",
    "</group></verb>",
    "<verb word=\"venir\" ", "inherit=\"ir\"/></verbs>"]

/-- The text of this file. -/
def rulesOfTwoVerbs : String :=
  String.join piecesOfTwoVerbs

/-- The document in this file. -/
def documentOfTwoVerbs : Element :=
  let paradigm (person quantity : String) : Element :=
    plainElement "paradigm" [("person", person), ("quant", quantity)] []
  plainElement "verbs" [] [
    plainElement "meta" [] [
      plainElement "forms" [] [textElement "form" "prs",
        textElement "form" "pst"],
      plainElement "paradigms" [] [
        paradigm "1" "sg", paradigm "2" "sg", paradigm "12" "pl"]],
    plainElement "verb" [("word", "aimer")] [
      plainElement "group" [("id", "prs")] [
        textElement "endlength" "1",
        plainElement "pdgmgroup" [("id", "12")] [textElement "append" "nt"]]],
    plainElement "verb" [("word", "venir"), ("inherit", "ir")] []]

/-- The verb of this file that has endings. -/
def verbAimer : Entry .verb where
  name := "aimer"
  inherit := none
  forms :=
    .put FormRules.merge .empty "prs"
      ⟨{ removed := some 1 },
        .put PersonRules.merge .empty "12"
          ⟨false, { append := some "nt" }, .empty⟩⟩

/-- The book of this file. -/
def bookOfTwoVerbs : RuleBook where
  forms := ["prs", "pst"]
  paradigms := [⟨"1", "sg"⟩, ⟨"2", "sg"⟩, ⟨"12", "pl"⟩]
  verbs := [verbAimer, ⟨"venir", some "ir", .empty⟩]
  verbSets := []
  verbs_distinct := by simp [verbAimer]
  verbSets_distinct := List.nodup_nil

set_option maxRecDepth 20000 in
theorem readDocument?_rulesOfTwoVerbs :
    readDocument? rulesOfTwoVerbs = some documentOfTwoVerbs := by
  have allowed :
      (piecesOfTwoVerbs.flatMap String.toList).all isDocumentChar = true := by
    decide
  unfold readDocument?
  rw [rulesOfTwoVerbs, String.toList_join]
  simp only [allowed]
  rfl

theorem ofText_rulesOfTwoVerbs :
    RuleBook.ofText rulesOfTwoVerbs = .ok bookOfTwoVerbs := by
  rw [RuleBook.ofText, readDocument?_rulesOfTwoVerbs]
  rfl

/-- Arguments for the present only, but not for its second person. -/
def presentOnly : Arguments where
  forms := ["prs"]
  paradigmsExcept := [⟨"2", "sg"⟩]

/-- The same arguments for the list and for some verbs, one of them twice. -/
def presentListed : Arguments :=
  { presentOnly with
    list := true
    verbs := ["aimer", "xyz", "venir", "aimer"] }

/-- What one sees of a run with this file for some verbs, without the list. -/
def seenOfTwoVerbs (verbs : List String) : Seen :=
  seenFor presentOnly "fr.xml" (.ok rulesOfTwoVerbs.toUTF8) {} verbs

/-- The conjugation of the first verb with these arguments. -/
def presentOfAimer : Conjugation :=
  ⟨[⟨"prs", [("1sg", "aime"), ("12pl", "aiment")]⟩]⟩

/-- What is printed for this verb and for a word without rule. -/
def printedForPresent : String :=
  "aimer\n  prs\n    1sg   aime\n    12pl  aiment\n" ++
    "xyz: no rule matches\n"

theorem blocks_present :
    Blocks ["aimer", "xyz"] [some presentOfAimer, none] printedForPresent :=
  (blocks_iff rfl).mpr (by decide)

/-- The line about the second verb. -/
def lineForVenir : String :=
  "Error: The rules for `venir` are broken: " ++
    "the verb-set `ir` is referenced but never declared"

/-- With these arguments the first verb has values, a word without rule has
none, and the second verb is broken. -/
theorem exists_inflector_presentOnly :
    ∃ inflector,
      Inflector.ofBook "fr" bookOfTwoVerbs presentOnly.filter = .ok inflector ∧
      Finds inflector ["aimer", "xyz"] [some presentOfAimer, none] ∧
      inflector.conjugate "venir" = .error (.undeclaredVerbSet "ir") := by
  have accepted :
      presentOnly.filter.resolve bookOfTwoVerbs =
        .ok ⟨["prs"], [⟨"1", "sg"⟩, ⟨"12", "pl"⟩]⟩ := by
    rfl
  have first :
      ancestryOf bookOfTwoVerbs "aimer" = .ok (some ⟨verbAimer, []⟩) := by
    cbv
  have unknown : ancestryOf bookOfTwoVerbs "xyz" = .ok none := by
    cbv
  have second :
      ancestryOf bookOfTwoVerbs "venir" = .error (.undeclaredVerbSet "ir") := by
    cbv
  rcases Inflector.exists_ofBook "fr" accepted with ⟨inflector, made⟩
  refine ⟨inflector, made, .cons ?_ (.cons ?_ .nil), ?_⟩
  all_goals
    cases made
    rw [Inflector.conjugate, RuleBook.conjugate]
  · rw [first]
    rfl
  · rw [unknown]
    rfl
  · rw [second]
    rfl

/-- With the list, the book is told in full, and the run ends with the
second verb. -/
theorem runSeen_presentListed :
    RunSeen presentListed "fr.xml" (.ok rulesOfTwoVerbs.toUTF8) {}
      ⟨"forms: prs pst\nparadigms: 1sg 2sg 12pl\n" ++ printedForPresent,
        some lineForVenir,
        2⟩ := by
  rcases exists_inflector_presentOnly with ⟨inflector, made, finds, fails⟩
  have preface :
      Preface bookOfTwoVerbs true
        "forms: prs pst\nparadigms: 1sg 2sg 12pl\n" :=
    preface_iff.mpr (by decide)
  have isSeen :
      RunSeen presentListed "fr.xml" (.ok rulesOfTwoVerbs.toUTF8) {} _ :=
    .reported (asks_iff.mpr rfl) (textOfBytes_toUTF8 _) ofText_rulesOfTwoVerbs
      made preface (.stopped (by rfl) finds blocks_present fails)
  exact isSeen

/-- Without the list, the verb with values and the word without rule are all
that is printed. -/
theorem runSeen_presentOnly_found :
    RunSeen (presentOnly.withVerbs ["aimer", "xyz"]) "fr.xml"
      (.ok rulesOfTwoVerbs.toUTF8) {} ⟨printedForPresent, none, 1⟩ := by
  rcases exists_inflector_presentOnly with ⟨inflector, made, finds, -⟩
  have isSeen :
      RunSeen (presentOnly.withVerbs ["aimer", "xyz"]) "fr.xml"
        (.ok rulesOfTwoVerbs.toUTF8) {} _ :=
    .reported (asks_iff.mpr rfl) (textOfBytes_toUTF8 _) ofText_rulesOfTwoVerbs
      made .unasked (.completed finds blocks_present)
  exact isSeen

/-- The broken verb ends a run that begins with it. -/
theorem runSeen_presentOnly_broken :
    RunSeen (presentOnly.withVerbs ["venir", "aimer"]) "fr.xml"
      (.ok rulesOfTwoVerbs.toUTF8) {} ⟨"", some lineForVenir, 2⟩ := by
  rcases exists_inflector_presentOnly with ⟨inflector, made, -, fails⟩
  have isSeen :
      RunSeen (presentOnly.withVerbs ["venir", "aimer"]) "fr.xml"
        (.ok rulesOfTwoVerbs.toUTF8) {} _ :=
    .reported (asks_iff.mpr rfl) (textOfBytes_toUTF8 _) ofText_rulesOfTwoVerbs
      made .unasked (.stopped (by rfl) .nil .none fails)
  exact isSeen

/-- A filter with a form that is not declared is refused. -/
theorem runSeen_undeclaredForm :
    RunSeen { forms := ["fut"], list := true, verbs := ["aimer"] } "fr.xml"
      (.ok rulesOfTwoVerbs.toUTF8) {}
      ⟨"",
        some ("Error: Could not load the rules for `fr`: " ++
          "`fut` is not a form declared by this language"),
        2⟩ := by
  have refused :
      Inflector.ofBook "fr" bookOfTwoVerbs
        (Arguments.filter { forms := ["fut"] }) =
          .error (.undeclaredForm "fut") := by
    rfl
  have failed :=
    ofFile_of_refused "fr.xml" (textOfBytes_toUTF8 _) ofText_rulesOfTwoVerbs
      refused
  have line :
      "Error: Could not load the rules for `" ++ "fr" ++ "`: " ++
          (SetupError.filter (.undeclaredForm "fut")).summary =
        "Error: Could not load the rules for `fr`: " ++
          "`fut` is not a form declared by this language" := by
    decide
  rw [← line]
  exact .refused (asks_iff.mpr rfl) failed .alone

/-- What is said about a file that is not well-formed is told. -/
theorem runSeen_notWellFormed :
    RunSeen { language := some "en", list := true } "en.xml"
      (.ok "<verbs".toUTF8) { document := some "unexpected end of stream" }
      ⟨"",
        some ("Error: Could not load the rules for `en`: " ++
          ("the rule file is not well-formed XML: " ++
            "unexpected end of stream: unexpected end of stream")),
        2⟩ := by
  have failed :
      Inflector.ofFile "en" "en.xml" (.ok "<verbs".toUTF8) {} =
        .error (.rules .notWellFormed) := by
    simp only [Inflector.ofFile, textOfBytes_toUTF8]
    rfl
  have line :
      "Error: Could not load the rules for `" ++ "en" ++ "`: " ++
          ((SetupError.rules .notWellFormed).summary ++ ": " ++
            "unexpected end of stream" ++ ": " ++
            "unexpected end of stream") =
        "Error: Could not load the rules for `en`: " ++
          ("the rule file is not well-formed XML: " ++
            "unexpected end of stream: unexpected end of stream") := by
    decide
  rw [← line]
  exact .refused (asks_iff.mpr rfl) failed
    (.withCause "unexpected end of stream")

/-- What is listed is all that the book declares, while the verbs are conjugated
with the filter; a broken verb ends the run, and the verbs behind it have no
block.  Without the list the run can be parted.  If the filter or the file is
refused, nothing is listed, and what is said of the file is told. -/
theorem runWithFile_verb_by_verb_mixed :
    Arguments.parse
        ["--list", "-fprs", "aimer", "xyz", "--except-paradigm", "2sg", "venir",
          "aimer"] =
      .ok presentListed ∧
    (runWithFile presentListed "fr.xml" (.ok rulesOfTwoVerbs.toUTF8)).seen =
      ⟨"forms: prs pst\nparadigms: 1sg 2sg 12pl\n" ++ printedForPresent,
        some lineForVenir,
        2⟩ ∧
    (runWithFile { forms := ["fut"], list := true, verbs := ["aimer"] }
        "fr.xml" (.ok rulesOfTwoVerbs.toUTF8)).seen =
      ⟨"",
        some ("Error: Could not load the rules for `fr`: " ++
          "`fut` is not a form declared by this language"),
        2⟩ ∧
    (runWithFile { language := some "en", list := true }
        "en.xml" (.ok "<verbs".toUTF8)
        { document := some "unexpected end of stream" }).seen =
      ⟨"",
        some ("Error: Could not load the rules for `en`: " ++
          ("the rule file is not well-formed XML: " ++
            "unexpected end of stream: unexpected end of stream")),
        2⟩ ∧
    seenOfTwoVerbs ["aimer", "xyz"] = ⟨printedForPresent, none, 1⟩ ∧
    seenOfTwoVerbs ["venir", "aimer"] = ⟨"", some lineForVenir, 2⟩ ∧
    (seenOfTwoVerbs ["aimer", "xyz", "venir", "aimer"]).output =
      printedForPresent ∧
    (seenOfTwoVerbs ["aimer", "xyz", "venir", "aimer"]).exitCode = 2 := by
  have started :
      seenOfTwoVerbs ["aimer", "xyz"] = ⟨printedForPresent, none, 1⟩ :=
    ((runWithFile_verb_by_verb _ _ _ _).1 _).mpr runSeen_presentOnly_found
  have ended :
      seenOfTwoVerbs ["venir", "aimer"] = ⟨"", some lineForVenir, 2⟩ :=
    ((runWithFile_verb_by_verb _ _ _ _).1 _).mpr runSeen_presentOnly_broken
  have notFailed : (seenOfTwoVerbs ["aimer", "xyz"]).exitCode ≠ 2 := by
    rw [started]
    decide
  have joined :=
    (runWithFile_verb_by_verb presentOnly "fr.xml"
      (.ok rulesOfTwoVerbs.toUTF8) {}).2 ["aimer", "xyz"] ["venir", "aimer"] rfl
      notFailed
  change
    (seenOfTwoVerbs ["aimer", "xyz", "venir", "aimer"]).output =
        (seenOfTwoVerbs ["aimer", "xyz"]).output ++
          (seenOfTwoVerbs ["venir", "aimer"]).output ∧
      (seenOfTwoVerbs ["aimer", "xyz", "venir", "aimer"]).exitCode =
        max (seenOfTwoVerbs ["aimer", "xyz"]).exitCode
          (seenOfTwoVerbs ["venir", "aimer"]).exitCode at joined
  rw [started, ended] at joined
  refine ⟨by rfl, ?_, ?_, ?_, started, ended, joined⟩
  · exact ((runWithFile_verb_by_verb _ _ _ _).1 _).mpr runSeen_presentListed
  · exact ((runWithFile_verb_by_verb _ _ _ _).1 _).mpr runSeen_undeclaredForm
  · exact ((runWithFile_verb_by_verb _ _ _ _).1 _).mpr runSeen_notWellFormed

end Inflection.CommandLine
