import PluginSchema.Log.Setup
import PluginSchema.Proofs.Log.Cuts
import PluginSchema.Proofs.Log.PlainFilter

/-!
# The first call decides

The log of a process is set up once. Where the environment is unset, writes no filter or names a
level, and where all defaults are names of levels, the filter in effect is a plain one: the level of
the environment, or else the default of the first call. All calls behind the first are refused and
leave the filter alone. They may widen what is looked at, so what a run of calls keeps is the filter
together with a ceiling that is not below it. From that the lines of every conversion follow.

There is one exception. A text of the environment that leads to a bad cut writes no filter either,
but no default takes its place: every call panics, attempts included, and nothing is set up. No
text of one-byte characters is such a text.
-/

namespace PluginSchema.Log

open Conversion (Event Run Span Trace)

/-- What the environment gives: the limit that it names, or none if it is unset or its text writes
no filter, for whatever reason. -/
inductive Gives : Option String → Option Limit → Prop
  | unset : Gives none none
  | invalid {text : String} {refusal : Refusal} (h : Filter.parse text = .error refusal) :
      Gives (some text) none
  | level {text : String} {limit : Limit} (h : limit.Named text) :
      Gives (some text) (some limit)

/-- The bad cut that reading the environment's text leads to, if there is one. -/
def badCut? (environment : Option String) : Option Text.BadCut :=
  match environment.map Filter.parse with
  | some (.error (.badCut cut)) => some cut
  | _ => none

/-- The limit that a call sets up by default. -/
inductive Call.Defaults : Call → Limit → Prop
  | attempt : Defaults .attempt ⟨some .info⟩
  | standard : Defaults .standard ⟨some .info⟩
  | withDefault {text : String} {limit : Limit} (h : limit.Named text) :
      Defaults (.withDefault text) limit

/-- The text of a call's default is the name of its limit. -/
theorem Call.Defaults.named {call : Call} {limit : Limit} (h : call.Defaults limit) :
    limit.Named call.default := by
  cases h with
  | attempt => rfl
  | standard => rfl
  | withDefault h => exact h

/-- A bad cut is that of a text which the reader of filters refuses for it. -/
theorem badCut?_eq_some_iff {environment : Option String} {cut : Text.BadCut} :
    badCut? environment = some cut ↔
      ∃ text, environment = some text ∧ Filter.parse text = .error (.badCut cut) := by
  unfold badCut?
  split
  next met heq =>
    obtain ⟨text, rfl, hparse⟩ := Option.map_eq_some_iff.mp heq
    simp [hparse]
  next hnone =>
    simp only [reduceCtorEq, false_iff, not_exists, not_and]
    rintro text rfl hparse
    exact hnone cut (congrArg some hparse)

/-- A call chooses the limit of the environment, or else its default, if there is no bad cut. -/
theorem Filter.choose_of_gives {environment : Option String} {given : Option Limit}
    {default : String} {limit : Limit} (henvironment : Gives environment given)
    (hcut : badCut? environment = none) (hdefault : limit.Named default) :
    choose environment default = .ok (plain (given.getD limit)) := by
  cases henvironment with
  | unset => exact parseLossy_of_named hdefault
  | @invalid text refusal h =>
    rw [choose, Option.map_some, h]
    cases refusal with
    | malformed => exact parseLossy_of_named hdefault
    | badCut cut =>
      rw [badCut?_eq_some_iff.mpr ⟨text, rfl, h⟩] at hcut
      cases hcut
  | level h =>
    rw [choose, Option.map_some, parse_of_named h]
    rfl

/-- A call chooses nothing at a bad cut. -/
theorem Filter.choose_of_badCut {environment : Option String} {cut : Text.BadCut}
    (hcut : badCut? environment = some cut) (default : String) :
    choose environment default = .error cut := by
  obtain ⟨text, rfl, h⟩ := badCut?_eq_some_iff.mp hcut
  rw [choose, Option.map_some, h]

/-- The greater of two limits admits what one of them does. -/
theorem Limit.admits_max (a b : Limit) (level : Level) :
    (Limit.max a b).admits level = (a.admits level || b.admits level) := by
  rcases a with ⟨_ | x⟩ <;> rcases b with ⟨_ | y⟩
  · rfl
  · rfl
  · simp [Limit.max, admits]
  · by_cases h : x.rank ≤ y.rank <;> simp [Limit.max, admits, h] <;> omega

/-- A log has the plain filter of a limit, and what that admits is looked at. -/
structure Logger.Plain (limit : Limit) (logger : Logger) : Prop where
  filter : logger.filter = .plain limit
  admits_ceiling : ∀ level, limit.admits level = true → logger.ceiling.admits level = true

variable {environment : Option String} {given : Option Limit}

/-- The first call is done and sets up its filter. -/
theorem Call.run_none {call : Call} {default : Limit} (henvironment : Gives environment given)
    (hcut : badCut? environment = none) (hcall : call.Defaults default) :
    ∃ logger, call.run environment none = (.done, some logger) ∧
      logger.Plain (given.getD default) := by
  refine ⟨{ filter := .plain (given.getD default) }, ?_, rfl, fun _ h => h⟩
  simp only [run, Filter.choose_of_gives henvironment hcut hcall.named]

/-- A call after it is refused and leaves the filter alone. -/
theorem Call.run_some {call : Call} {default limit : Limit} {logger : Logger}
    (henvironment : Gives environment given) (hcut : badCut? environment = none)
    (hcall : call.Defaults default) (hlogger : logger.Plain limit) :
    ∃ widened, call.run environment (some logger) = (.refused, some widened) ∧
      widened.Plain limit := by
  refine ⟨{ logger with
    ceiling := Limit.max logger.filter.ceiling (Filter.plain (given.getD default)).ceiling },
    ?_, hlogger.filter, fun level hlevel => ?_⟩
  · simp only [run, Filter.choose_of_gives henvironment hcut hcall.named]
  · rw [Limit.admits_max, hlogger.filter, Filter.ceiling_plain, hlevel, Bool.true_or]

/-- All calls on a log that is set up are refused and leave its filter alone. -/
theorem setUp_some {later : List Call} {limit : Limit} {logger : Logger}
    (henvironment : Gives environment given) (hcut : badCut? environment = none)
    (hlater : ∀ call ∈ later, ∃ default, Call.Defaults call default)
    (hlogger : logger.Plain limit) :
    ∃ widened, setUp environment (some logger) later =
      (later.map fun _ => .refused, some widened) ∧ widened.Plain limit := by
  induction later generalizing logger with
  | nil => exact ⟨logger, rfl, hlogger⟩
  | cons call later ih =>
    obtain ⟨default, hcall⟩ := hlater call (.head _)
    obtain ⟨next, hrun, hnext⟩ := Call.run_some henvironment hcut hcall hlogger
    obtain ⟨last, hrest, hlast⟩ := ih (fun call hmem => hlater call (.tail _ hmem)) hnext
    refine ⟨last, ?_, hlast⟩
    rw [setUp, hrun]
    simp only [hrest, List.map_cons]

/-- Of a sequence of calls the first is done and the others are refused. -/
theorem setUp_none {first : Call} {later : List Call} {default : Limit}
    (henvironment : Gives environment given) (hcut : badCut? environment = none)
    (hfirst : first.Defaults default)
    (hlater : ∀ call ∈ later, ∃ default, Call.Defaults call default) :
    ∃ logger, setUp environment none (first :: later) =
      (.done :: later.map fun _ => .refused, some logger) ∧
        logger.Plain (given.getD default) := by
  obtain ⟨next, hrun, hnext⟩ := Call.run_none henvironment hcut hfirst
  obtain ⟨last, hrest, hlast⟩ := setUp_some henvironment hcut hlater hnext
  refine ⟨last, ?_, hlast⟩
  rw [setUp, hrun]
  simp only [hrest]

/-- At a bad cut all calls fail, whatever was called before, and the log stays as it is. -/
theorem setUp_badCut {cut : Text.BadCut} (hcut : badCut? environment = some cut)
    (current : Option Logger) (calls : List Call) :
    setUp environment current calls = (calls.map fun _ => .failed cut, current) := by
  induction calls with
  | nil => rfl
  | cons call calls ih =>
    have hrun : call.run environment current = (.failed cut, current) := by
      simp only [Call.run, Filter.choose_of_badCut hcut]
    rw [setUp, hrun]
    simp only [ih, List.map_cons]

/-- The events that a limit lets through, in order. -/
def Limit.select (limit : Limit) (events : List Event) : List Event :=
  events.filter fun event => limit.admits (Record.ofEvent event).level

/-- What lines show of a span: nothing if the limit does not admit its level. -/
def Limit.spanText (limit : Limit) (span : Span) : String :=
  if limit.admits .info then (SpanOrigin.ofSpan span).text else ""

/-- A plain log opens a span just if its limit admits the span's level. -/
theorem Logger.Plain.opens_eq {limit : Limit} {logger : Logger} (h : logger.Plain limit)
    (span : SpanOrigin) : logger.opens span = limit.admits span.level := by
  rw [Logger.opens, h.filter, Filter.wants_plain, Bool.and_eq_right_iff_imp]
  exact h.admits_ceiling span.level

/-- What lines of a plain log show of a span depends on whether its limit admits the span. -/
theorem Logger.Plain.spanText_eq {limit : Limit} {logger : Logger} (h : logger.Plain limit)
    (span : Option Span) :
    ((((span.map SpanOrigin.ofSpan).filter logger.opens).map SpanOrigin.text).getD "") =
      (span.map limit.spanText).getD "" := by
  cases span with
  | none => rfl
  | some span =>
    have hopens : logger.opens (SpanOrigin.ofSpan span) = limit.admits .info :=
      h.opens_eq (SpanOrigin.ofSpan span)
    rw [Option.map_some, Option.map_some, Option.getD_some, Option.filter_some, hopens,
      Limit.spanText]
    split <;> rfl

/-- The lines of a plain log are those of the events that its limit lets through. -/
theorem Logger.Plain.lines_eq {limit : Limit} {logger : Logger} (h : logger.Plain limit)
    (trace : Trace) :
    logger.lines trace = (limit.select trace.events).map fun event =>
      (Record.ofEvent event).line ((trace.span.map limit.spanText).getD "") := by
  have hwithin (span : Option SpanOrigin) :
      (span.map logger.filter.limitWithin).getD .off = .off := by
    rw [h.filter]
    cases span with
    | none => rfl
    | some span => exact Filter.limitWithin_plain span
  have hpasses (record : Record) :
      ((logger.filter.recordLimit conversionTarget record.fields).admits record.level ||
        Limit.off.admits record.level) = limit.admits record.level := by
    rw [h.filter, Filter.recordLimit_plain]
    exact Bool.or_false _
  simp only [Logger.lines, hwithin, hpasses, h.spanText_eq, List.filter_map, List.map_map]
  rfl

/-- The first of some calls decides by a limit. -/
structure Decides (environment : Option String) (limit : Limit) (first : Call)
    (later : List Call) : Prop where
  /-- The first call succeeds and the later ones fail: an attempt answers so, and the other calls
  return or panic. -/
  reported : reports environment (first :: later) =
    (match first with | .attempt => .answered true | _ => .returned) ::
      later.map (fun | .attempt => .answered false | _ => .panicked alreadySet)
  /-- The filter in effect is that of the first call. -/
  filter_eq : filterAfter environment (first :: later) = some (.plain limit)
  /-- Of every conversion the lines are those of the events that the limit lets through, in
  order. -/
  lines_eq {α : Type} (run : Run α) : linesAfter environment (first :: later) run.trace =
    (limit.select run.events).map fun event => (Record.ofEvent event).line ""
  /-- Lines of the conversion of a plugin's schemas show the span just if the limit admits its
  level. -/
  schemaLines_eq (capabilities : Capabilities) (schemas : ProviderSchema) :
    linesAfter environment (first :: later) (schemas.trace capabilities) =
      (limit.select (schemas.convert capabilities).events).map fun event =>
        (Record.ofEvent event).line (limit.spanText ⟨capabilities.version⟩)

/-- The first of some calls decides if there is no bad cut. -/
theorem decides_of_gives {first : Call} {later : List Call} {default : Limit}
    (henvironment : Gives environment given) (hcut : badCut? environment = none)
    (hfirst : first.Defaults default)
    (hlater : ∀ call ∈ later, ∃ other, Call.Defaults call other) :
    Decides environment (given.getD default) first later := by
  obtain ⟨logger, hsetUp, hlogger⟩ := setUp_none henvironment hcut hfirst hlater
  have hlines (trace : Trace) :
      linesAfter environment (first :: later) trace = logger.lines trace := by
    rw [linesAfter, hsetUp]
  refine ⟨?_, ?_, fun run => ?_, fun capabilities schemas => ?_⟩
  · rw [reports, hsetUp, List.zipWith_cons_cons, List.zipWith_map_right, List.zipWith_self]
    congr 1
    · cases first <;> rfl
    · exact List.map_congr_left fun call _ => by cases call <;> rfl
  · rw [filterAfter, hsetUp, Option.map_some, hlogger.filter]
  · rw [hlines, hlogger.lines_eq]
    rfl
  · rw [hlines, hlogger.lines_eq]
    rfl

/-- At a bad cut the callers of all calls see a panic that tells of the cut. -/
theorem reports_badCut {cut : Text.BadCut} (hcut : badCut? environment = some cut)
    (calls : List Call) :
    reports environment calls = calls.map fun _ => .panicked cut.message := by
  rw [reports, setUp_badCut hcut, List.zipWith_map_right, List.zipWith_self]
  exact List.map_congr_left fun call _ => by cases call <;> rfl

/-- Where the first call decides there is no bad cut, or the call would have panicked. -/
theorem Decides.badCut?_eq_none {limit : Limit} {first : Call} {later : List Call}
    (h : Decides environment limit first later) : badCut? environment = none := by
  refine Option.eq_none_iff_forall_ne_some.mpr fun cut hcut => ?_
  have hreported := h.reported
  rw [reports_badCut hcut] at hreported
  cases first <;> cases hreported

/-- A bad cut is met only in a text that writes no filter and has a character of several bytes. -/
theorem Gives.of_badCut {cut : Text.BadCut} (henvironment : Gives environment given)
    (hcut : badCut? environment = some cut) :
    given = none ∧ ∃ text, environment = some text ∧ ¬Text.OneByte text.toList := by
  obtain ⟨text, rfl, hparse⟩ := badCut?_eq_some_iff.mp hcut
  refine ⟨?_, text, rfl, fun h => Filter.uncut_parse h cut hparse⟩
  cases henvironment with
  | invalid => rfl
  | level h =>
    rw [Filter.parse_of_named h] at hparse
    cases hparse

/-- Without a call there are no lines. Of some calls the first decides, by the limit that the
environment gives or else by its own default, just if the environment's text leads to no bad cut.
At a bad cut, which only a text with a character of several bytes can lead to that writes no
filter, every call panics, no filter is in effect and there are no lines. -/
theorem first_call_decides (henvironment : Gives environment given) :
    (∀ trace, linesAfter environment [] trace = []) ∧
    (∀ (first : Call) (default : Limit) (later : List Call), first.Defaults default →
      (∀ call ∈ later, ∃ other, Call.Defaults call other) →
        (Decides environment (given.getD default) first later ↔ badCut? environment = none)) ∧
    ∀ cut, badCut? environment = some cut →
      (given = none ∧ ∃ text, environment = some text ∧ ¬Text.OneByte text.toList) ∧
      ∀ calls, reports environment calls = (calls.map fun _ => .panicked cut.message) ∧
        filterAfter environment calls = none ∧
        ∀ trace, linesAfter environment calls trace = [] := by
  refine ⟨fun _ => rfl,
    fun first default later hfirst hlater => ⟨fun hdecides => ?_, fun hcut => ?_⟩,
    fun cut hcut => ⟨henvironment.of_badCut hcut, fun calls => ?_⟩⟩
  · exact hdecides.badCut?_eq_none
  · exact decides_of_gives henvironment hcut hfirst hlater
  · have hsetUp := setUp_badCut hcut none calls
    refine ⟨reports_badCut hcut calls, ?_, fun trace => ?_⟩
    · rw [filterAfter, hsetUp, Option.map_none]
    · rw [linesAfter, hsetUp]

/-- A text that writes no filter, and three calls of which the first defaults to warnings: the log
shows a failure without its span, and not the attributes that led to it. The same text behind a
space of two bytes, and two calls: both panic. -/
theorem first_call_decides_warn :
    reports (some "x=nope") [.withDefault "Warn", .attempt, .standard] =
      [.returned, .answered false, .panicked alreadySet] ∧
    filterAfter (some "x=nope") [.withDefault "Warn", .attempt, .standard] =
      some (.plain ⟨some .warn⟩) ∧
    linesAfter (some "x=nope") [.withDefault "Warn", .attempt, .standard]
      (ProviderSchema.trace .v5 { provider := (Schema.ofVersion 0).withAttribute "x" {} }) =
    ["ERROR hemmer_provider_schema::convert: provider schema conversion failed " ++
      "error=must have Type set path=Some(\"x\")"] ∧
    reports (some "\u00a0x=nope") [.attempt, .standard] =
      [.panicked (Text.BadCut.message ⟨.stop, 1, '\u00a0', 0⟩),
        .panicked (Text.BadCut.message ⟨.stop, 1, '\u00a0', 0⟩)] ∧
    filterAfter (some "\u00a0x=nope") [.attempt, .standard] = none := by
  have hinvalid : Filter.parse "x=nope" = .error .malformed := rfl
  have hcut : Filter.parse "\u00a0x=nope" = .error (.badCut ⟨.stop, 1, '\u00a0', 0⟩) := rfl
  have hlater : ∀ call ∈ [Call.attempt, .standard], ∃ other, Call.Defaults call other := by
    rintro call (_ | ⟨_, _ | ⟨_, ⟨⟩⟩⟩)
    · exact ⟨_, .attempt⟩
    · exact ⟨_, .standard⟩
  obtain ⟨hreports, hfilter, -, hlines⟩ := ((first_call_decides (.invalid hinvalid)).2.1
    (.withDefault "Warn") ⟨some .warn⟩ [.attempt, .standard] (.withDefault rfl) hlater).mpr rfl
  obtain ⟨hpanics, hnone, -⟩ := ((first_call_decides (.invalid hcut)).2.2 _
    (badCut?_eq_some_iff.mpr ⟨_, rfl, hcut⟩)).2 [.attempt, .standard]
  refine ⟨hreports, hfilter, ?_, hpanics, hnone⟩
  rw [hlines]
  rfl

/-- A text behind a space of two bytes writes no filter, and yet the first call does not decide: an
attempt to set up the log panics instead of answering, and nothing is set up. -/
theorem not_first_call_decides :
    Gives (some "\u00a0x=nope") none ∧ Call.attempt.Defaults ⟨some .info⟩ ∧
      ¬Decides (some "\u00a0x=nope") ⟨some .info⟩ .attempt [] ∧
      reports (some "\u00a0x=nope") [.attempt] = [.panicked
        ("end byte index 1 is not a char boundary; " ++
          "it is inside '\\u\x7ba0\x7d' (bytes 0..2 of string)")] ∧
      filterAfter (some "\u00a0x=nope") [.attempt] = none := by
  have hparse : Filter.parse "\u00a0x=nope" = .error (.badCut ⟨.stop, 1, '\u00a0', 0⟩) := rfl
  have hmessage : Text.BadCut.message ⟨.stop, 1, '\u00a0', 0⟩ =
      "end byte index 1 is not a char boundary; " ++
        "it is inside '\\u\x7ba0\x7d' (bytes 0..2 of string)" := by decide +kernel
  have hcut := badCut?_eq_some_iff.mpr ⟨_, rfl, hparse⟩
  refine ⟨.invalid hparse, .attempt, fun hdecides => ?_, ?_, rfl⟩
  · have hnone := hdecides.badCut?_eq_none
    rw [hcut] at hnone
    cases hnone
  · rw [reports_badCut hcut, List.map_singleton, hmessage]

end PluginSchema.Log
