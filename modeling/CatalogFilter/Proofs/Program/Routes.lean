import CatalogFilter.Proofs.CommandLine.Arguments
import CatalogFilter.Proofs.Disk.Changes
import CatalogFilter.Proofs.Program.Actions
import CatalogFilter.Proofs.Request.Body

/-!
# Rules by different routes

Rules reach the program as arguments, in a file, on the standard input, or inside a request in JSON.
What a run shows depends on the rules and not on the way they came.

* `Program.Outcome.shown`, `Program.Outcome.verdict`: what a run shows, the log apart.
* `CommandLine.Source.Holds`: a source has the text.
* `Program.result_readRules`: what is read is the text that the source has.
* `Program.answer`: what is printed by all routes.
* `Program.exists_shown_run_eq`: all routes lead to the same.
-/

namespace CatalogFilter

theorem Disk.readText_empty (d : Disk) : d.readText "" = .error .notFound :=
  rfl

/-- The source has the text: it is the text line by line, or the text of the file or of the standard
input. -/
def CommandLine.Source.Holds (d : Disk) (input : ByteArray) (text : String) : Source → Prop
  | .lines ls => ls = (text.toList.splitOn '\n').map String.ofList
  | .file path => d.readText path = .ok text
  | .input => input = text.toUTF8

/-- A request for a text is answered with what the text is compiled to. -/
theorem Request.evaluate_ofText (text : String) (p : Pagination) :
    (Request.ofText text p).evaluate = (Compiled.ofText text).map fun c => ⟨c, p⟩ := by
  have hparse : RuleText.parseValue (Request.ofText text p).rules = RuleText.parse text := rfl
  rw [evaluate, hparse, Compiled.ofText]
  cases RuleText.parse text with
  | error e => rfl
  | ok conditions =>
    cases hcompiled : Compiled.ofConditions conditions <;>
      simp [hcompiled, ofText, bind, Except.bind, Except.map, pure, Except.pure]

namespace Program

open CommandLine
open CatalogFilter.Program.Action

/-! ### Reading rules -/

theorem result_readInput {w : Surroundings} {text : String} (h : w.input = text.toUTF8)
    (what : String) (d : Disk) : (readInput w what d).result = .ok text := by
  rw [readInput, (readsOnly_report _).result_bind, h, Disk.decodeText_toUTF8]
  rfl

/-- The rules that are read are the text that the source has. -/
theorem result_readRules {w : Surroundings} {d : Disk} {text : String} {source : Source}
    (h : source.Holds d w.input text) :
    (readRules w source.rules source.path? d).result = .ok text := by
  cases source with
  | lines ls =>
    obtain rfl : ls = _ := h
    have hne : ((text.toList.splitOn '\n').map String.ofList).isEmpty = false := by
      simp [List.splitOn_ne_nil]
    have hjoin : "\n".intercalate ((text.toList.splitOn '\n').map String.ofList) = text := by
      rw [← String.toList_inj, String.toList_intercalate, List.map_map]
      simp [Function.comp_def, List.intercalate_splitOn]
    simp only [readRules, Source.rules, Source.path?, hne, hjoin]
    rfl
  | file path =>
    have hread : d.readText path = .ok text := h
    have hfile : (readFile path d).result = .ok text := by
      rw [readFile, (readsOnly_inspect _).result_bind, inspect_apply, hread]
      rfl
    rw [Source.path?, readRules, (readsOnly_report _).result_bind]
    exact hfile
  | input =>
    exact result_readInput h "rules" d

/-! ### Answers of commands -/

/-- A result that is there already, reported and put into words. -/
theorem printed_present {ε α : Type} (events : List Log.Event) (name : ε → Failure)
    (outcome : Except ε α) (words : α → String) (d : Disk) :
    printed (do report events; let a ← ofExcept name outcome; print (words a)) d =
      (outcome.mapError name).map words := by
  rw [(readsOnly_report _).printed_bind, report_apply]
  refine ((readsOnly_ofExcept _ _).printed_bind _ d).trans ?_
  cases outcome <;> rfl

theorem printed_evaluate (ctx : Context) (r : Request) (d : Disk) :
    (evaluate ctx r).printed d = (r.evaluate.mapError Failure.rules).map fun e =>
      ctx.render e.toJson (Report.evaluation ctx.colors e) :=
  printed_present _ _ _ _ d

theorem printed_compile {w : Surroundings} {d : Disk} {text : String} {source : Source}
    (h : source.Holds d w.input text) (ctx : Context) (page limit : Nat) :
    (compile w ctx source.rules source.path? (some page) (some limit)).printed d =
      (evaluate ctx (.ofText text ⟨page, limit⟩)).printed d := by
  rw [compile, (readsOnly_readRules w _ _).printed_bind, result_readRules h]
  rfl

theorem printed_request {w : Surroundings} {body : String} (h : w.input = body.toUTF8) {r : Request}
    (hr : Request.ofJsonText body = .ok r) (ctx : Context) (d : Disk) :
    (request w ctx none).printed d = (evaluate ctx r).printed d := by
  rw [request, readBody, (readsOnly_readInput w _).printed_bind, result_readInput h]
  refine ((readsOnly_ofExcept _ _).printed_bind _ d).trans ?_
  rw [hr]
  rfl

/-- Rules are accepted by a check just if they are answered. -/
theorem printed_validate {w : Surroundings} {d : Disk} {text : String} {source : Source}
    (h : source.Holds d w.input text) (ctx : Context) (p : Pagination) :
    ((validate w ctx source.rules source.path?).printed d).map (fun _ => ()) =
      ((evaluate ctx (.ofText text p)).printed d).map fun _ => () := by
  rw [validate, (readsOnly_readRules w _ _).printed_bind, result_readRules h, printed_evaluate,
    Request.evaluate_ofText]
  refine (congrArg _ (printed_present _ _ _ _ d)).trans ?_
  cases Compiled.ofText text <;> rfl

theorem result_loadSettings (w : Surroundings) (d : Disk) :
    (loadSettings w d).result =
      ((Settings.location w.env).mapError Failure.settings).bind fun path =>
        (Settings.load d path).mapError Failure.settings :=
  (readsOnly_ofExcept _ _).result_bind _ d

/-- What is printed by a run that loads the settings and answers a request. -/
def answer (env : Environment) (switches : Switches) (r : Request) (d : Disk) :
    Except Failure String :=
  (loadSettings ⟨env, .empty⟩ d).result.bind fun s =>
    (evaluate ⟨switches, usesColors ⟨env, .empty⟩ switches s, s⟩ r).printed d

/-- The settings do not depend on the standard input. -/
theorem printed_execute (env : Environment) (input : ByteArray) (inv : Invocation) (d : Disk) :
    (execute ⟨env, input⟩ inv).printed d = (loadSettings ⟨env, .empty⟩ d).result.bind fun s =>
      (perform ⟨env, input⟩ ⟨inv.switches, usesColors ⟨env, .empty⟩ inv.switches s, s⟩
        inv.command).printed d :=
  (readsOnly_loadSettings ⟨env, input⟩).printed_bind _ d

theorem printed_execute_compile {env : Environment} {input : ByteArray} {d : Disk} {text : String}
    {source : Source} (h : source.Holds d input text) (switches : Switches) (page limit : Nat) :
    (execute ⟨env, input⟩ ⟨switches, some (.compile source.rules source.path? (some page)
      (some limit))⟩).printed d = answer env switches (.ofText text ⟨page, limit⟩) d := by
  rw [printed_execute, answer]
  congr 1
  funext s
  exact printed_compile h _ page limit

theorem printed_execute_request {env : Environment} {body : String} {r : Request}
    (hr : Request.ofJsonText body = .ok r) (switches : Switches) (d : Disk) :
    (execute ⟨env, body.toUTF8⟩ ⟨switches, some (.request none)⟩).printed d =
      answer env switches r d := by
  rw [printed_execute, answer]
  congr 1
  funext s
  exact printed_request rfl hr _ d

theorem printed_execute_validate {env : Environment} {input : ByteArray} {d : Disk} {text : String}
    {source : Source} (h : source.Holds d input text) (switches : Switches) (p : Pagination) :
    ((execute ⟨env, input⟩ ⟨switches, some (.validate source.rules source.path?)⟩).printed d).map
      (fun _ => ()) = (answer env switches (.ofText text p) d).map fun _ => () := by
  rw [printed_execute, answer]
  cases (loadSettings ⟨env, .empty⟩ d).result with
  | error f => rfl
  | ok s => exact printed_validate h _ p

/-- The request is answered just if the settings can be loaded and the rules are accepted. -/
theorem exists_answer_eq_ok_iff (env : Environment) (switches : Switches) (text : String)
    (p : Pagination) (d : Disk) :
    (∃ output, answer env switches (.ofText text p) d = .ok output) ↔
      (∃ path s, Settings.location env = .ok path ∧ Settings.load d path = .ok s) ∧
        ∃ c, Compiled.ofText text = .ok c := by
  simp only [answer, result_loadSettings, printed_evaluate, Request.evaluate_ofText]
  cases hpath : Settings.location env with
  | error e => simp [Except.mapError, Except.bind]
  | ok path =>
    cases hload : Settings.load d path with
    | error e => simp [Except.mapError, Except.bind, hload]
    | ok s => cases Compiled.ofText text <;> simp [Except.mapError, Except.bind, Except.map, hload]

/-! ### What a run shows -/

/-- What a run shows, the log apart: the exit code, the text that is printed, and the text on the
error stream. -/
def Outcome.shown (o : Outcome) : Nat × String × String :=
  (o.exit, o.output, o.errors)

/-- What a run shows besides the text that is printed. -/
def Outcome.verdict (o : Outcome) : Nat × String :=
  (o.exit, o.errors)

theorem verdict_of_shown {o o' : Outcome} (h : o.shown = o'.shown) : o.verdict = o'.verdict := by
  simp only [Outcome.shown, Prod.mk.injEq] at h
  rw [Outcome.verdict, Outcome.verdict, h.1, h.2.2]

/-- The outcome of a run that prints the given text or fails, as far as it is shown. -/
def outcomeOf (env : Environment) (d : Disk) (json : Bool) : Except Failure String → Outcome
  | .ok output => ⟨output, .done, d, [], Log.complaints (logDirectives ⟨env, .empty⟩)⟩
  | .error f => ⟨"", .failed f json, d, [], Log.complaints (logDirectives ⟨env, .empty⟩)⟩

/-- An invocation that answers shows its answer, or else why there is none. -/
theorem shown_conclude {env : Environment} {input : ByteArray} {inv : Invocation}
    (h : (execute ⟨env, input⟩ inv).Answers) (d : Disk) :
    (conclude ⟨env, input⟩ d inv).shown =
      (outcomeOf env d inv.switches.json ((execute ⟨env, input⟩ inv).printed d)).shown := by
  rw [conclude, printed]
  cases hresult : (execute ⟨env, input⟩ inv d).result with
  | ok _ => rfl
  | error f => rw [h.output_eq hresult]; rfl

/-- The exit code and the errors do not depend on what is printed. -/
theorem verdict_outcomeOf {env : Environment} {d : Disk} {json : Bool}
    {result result' : Except Failure String}
    (h : result.map (fun _ => ()) = result'.map fun _ => ()) :
    (outcomeOf env d json result).verdict = (outcomeOf env d json result').verdict := by
  cases result <;> cases result' <;> cases h <;> rfl

theorem exit_outcomeOf_eq_zero_iff {env : Environment} {d : Disk} {json : Bool}
    {result : Except Failure String} :
    (outcomeOf env d json result).exit = 0 ↔ ∃ output, result = .ok output := by
  cases result with
  | ok output => simp [outcomeOf, Outcome.exit, Ending.exit]
  | error f => cases f <;> simp [outcomeOf, Outcome.exit, Ending.exit, Failure.exit]

theorem shown_run {env : Environment} {input : ByteArray} {d : Disk} {args : List String}
    {inv : Invocation} (h : CommandLine.parse args = .ok inv)
    (hset : ∀ key value, inv.command ≠ some (.config (some (.set key value)))) :
    (run ⟨env, input⟩ d args).shown =
      (outcomeOf env d inv.switches.json ((execute ⟨env, input⟩ inv).printed d)).shown := by
  rw [run, h]
  exact shown_conclude (answers_execute _ hset) d

/-! ### All routes -/

theorem path_ne_empty {source : Source} {d : Disk} {input : ByteArray} {text : String}
    (h : source.Holds d input text) : ∀ path ∈ source.path?, path ≠ "" := by
  rintro path hpath rfl
  cases source with
  | file path =>
    obtain rfl : path = "" := by simpa [Source.path?] using hpath
    have hread : d.readText "" = .ok text := h
    rw [Disk.readText_empty] at hread
    cases hread
  | _ => cases hpath

/-- **The route of the rules does not matter.** The rules of a text are compiled with the same exit
code, the same text and the same errors whether they come as arguments, from a file or from the
standard input, or inside a request in JSON; and if they are only checked, by any of the first three
routes, the exit code and the errors are the same too. All these runs succeed just if the settings
can be loaded and the rules are accepted. -/
theorem exists_shown_run_eq (env : Environment) (d : Disk) (outer inner : Bool) (text : String)
    {page limit : Nat} (hpage : 1 ≤ page ∧ page < 2 ^ 32) (hlimit : 1 ≤ limit ∧ limit < 2 ^ 32) :
    ∃ o : Outcome,
      (∀ (source : Source) (input : ByteArray), source.Holds d input text →
        (run ⟨env, input⟩ d (arguments outer inner "compile"
          (pageOptions page limit ++ source.args))).shown = o.shown ∧
        (run ⟨env, input⟩ d (arguments outer inner "validate" source.args)).verdict = o.verdict) ∧
      (∀ (ms : List (String × Json)) (body : String),
        ms.Perm [("rules", .string text), ("page", .integer page), ("limit", .integer limit)] →
        Json.SpellsText (.object ms) body →
        (run ⟨env, body.toUTF8⟩ d (arguments outer inner "request" [])).shown = o.shown) ∧
      (o.exit = 0 ↔ (∃ path s, Settings.location env = .ok path ∧ Settings.load d path = .ok s) ∧
        ∃ c, Compiled.ofText text = .ok c) := by
  have hpage' : 1 ≤ page ∧ page ≤ Numeral.maxWord := ⟨hpage.1, Nat.le_of_lt_succ hpage.2⟩
  have hlimit' : 1 ≤ limit ∧ limit ≤ Numeral.maxWord := ⟨hlimit.1, Nat.le_of_lt_succ hlimit.2⟩
  -- All routes come down to the answer to one request.
  refine ⟨outcomeOf env d (outer || inner)
    (answer env { json := outer || inner } (.ofText text ⟨page, limit⟩) d), ?_, ?_, ?_⟩
  · intro source input hsource
    have hpath := path_ne_empty hsource
    constructor
    · rw [shown_run (parse_arguments_compile outer inner hpage' hlimit' source hpath) (by simp),
        printed_execute_compile hsource]
    · rw [verdict_of_shown
        (shown_run (parse_arguments_validate outer inner source hpath) (by simp))]
      exact verdict_outcomeOf (printed_execute_validate hsource _ ⟨page, limit⟩)
  · intro ms body hms hbody
    have hrequest := Request.ofJsonText_of_perm (p := ⟨page, limit⟩) hpage.2 hlimit.2 hms hbody
    rw [shown_run (parse_arguments_request outer inner) (by simp),
      printed_execute_request hrequest]
  · rw [exit_outcomeOf_eq_zero_iff, exists_answer_eq_ok_iff]

theorem exists_shown_run_eq_lines :
    ∃ (d : Disk) (o : Outcome),
      (run ⟨⟨fun _ => none, some "/"⟩, .empty⟩ d
        ["--json", "compile", "--page=2", "--limit=30", "--", "price > 1", ""]).shown = o.shown ∧
      (run ⟨⟨fun _ => none, some "/"⟩, .empty⟩ d
        ["--json", "compile", "--page=2", "--limit=30", "--file=rules"]).shown = o.shown ∧
      (run ⟨⟨fun _ => none, some "/"⟩,
        "\x7b\"limit\":30,\"page\":2,\"rules\":\"price > 1\\n\"\x7d".toUTF8⟩ d
        ["--json", "request"]).shown = o.shown := by
  obtain ⟨d, hread⟩ : ∃ d : Disk, d.readText "rules" = .ok "price > 1\n" := by
    refine ⟨⟨fun p => if p = ["rules"] then some (.file "price > 1\n".toUTF8) else none, []⟩, ?_⟩
    exact Disk.decodeText_toUTF8 "price > 1\n"
  have hlines : ["price > 1", ""] = ("price > 1\n".toList.splitOn '\n').map String.ofList := by
    decide
  have hfits : (Json.object [("limit", .integer 30), ("page", .integer 2),
      ("rules", .string "price > 1\n")]).Fits 1 := by
    simp [Json.Fits, Json.FitsMembers, Json.maxNegative, Json.maxSignificand]
  have hcompact : (Json.object [("limit", .integer 30), ("page", .integer 2),
      ("rules", .string "price > 1\n")]).compact =
        "\x7b\"limit\":30,\"page\":2,\"rules\":\"price > 1\\n\"\x7d" := by
    decide +kernel
  have hbody := Json.spellsText_compact hfits
  rw [hcompact] at hbody
  have hpage : 1 ≤ 2 ∧ 2 < 2 ^ 32 := by decide
  have hlimit : 1 ≤ 30 ∧ 30 < 2 ^ 32 := by decide
  obtain ⟨o, hrules, hrequest, -⟩ := exists_shown_run_eq ⟨fun _ => none, some "/"⟩ d true false
    "price > 1\n" hpage hlimit
  exact ⟨d, o, (hrules (.lines _) .empty hlines).1, (hrules (.file "rules") .empty hread).1,
    hrequest _ _ (List.reverse_perm _) hbody⟩

end Program

end CatalogFilter
