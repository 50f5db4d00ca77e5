import Boilerplate.Proofs.Config
import Boilerplate.Session

/-!
# What a session remembers

A session changes its host, its probes, its reports and its style one by one, and remembers the
latest configuration that was evaluated. Whatever happens after that evaluation, the configuration
that is remembered is the one of that moment: it is what questions are answered from and what
headers are written from, until another evaluation succeeds. A step that fails leaves no trace,
except that a host is set even if it is blank.

## Main definitions

* `Session.reached` — the state that steps lead to
* `Session.evaluated` — what an evaluation gives in a state
* `Session.Evaluates` — whether steps evaluate a configuration on their way
* `Session.Outcome` — all that a step can do
* `Session.LastEvaluated` — the state in which the last evaluation that succeeded was carried out
* `Session.Remembers` — what a state keeps of an evaluation in another one

## Main results

* `outcome_step` — a step does nothing else
* `config_mem_answers_iff` — the configurations among the answers are those that are evaluated
* `latest_eq_or_lastEvaluated` — where the configuration that is remembered comes from
* `remembers_last_evaluation` — what sessions answer from it, and that failures leave no trace
-/

namespace Boilerplate.Session

variable {s s' moment : Session} {x : Step} {steps : List Step} {config : Config} {cause : Fault}

/-- The state that steps lead to from the start. -/
def reached (steps : List Step) : Session := (run {} steps).1

/-- What an evaluation gives in a state. -/
def evaluated (s : Session) : Except Config.Fault Config :=
  Config.evaluate s.host s.probes s.available

/-! ### Steps -/

/-- All that a step can do, as far as failures and the configuration that is remembered go: it
evaluates with success, it fails and changes nothing, it sets a blank host, or it succeeds in
something else. -/
inductive Outcome (s : Session) : Step → Session × Answer → Prop
  | evaluated {config : Config} (h : s.evaluated = .ok config) :
    Outcome s .evaluate ({ s with latest := config }, .config config)
  | failed {x : Step} {cause : Fault} : Outcome s x (s, .fault cause)
  | blankHost {text : String} {cause : Fault} :
    Outcome s (.setHost text) ({ s with host := text }, .fault cause)
  | other {x : Step} {s' : Session} {answer : Answer} (hlatest : s'.latest = s.latest)
    (hconfig : ∀ config, answer ≠ .config config) (hfault : ∀ cause, answer ≠ .fault cause) :
    Outcome s x (s', answer)

theorem outcome_step (s : Session) (x : Step) : Outcome s x (s.step x) := by
  cases x with
  | setHost text =>
    cases hhost : Host.ofText? text with
    | some host => simpa [step, hhost] using .other rfl (by simp) (by simp)
    | none => simpa [step, hhost] using .blankHost
  | addDocument text =>
    cases hparse : Probe.parseDocument text with
    | ok probes => simpa [step, hparse, addProbes] using .other rfl (by simp) (by simp)
    | error cause => simpa [step, hparse] using .failed
  | setStyle text =>
    cases hparse : Style.parse? text with
    | some style => simpa [step, hparse] using .other rfl (by simp) (by simp)
    | none => simpa [step, hparse] using .failed
  | evaluate =>
    cases heval : Config.evaluate s.host s.probes s.available with
    | ok config => simpa [step, heval] using .evaluated heval
    | error cause => simpa [step, heval] using .failed
  | header =>
    cases hhost : Host.ofText? s.host with
    | some host => simpa [step, hhost] using .other rfl (by simp) (by simp)
    | none => simpa [step, hhost] using .failed
  | addStandard => exact .other rfl (by simp) (by simp)
  | addProbe probe => exact .other rfl (by simp) (by simp)
  | dropProbe => exact .other rfl (by simp) (by simp)
  | report function available => exact .other rfl (by simp) (by simp)
  | askAvailable function => exact .other rfl (by simp) (by simp)
  | askSymbol symbol => exact .other rfl (by simp) (by simp)

/-- An evaluation that succeeds is answered with its configuration, which is then remembered. -/
theorem step_evaluate (h : s.evaluated = .ok config) :
    s.step .evaluate = ({ s with latest := config }, .config config) := by
  rw [evaluated] at h
  rw [step, h]

/-- Only an evaluation that succeeds is answered with a configuration. -/
theorem answer_eq_config_iff :
    (s.step x).2 = .config config ↔ x = .evaluate ∧ s.evaluated = .ok config := by
  constructor
  · intro h
    have houtcome := outcome_step s x
    generalize s.step x = result at h houtcome
    cases houtcome with
    | evaluated heval => cases h; exact ⟨rfl, heval⟩
    | failed | blankHost => cases h
    | other _ hconfig => exact absurd h (hconfig config)
  · rintro ⟨rfl, heval⟩
    rw [step_evaluate heval]

theorem latest_step_of_answer (h : ∀ config, (s.step x).2 ≠ .config config) :
    (s.step x).1.latest = s.latest := by
  have houtcome := outcome_step s x
  generalize s.step x = result at h houtcome ⊢
  cases houtcome with
  | evaluated => exact absurd rfl (h _)
  | failed | blankHost => rfl
  | other hlatest => exact hlatest

/-- A step that fails changes nothing, except that a host is set even if it is blank. -/
theorem step_of_fault (h : (s.step x).2 = .fault cause) :
    (s.step x).1 = s ∨ ∃ text, x = .setHost text ∧ (s.step x).1 = { s with host := text } := by
  have houtcome := outcome_step s x
  generalize s.step x = result at h houtcome ⊢
  cases houtcome with
  | evaluated => cases h
  | failed => exact .inl rfl
  | @blankHost text => exact .inr ⟨text, rfl, rfl⟩
  | other _ _ hfault => exact absurd h (hfault cause)

/-! ### Runs -/

theorem run_append (s : Session) (front back : List Step) :
    s.run (front ++ back) =
      (((s.run front).1.run back).1, (s.run front).2 ++ ((s.run front).1.run back).2) := by
  induction front generalizing s with
  | nil => rfl
  | cons x front ih => simp [run, ih]

/-- The answers of a run that goes on by one step. -/
theorem mem_answers_concat {answer : Answer} :
    answer ∈ (s.run (steps ++ [x])).2 ↔
      answer ∈ (s.run steps).2 ∨ answer = ((s.run steps).1.step x).2 := by
  rw [run_append, List.mem_append]
  exact or_congr_right List.mem_singleton

theorem reached_append (front back : List Step) :
    reached (front ++ back) = ((reached front).run back).1 := by
  rw [reached, run_append, reached]

/-- Whether one of the steps from a state on is an evaluation that gives a configuration. -/
def Evaluates (s : Session) (steps : List Step) (config : Config) : Prop :=
  ∃ front back, steps = front ++ .evaluate :: back ∧ (s.run front).1.evaluated = .ok config

theorem not_evaluates_nil : ¬ s.Evaluates [] config := by
  rintro ⟨front, back, h, -⟩
  exact List.append_ne_nil_of_right_ne_nil front (List.cons_ne_nil _ back) h.symm

theorem evaluates_cons_iff :
    s.Evaluates (x :: steps) config ↔
      (x = .evaluate ∧ s.evaluated = .ok config) ∨ (s.step x).1.Evaluates steps config := by
  constructor
  · rintro ⟨_ | ⟨y, front⟩, back, hsteps, heval⟩
    · exact .inl ⟨(List.cons.inj hsteps).1, heval⟩
    · obtain ⟨rfl, hrest⟩ := List.cons.inj hsteps
      exact .inr ⟨front, back, hrest, heval⟩
  · rintro (⟨rfl, heval⟩ | ⟨front, back, rfl, heval⟩)
    · exact ⟨[], steps, rfl, heval⟩
    · exact ⟨x :: front, back, rfl, heval⟩

/-- The configurations among the answers of a run are those that it evaluates. -/
theorem config_mem_answers_iff :
    .config config ∈ (s.run steps).2 ↔ s.Evaluates steps config := by
  induction steps generalizing s with
  | nil => exact iff_of_false List.not_mem_nil not_evaluates_nil
  | cons x steps ih =>
    have hanswers : (s.run (x :: steps)).2 = (s.step x).2 :: ((s.step x).1.run steps).2 := rfl
    rw [hanswers, List.mem_cons, ih, eq_comm, answer_eq_config_iff, evaluates_cons_iff]

theorem evaluates_concat_iff :
    s.Evaluates (steps ++ [x]) config ↔
      s.Evaluates steps config ∨ ((s.run steps).1.step x).2 = .config config := by
  rw [← config_mem_answers_iff, mem_answers_concat, config_mem_answers_iff, eq_comm]

/-- Whether a state is the one in which the last evaluation that succeeded was carried out: the
steps after it do not evaluate any configuration. -/
def LastEvaluated (steps : List Step) (moment : Session) : Prop :=
  ∃ earlier later, steps = earlier ++ .evaluate :: later ∧ moment = reached earlier ∧
    (∃ config, moment.evaluated = .ok config) ∧
      ∀ config, ¬ (moment.step .evaluate).1.Evaluates later config

theorem lastEvaluated_concat (h : (reached steps).evaluated = .ok config) :
    LastEvaluated (steps ++ [.evaluate]) (reached steps) :=
  ⟨steps, [], rfl, rfl, ⟨config, h⟩, fun _ => not_evaluates_nil⟩

/-- Steps that are not answered with a configuration do not count. -/
theorem LastEvaluated.concat (h : LastEvaluated steps moment)
    (hx : ∀ config, ((reached steps).step x).2 ≠ .config config) :
    LastEvaluated (steps ++ [x]) moment := by
  obtain ⟨earlier, later, rfl, rfl, hsuccess, hlater⟩ := h
  refine ⟨earlier, later ++ [x], by simp, rfl, hsuccess, fun config heval => ?_⟩
  rcases evaluates_concat_iff.mp heval with heval | hanswer
  · exact hlater config heval
  · refine hx config ?_
    rw [reached_append]
    exact hanswer

/-- Either no configuration was evaluated, and none is remembered, or the configuration that is
remembered is that of the last evaluation that succeeded. -/
theorem latest_eq_or_lastEvaluated (steps : List Step) :
    ((∀ config, ¬ Evaluates {} steps config) ∧ (reached steps).latest = {}) ∨
      ∃ moment, LastEvaluated steps moment ∧ moment.evaluated = .ok (reached steps).latest := by
  induction steps using List.reverseRecOn with
  | nil => exact .inl ⟨fun _ => not_evaluates_nil, rfl⟩
  | append_singleton steps x ih =>
    have hreached : reached (steps ++ [x]) = ((reached steps).step x).1 := reached_append steps [x]
    by_cases hanswer : ∃ config, ((reached steps).step x).2 = .config config
    · -- This step is the last evaluation that succeeded.
      obtain ⟨config, hanswer⟩ := hanswer
      obtain ⟨rfl, heval⟩ := answer_eq_config_iff.mp hanswer
      refine .inr ⟨reached steps, lastEvaluated_concat heval, ?_⟩
      rw [hreached, step_evaluate heval, heval]
    · -- This step leaves what is remembered as it was, and where that came from.
      push Not at hanswer
      rw [hreached, latest_step_of_answer hanswer]
      refine ih.imp (fun ⟨hnone, hempty⟩ => ⟨fun config heval => ?_, hempty⟩)
        (fun ⟨moment, hlast, heval⟩ => ⟨moment, hlast.concat hanswer, heval⟩)
      rcases evaluates_concat_iff.mp heval with heval | heval
      · exact hnone config heval
      · exact hanswer config heval

/-! ### What is remembered -/

/-- What a state keeps of an evaluation in another one: its configuration, whatever has changed in
between. Questions are answered from it, and headers are written from it, with the host and in the
style of the state itself. -/
structure Remembers (s moment : Session) : Prop where
  evaluated : moment.evaluated = .ok s.latest
  /-- There is one symbol for each probe, in their order. -/
  symbols : s.latest.symbols = moment.probes.map Probe.symbol
  nodup : s.latest.symbols.Nodup
  faultless : ∀ symbol ∈ s.latest.symbols, Identifier.fault? symbol = none
  /-- The symbol of a probe is answered with the answer to its question at that moment. -/
  asked : ∀ probe ∈ moment.probes, s.step (.askSymbol probe.symbol) =
    (s, .value (some (decide (probe.check.Holds moment.host moment.available))))
  unknown : ∀ symbol, symbol ∉ moment.probes.map Probe.symbol →
    s.step (.askSymbol symbol) = (s, .value none)
  /-- A header has one line for each probe, in their order, and nothing else but the frame. -/
  header : ∀ host : Host, host.text = s.host → s.step .header =
    (s, .text (Text.unlines
      (Frame.banner ("host " ++ s.host) (s.latest.digest host) s.style ++
        Frame.guarded (Frame.includeGuard Config.headerName s.style)
          (Config.hostLine host :: moment.probes.map fun probe => Config.symbolLine s.style
            (probe.symbol, decide (probe.check.Holds moment.host moment.available))))))

theorem remembers_of_evaluated (h : moment.evaluated = .ok s.latest) : Remembers s moment := by
  have hresult : s.latest.IsResult := ⟨_, _, _, h⟩
  obtain ⟨-, -, hnodup, -, hentries⟩ := Config.evaluate_eq_ok_iff.mp h
  refine ⟨h, ?_, hresult.nodup_symbols, fun _ => hresult.fault?_eq_none, ?_, ?_, ?_⟩
  · rw [Config.symbols, hentries, List.map_map]
    rfl
  · intro probe hprobe
    rw [step, Config.get?_symbol hnodup hentries hprobe]
  · intro symbol hsymbol
    rw [step, Config.get?_eq_none hentries hsymbol]
  · intro host hhost
    have hofText : Host.ofText? s.host = some host := Host.ofText?_eq_some_iff.mpr hhost
    simp only [step, hofText, Config.header, Config.headerLines, hentries, List.map_map, hhost]
    rfl

/-- In every state that steps lead to, either no configuration was evaluated and none is remembered,
or what is remembered is that of the last evaluation that succeeded, with the symbols of the probes
of that moment. Questions and headers go by it even if the host, the probes, the reports or the
style have changed since. The configurations among the answers are those that are evaluated. A step
that fails changes nothing, except that a host is set even if it is blank. -/
theorem remembers_last_evaluation (steps : List Step) :
    (((∀ config, ¬ Evaluates {} steps config) ∧ (reached steps).latest = {}) ∨
        ∃ moment, LastEvaluated steps moment ∧ Remembers (reached steps) moment) ∧
      (∀ s config, .config config ∈ (run s steps).2 ↔ s.Evaluates steps config) ∧
      ∀ x cause, ((reached steps).step x).2 = .fault cause →
        ((reached steps).step x).1 = reached steps ∨
          ∃ text, x = .setHost text ∧
            ((reached steps).step x).1 = { reached steps with host := text } := by
  refine ⟨?_, fun s config => config_mem_answers_iff, fun x cause => step_of_fault⟩
  refine (latest_eq_or_lastEvaluated steps).imp_right fun ⟨moment, hlast, heval⟩ => ?_
  exact ⟨moment, hlast, remembers_of_evaluated heval⟩

/-- A symbol is answered as it was evaluated, even if its probe is gone and the host is blank by
now, so that another evaluation fails. -/
example : (run {} [.setHost "a", .addProbe ⟨"FOO", .host "a"⟩, .evaluate, .dropProbe, .setHost " ",
    .evaluate, .askSymbol "FOO"]).2.getLast? = some (.value (some true)) := by
  decide

end Boilerplate.Session
