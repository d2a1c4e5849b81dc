import IncidentDigest.CommandLine.Arguments
import Mathlib

/-!
# Variables that stand in for options

What a command line asks for is settled by its words alone; the environment only stands in for
options that are not given.  So a command line is understood in an environment exactly if it is
understood without one, and the arguments differ in that a variable fills the place of an option
that is missing.
-/

namespace IncidentDigest.CommandLine

/-! ## 1. Values with and without an environment -/

/-- The value of a variable, if it is set. -/
def valueOf? (environment : List (String × String)) (name : String) : Option String :=
  (environment.find? fun e => e.1 == name).map (·.2)

namespace Values

/-- The same words in an environment without variables. -/
def alone (v : Values) : Values := { v with environment := [] }

/-- The variable that stands in for a name. -/
def variableOf? (v : Values) (name : String) : Option String :=
  (v.parameters.find? fun p => p.name == name).bind (·.envName)

/-- **A variable counts only where the option is not given.** -/
theorem text?_eq (v : Values) (name : String) :
    v.text? name =
      (v.alone.text? name).or ((v.variableOf? name).bind (valueOf? v.environment)) := by
  have hstandIn : ∀ p : Parameter, p.standIn? [] = none := by
    intro p
    unfold Parameter.standIn?
    cases p.envName <;> rfl
  unfold text? alone variableOf?
  dsimp only
  cases v.parameters.find? fun p => p.name == name with
  | none => simp
  | some p =>
      change _ = ((_ : Option String).or (p.standIn? [])).or (p.standIn? v.environment)
      rw [hstandIn, Option.or_none]
      rfl

end Values

/-! ## 2. Arguments with variables -/

/-- The arguments of a command, with variables in the places of options that are missing. -/
def Command.withVariables (environment : List (String × String)) : Command → Command
  | .analyse c => .analyse { c with scenario := c.scenario.or (valueOf? environment "SCENARIO_ID") }
  | .post c => .post { c with
      channel := c.channel.or (valueOf? environment "SLACK_CHANNEL_ID")
      token := c.token.or (valueOf? environment "SLACK_BOT_TOKEN") }
  | c => c

def Arguments.withVariables (a : Arguments) (environment : List (String × String)) : Arguments :=
  { a with
    baseUrl := a.baseUrl.or (valueOf? environment "HACK_BASE")
    userAgent := a.userAgent.or (valueOf? environment "HACK_UA")
    authorization := a.authorization.or (valueOf? environment "AUTH")
    command := a.command.withVariables environment }

/-- **Each variable has its place**, whatever the command. -/
theorem Values.arguments_eq (v : Values) {name : String} {options places : List Parameter}
    (hcommand : (name, options, places) ∈ commands)
    (hparameters : v.parameters = (innerLevel options places).options ++ places) :
    v.arguments name = (v.alone.arguments name).withVariables v.environment := by
  have htext := v.text?_eq
  unfold Values.variableOf? at htext
  rw [hparameters] at htext
  simp only [commands, List.mem_cons, Prod.mk.injEq, List.not_mem_nil, or_false] at hcommand
  -- which options there are, and which variables stand in for them, depends on the command
  rcases hcommand with ⟨rfl, rfl, rfl⟩ | ⟨rfl, rfl, rfl⟩ | ⟨rfl, rfl, rfl⟩ | ⟨rfl, rfl, rfl⟩ |
    ⟨rfl, rfl, rfl⟩ <;>
  simp [Values.arguments, Values.command, Values.natural?, Values.integer?, Values.flag,
    Values.format, Values.style, htext, innerLevel, common, standing, analyseOptions, fetchOptions,
    dumpOptions, postOptions, option, place, Arguments.withVariables, Command.withVariables]

/-! ## 3. Parsing -/

/-- What comes of the words of a command and of those in front of it. -/
def entered (outer : Scan) (name : String) (options places : List Parameter) (rest : List String)
    (environment : List (String × String)) : Except UsageError Arguments := do
  let level := innerLevel options places
  let (inner, _) ← level.scan .start rest
  let inner ← inner.settle
  if !level.complete inner then throw .missingArgument
  let outer ← outer.settle
  return Values.arguments ⟨inner, outer, environment, level.options ++ level.places⟩ name

/-- Variables have no part in whether the words of a command are understood. -/
theorem entered_eq_ok_iff {outer : Scan} {name : String} {options places : List Parameter}
    (hcommand : (name, options, places) ∈ commands) (rest : List String)
    (environment : List (String × String)) (a : Arguments) :
    entered outer name options places rest environment = .ok a ↔
      ∃ given, entered outer name options places rest [] = .ok given ∧
        given.withVariables environment = a := by
  simp only [entered, bind, Except.bind]
  rcases (innerLevel options places).scan .start rest with e | ⟨scanned, found⟩
  · simp
  dsimp only
  cases scanned.settle with
  | error e => simp
  | ok inner =>
      cases hcomplete : (innerLevel options places).complete inner with
      | false => simp [hcomplete, throw, throwThe, MonadExceptOf.throw]
      | true =>
          simp only [hcomplete, Bool.not_true, Bool.false_eq_true, if_false]
          cases outer.settle with
          | error e => simp
          | ok outer =>
              have hplaces := Values.arguments_eq
                ⟨inner, outer, environment, (innerLevel options places).options ++ places⟩
                hcommand rfl
              constructor
              · intro h
                exact ⟨_, rfl, hplaces.symm.trans (Except.ok.inj h)⟩
              · rintro ⟨given, hgiven, rfl⟩
                obtain rfl := Except.ok.inj hgiven
                exact congrArg Except.ok hplaces

/-- **A command line is understood by its words.**  In any environment it is understood exactly if
it is in one without variables, and then the variables fill the places of missing options. -/
theorem parse_eq_ok_iff (words : List String) (environment : List (String × String))
    (a : Arguments) : parse words environment = .ok a ↔
      ∃ given, parse words [] = .ok given ∧ given.withVariables environment = a := by
  unfold parse
  simp only [bind, Except.bind]
  rcases outerLevel.scan .start words with e | ⟨outer, found⟩
  · simp
  dsimp only
  cases found with
  | none =>
      -- without a command there are no arguments, whatever the variables are
      rcases outer.settle with e | outer
      · simp
      · dsimp only
        split_ifs <;> simp
  | some command =>
      obtain ⟨name, rest⟩ := command
      dsimp only
      by_cases hhelp : name = helpWord
      · simp [hhelp]
      rw [if_neg hhelp, if_neg hhelp]
      cases hfind : commands.find? fun c => c.1 == name with
      | none => simp [throw, throwThe, MonadExceptOf.throw]
      | some entry =>
          obtain ⟨found, options, places⟩ := entry
          obtain rfl : found = name := by simpa using List.find?_some hfind
          exact entered_eq_ok_iff (List.mem_of_find?_eq_some hfind) rest environment a

end IncidentDigest.CommandLine
