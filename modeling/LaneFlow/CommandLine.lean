import LaneFlow.Config.Override
import LaneFlow.Text.Quoted

/-!
# Command lines

A command line names the file of a configuration and any number of overrides.
The value of an option is either attached to it or is the next argument. A value
that is not attached is looked at only when the next option comes or the line
ends, so something that is not understood in between is complained about first.
After a double dash no argument is an option.

## Main results

* `CommandLine.read_eq_ok_iff`: a command line that can be run names its
  configuration.
-/

namespace LaneFlow

/-- What the program is asked to do. -/
structure CommandLine where
  config : String
  overrides : List Override
deriving Repr, DecidableEq

/-- Why no run follows from a command line. -/
inductive Stop where
  /-- The line asks for help. -/
  | help
  /-- The line asks for the version. -/
  | version
  | unknownArgument
  | missingValue
  | badValue
  | repeated
  /-- There is a value where none is expected. -/
  | excessValue
  | missingConfig
deriving Repr, DecidableEq

namespace CommandLine

/-- A command line as it is reported. -/
def text (l : CommandLine) : String :=
  let pairs := Text.quotedPairs (l.overrides.map fun o => (o.key, o.value))
  s!"CommandLineArgs \x7b config: {Text.quoted l.config}, " ++
    s!"overrides: {pairs} \x7d"

/-! ## Arguments -/

/-- The options that have a value. -/
inductive Opt where
  | config
  | set
deriving Repr, DecidableEq

/-- What an argument looks like. -/
inductive Argument where
  | option (opt : Opt) (value : Option String)
  | stop (reason : Stop)
  | doubleDash
  | plain (text : String)
deriving Repr, DecidableEq

/-- A text after two dashes: a name, and a value after the first equals sign. -/
def longArgument (cs : List Char) : Argument :=
  let value := match cs.dropWhile (· != '=') with
    | [] => none
    | _ :: value => some (String.ofList value)
  match String.ofList (cs.takeWhile (· != '=')) with
  | "config" => .option .config value
  | "set" => .option .set value
  | "help" => .stop (if value.isSome then .excessValue else .help)
  | "version" => .stop (if value.isSome then .excessValue else .version)
  | _ => .stop .unknownArgument

/-- A text after one dash: a letter, and a value that may follow an equals
sign. -/
def shortArgument : List Char → Argument
  | ['c'] => .option .config none
  | 'c' :: '=' :: value => .option .config (some (String.ofList value))
  | 'c' :: value => .option .config (some (String.ofList value))
  | 'h' :: _ => .stop .help
  | 'V' :: _ => .stop .version
  | _ => .stop .unknownArgument

/-- What an argument looks like. A single dash is plain. -/
def Argument.ofText (s : String) : Argument :=
  match s.toList with
  | ['-', '-'] => .doubleDash
  | '-' :: '-' :: rest => longArgument rest
  | ['-'] => .plain s
  | '-' :: rest => shortArgument rest
  | _ => .plain s

/-! ## Reading -/

/-- What has been read of a command line. -/
structure Progress where
  config : Option String := none
  overrides : List Override := []
  /-- An option whose value has not been looked at, and the value if it has
  come. -/
  pending : Option (Opt × Option String) := none
deriving Repr, DecidableEq

namespace Progress

/-- Looks at the value of an option. -/
def take (p : Progress) (opt : Opt) (value : String) : Except Stop Progress :=
  match opt with
  | .config =>
    if p.config.isSome then .error .repeated
    else .ok { p with config := some value }
  | .set => match Override.ofText? value with
    | some o => .ok { p with overrides := p.overrides ++ [o] }
    | none => .error .badValue

/-- Looks at the value that has not been looked at. -/
def settle (p : Progress) : Except Stop Progress :=
  match p.pending with
  | none => .ok p
  | some (_, none) => .error .missingValue
  | some (opt, some value) => { p with pending := none }.take opt value

/-- What is left to say at the reason to stop. Questions wait until a pending
value is looked at. -/
def stop (p : Progress) (reason : Stop) : Stop :=
  match reason, p.settle with
  | .help, .error first => first
  | .version, .error first => first
  | _, _ => reason

/-- Reads an argument that looks like no option. -/
def takePlain (p : Progress) (value : String) : Except Stop Progress :=
  match p.pending with
  | some (opt, none) => .ok { p with pending := some (opt, some value) }
  | _ => .error .unknownArgument

/-- Reads arguments to the end of the line. -/
def readAll (p : Progress) : List String → Except Stop Progress
  | [] => p.settle
  | arg :: rest =>
    match Argument.ofText arg with
    | .option opt none =>
      do readAll { ← p.settle with pending := some (opt, none) } rest
    | .option opt (some value) =>
      do readAll (← (← p.settle).take opt value) rest
    | .stop reason => .error (p.stop reason)
    | .doubleDash => if rest.isEmpty then p.settle else .error .unknownArgument
    | .plain value => do readAll (← p.takePlain value) rest

end Progress

/-- The command line that some arguments make up. -/
def read (args : List String) : Except Stop CommandLine := do
  let p ← ({} : Progress).readAll args
  match p.config with
  | some config => return ⟨config, p.overrides⟩
  | none => throw .missingConfig

theorem read_eq_ok_iff {args : List String} {line : CommandLine} :
    read args = .ok line ↔ ∃ p, ({} : Progress).readAll args = .ok p ∧
      p.config = some line.config ∧ p.overrides = line.overrides := by
  rw [read]
  cases ({} : Progress).readAll args with
  | error reason => simp [bind, Except.bind]
  | ok p =>
      obtain ⟨config, overrides⟩ := line
      cases hconfig : p.config <;>
        simp [bind, Except.bind, pure, Except.pure, throw, throwThe,
          MonadExceptOf.throw, hconfig]

example : read ["--config", "c.yml"] = .ok ⟨"c.yml", []⟩ := by cbv

end CommandLine

end LaneFlow
