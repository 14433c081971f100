/-!
# Logs

What a run reports on its way is data: a list of lines, in order. `Logged` is a
computation that reports lines and may fail; the lines up to the failure are
kept.

## Main results

* `Logged.lines_bind_ok`, `Logged.outcome_bind_ok`: a step that succeeds puts
  its lines in front.
* `Logged.outcome_bind`: outcomes do not depend on lines.
* `Logged.bind_error`: nothing follows a failure.
-/

namespace LaneFlow

/-- How much a line matters. -/
inductive Level where
  | debug
  | info
  | warn
deriving Repr, DecidableEq

/-- The name of a level. -/
def Level.name : Level → String
  | .debug => "DEBUG"
  | .info => "INFO"
  | .warn => "WARN"

/-- A line of a log. -/
structure LogLine where
  level : Level
  text : String
deriving Repr, DecidableEq

/-- An outcome with the lines that were reported on the way to it. -/
structure Logged (ε α : Type) where
  lines : List LogLine
  outcome : Except ε α

namespace Logged

variable {ε α β : Type}

/-- A computation that reports nothing. -/
def ofExcept (x : Except ε α) : Logged ε α := ⟨[], x⟩

/-- A computation that reports one line. -/
def report (level : Level) (text : String) : Logged ε Unit :=
  ⟨[⟨level, text⟩], .ok ()⟩

/-- Reports several lines. -/
def reportAll (lines : List LogLine) : Logged ε Unit := ⟨lines, .ok ()⟩

/-- A computation that fails. -/
def fail (e : ε) : Logged ε α := ⟨[], .error e⟩

instance : Monad (Logged ε) where
  pure a := ⟨[], .ok a⟩
  bind x f := match x.outcome with
    | .error e => ⟨x.lines, .error e⟩
    | .ok a => ⟨x.lines ++ (f a).lines, (f a).outcome⟩

/-- The computation with its failures put in other words. -/
def mapError {δ : Type} (f : ε → δ) (x : Logged ε α) : Logged δ α :=
  ⟨x.lines, x.outcome.mapError f⟩

@[simp] theorem pure_def (a : α) : (pure a : Logged ε α) = ⟨[], .ok a⟩ := rfl

theorem lines_bind_ok (lines : List LogLine) (a : α) (f : α → Logged ε β) :
    ((⟨lines, .ok a⟩ : Logged ε α) >>= f).lines = lines ++ (f a).lines := rfl

theorem outcome_bind_ok (lines : List LogLine) (a : α) (f : α → Logged ε β) :
    ((⟨lines, .ok a⟩ : Logged ε α) >>= f).outcome = (f a).outcome := rfl

theorem outcome_bind (x : Logged ε α) (f : α → Logged ε β) :
    (x >>= f).outcome = x.outcome.bind fun a => (f a).outcome := by
  obtain ⟨lines, fault | a⟩ := x <;> rfl

@[simp] theorem bind_error (lines : List LogLine) (e : ε) (f : α → Logged ε β) :
    ((⟨lines, .error e⟩ : Logged ε α) >>= f) = ⟨lines, .error e⟩ := rfl

end Logged

end LaneFlow
