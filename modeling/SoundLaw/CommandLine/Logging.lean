/-
  SoundLaw.CommandLine.Logging

  Where log messages go, and from which severity on. Severities are numbers: 10 for debugging, 20
  for information and 30 for warnings.
-/

namespace SoundLaw

/-- The severity from which on messages are shown, by the number of times that more messages were
    asked for. -/
def logLevel (verbosity : Int) : Int :=
  if verbosity = 0 ∨ verbosity = 1 ∨ verbosity = 2 then (3 - verbosity) * 10 else 10

/-- A destination of log messages. -/
inductive LogTarget
  | file
  | console
  deriving DecidableEq, Repr

/-- The severity from which on messages are made at all, and the destinations with their own. -/
structure Logging where
  level : Int := 30
  targets : List (LogTarget × Int) := []
  deriving DecidableEq, Repr

/-- The log that is kept in a file with all messages, if there is a file. -/
def Logging.toFile (log : Logging) (hasFile : Bool) : Logging :=
  if hasFile then { level := 10, targets := log.targets ++ [(.file, 0)] } else log

/-- The log that is shown on the console, if more messages are asked for. -/
def Logging.toConsole (log : Logging) (verbosity : Int) : Logging :=
  if verbosity = 0 then log
  else
    { level := min (if log.level = 0 then 30 else log.level) (logLevel verbosity)
      targets := log.targets ++ [(.console, logLevel verbosity)] }

/-- The log for a verbosity and, perhaps, a file. -/
def Logging.configure (verbosity : Int) (hasFile : Bool) : Logging :=
  Logging.toConsole (Logging.toFile {} hasFile) verbosity

end SoundLaw
