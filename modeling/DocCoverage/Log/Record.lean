/-
Log records. A record names the logger it comes from and has a level, a number that says how much it
matters. The loggers of the library form a tree below one logger, whose threshold decides for all of
them which records are kept.
-/

set_option autoImplicit false

namespace DocCoverage

/-- One log record. -/
structure LogRecord where
  logger : String
  level : Int
  message : String
  deriving DecidableEq, Repr

namespace Log

/-- The logger above all others of the library. -/
def mainLogger : String := "doccomment_checker"

/-- **The full name of a logger.** A name that does not begin like the main logger's is put below
it. -/
def fullName : Option String → String
  | none => mainLogger
  | some name => if name.startsWith mainLogger then name else mainLogger ++ "." ++ name

/-- The logger is the main one or below it. -/
def isOurs (logger : String) : Bool :=
  logger == mainLogger || logger.startsWith (mainLogger ++ ".")

/-! ## Levels -/

/-- The level of what is of use only in a search for faults. -/
def debug : Int := 10

/-- The level of what went as expected. -/
def info : Int := 20

/-- The level of what may be a fault. -/
def warning : Int := 30

/-- The level of what failed. -/
def error : Int := 40

/-- The name of a level. -/
def levelName (level : Int) : String :=
  if level = 50 then "CRITICAL"
  else if level = error then "ERROR"
  else if level = warning then "WARNING"
  else if level = info then "INFO"
  else if level = debug then "DEBUG"
  else if level = 0 then "NOTSET"
  else "Level " ++ toString level

/-- **The least level that is kept** where the main logger has a threshold. A threshold of zero
leaves the decision to the general one, which is that of warnings. -/
def leastKept (threshold : Int) : Int := if threshold = 0 then warning else threshold

/-- A record is kept. Levels that are not positive are never kept. -/
def keeps (threshold : Int) (r : LogRecord) : Bool :=
  isOurs r.logger && 0 < r.level && leastKept threshold ≤ r.level

/-- A record in a log file, with the time at which it is written. -/
def line (time : String) (r : LogRecord) : String :=
  time ++ " - " ++ r.logger ++ " - " ++ levelName r.level ++ " - " ++ r.message ++ "\n"

end Log

end DocCoverage
