/-
This file holds the levels of log records and the loggers that they are written to.

A level is a number, and some levels have names. Loggers have dotted names, of which one is
the base of all loggers of the library. A logger is asked for by a name, and every name is
answered by a logger whose name begins with that of the base.
-/

namespace Stencil.Log

/-! ### Levels -/

/-- The level of a record, the greater the more urgent. -/
abbrev Level := Int

namespace Level

/-- The level that stands for none. -/
def unset : Level := 0

def debug : Level := 10

def info : Level := 20

def warning : Level := 30

def error : Level := 40

def critical : Level := 50

/-- The name of a level; one without a name of its own is written as its number. -/
def name (level : Level) : String :=
  if level = unset then "NOTSET"
  else if level = debug then "DEBUG"
  else if level = info then "INFO"
  else if level = warning then "WARNING"
  else if level = error then "ERROR"
  else if level = critical then "CRITICAL"
  else "Level " ++ toString level

end Level

/-! ### Loggers -/

/-- A logger, by its full name. -/
structure Logger where
  name : String
  deriving DecidableEq, Repr, Inhabited

namespace Logger

/-- The name of the base. -/
def baseName : String := "niji_templates"

/-- The base of all loggers of the library. -/
def base : Logger := { name := baseName }

/-- A logger below the base. -/
def child (name : String) : Logger := { name := baseName ++ "." ++ name }

/-- The logger that a name asks for: the base for no name, a name that begins with the name of
the base as it is, and any other name below the base. -/
def named (name : Option String) : Logger :=
  match name with
  | none => base
  | some name =>
    if name = "" ∨ name = baseName then base
    else if baseName.toList.isPrefixOf name.toList then { name }
    else child name

/-- The logger of the compiler of templates. -/
def compiling : Logger := child "parse"

/-- The logger of the renderer. -/
def rendering : Logger := child "render"

/-- The logger of the reader of template files. -/
def loading : Logger := child "io.loader"

/-- The logger of an engine that is given no other. -/
def engine : Logger := child "engine"

end Logger

/-! ### Tracing -/

/-- Tracing is on where its setting is the digit one, and nothing else. -/
def isTracing (setting : Option String) : Bool := setting == some "1"

end Stencil.Log
