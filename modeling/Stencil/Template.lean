/-
This file holds templates: compiled trees together with a table of formats.

The trees of a template never change. Its table changes by hand and while it is rendered,
and what a rendering has set stays for the next one, also where the rendering failed.
A template is compiled from a text or from a file; it is equal to another one if the trees
are equal and the tables give every type the same format.
-/

import Stencil.Failure
import Stencil.Token.Described

namespace Stencil

/-- A compiled template. -/
structure Template where
  tokens : List Token := []
  formats : FormatTable := .empty
  deriving Inhabited

/-- What rendering a template comes to: the template behind it, the text or the failure, and the
events. -/
structure Rendered where
  template : Template
  outcome : Except Failure String
  events : List Event := []

namespace Template

/-! ### Making templates -/

/-- Compiles a text that begins with the given delimiters in force. -/
def compile (delimiters : Delimiters) (source : String) : Run Template :=
  let compilation := Stencil.compile delimiters source
  let changes := compilation.changes.map Event.redelimited
  match compilation.outcome with
  | .error error => { outcome := .error (.parse error), events := changes }
  | .ok tokens => { outcome := .ok { tokens }, events := changes ++ [.compiled tokens.length] }

/-- Compiles a text that begins with two strings as its delimiters. -/
def parse (source opening closing : String) : Run Template :=
  match Delimiters.ofStrings opening closing with
  | .error failure => { outcome := .error failure }
  | .ok delimiters => compile delimiters source

/-- Compiles the text of a file; a fault in it is told with the path. -/
def load (files : Files.Tree) (path encoding opening closing : String) : Run Template :=
  match Files.readSource files path encoding with
  | .error error => { outcome := .error (.read error) }
  | .ok source =>
    let compiled := parse source opening closing
    let told : List Event :=
      match compiled.outcome with
      | .ok template => [.loaded path template.tokens.length]
      | .error (.parse error) => [.loadFailed path error]
      | .error _ => []
    { compiled with events := compiled.events ++ told }

/-! ### Using templates -/

/-- The template with a format for a type. -/
def setFormat (template : Template) (typeName format : String) : Template :=
  { template with formats := template.formats.set typeName format }

variable [Memory]

/-- Renders a template against a value. -/
def renderValue (template : Template) (root : Value) : Rendered :=
  let rendering := Stencil.render template.tokens template.formats root
  { template := { template with formats := rendering.formats },
    outcome := rendering.outcome.mapError .render,
    events := rendering.events.map .rendered }

/-- Renders a template against data. Data that have no value leave it as it is. -/
def render (template : Template) (datum : Datum) : Rendered :=
  match datum.toValue with
  | .error refusal => { template, outcome := .error (.refused refusal) }
  | .ok root => template.renderValue root

/-- Two templates are equal: their trees are, and their tables give every type the same
format. -/
def same (first second : Template) : Bool :=
  decide (first.tokens = second.tokens) && first.formats.same second.formats

/-- A template as it is described to a reader. -/
def described (template : Template) : String :=
  "Template(tokens=" ++ describedTuple (Token.describedEach template.tokens) ++ ", formats=" ++
    template.formats.described ++ ")"

end Template

end Stencil
