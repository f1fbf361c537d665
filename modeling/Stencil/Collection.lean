/-
This file holds collections of templates, which are numbered in the order in which they
were made.

A template comes into a collection by being compiled, put together, loaded or copied; no
template leaves it. What is asked of one template changes no other one: a copy has a table
of its own, equal to the table that was copied.
-/

import Stencil.Template

namespace Stencil

/-- Templates by their numbers. -/
structure Collection where
  templates : List Template := []
  deriving Inhabited

namespace Collection

/-- What a collection is asked to do. -/
inductive Request where
  /-- Compile a text with two delimiters. -/
  | parse (source opening closing : String)
  /-- Put a template together from trees and formats. -/
  | build (tokens : List Token) (formats : List (String × String))
  /-- Compile the text of a file. -/
  | load (path encoding opening closing : String)
  /-- Copy a template. -/
  | copy (number : Nat)
  /-- Set a format of a template. -/
  | setFormat (number : Nat) (typeName format : String)
  /-- Give the formats of a template. -/
  | formats (number : Nat)
  /-- Render a template. -/
  | render (number : Nat) (datum : Datum)
  /-- Give the trees of a template. -/
  | tokens (number : Nat)
  /-- Compare a template with another one, or with something that is none. -/
  | compare (number : Nat) (other : Option Nat)
  /-- Describe a template. -/
  | describe (number : Nat)

/-- What a collection answers. -/
inductive Reply where
  /-- A template was made; this is its number. -/
  | made (number : Nat)
  | formats (table : FormatTable)
  /-- The text of a template, and its formats behind the rendering. -/
  | text (content : String) (formats : FormatTable)
  | tokens (tokens : List Token)
  | equal (value : Bool)
  | description (text : String)
  /-- The request failed. -/
  | failed (failure : Failure)
  /-- There is no template of this number. -/
  | absent (number : Nat)

/-- What a request comes to: the collection behind it, its answer, and the events. -/
structure Performed where
  collection : Collection
  reply : Reply
  events : List Event := []

/-- The template of a number. -/
def get? (collection : Collection) (number : Nat) : Option Template :=
  collection.templates[number]?

/-- The collection with one more template. -/
def add (collection : Collection) (template : Template) : Collection :=
  { templates := collection.templates ++ [template] }

/-- The collection with another template in the place of a number. -/
def replace (collection : Collection) (number : Nat) (template : Template) : Collection :=
  { templates := collection.templates.set number template }

@[simp] theorem get?_add_length (collection : Collection) (template : Template) :
    (collection.add template).get? collection.templates.length = some template := by
  simp [get?, add]

/-- A template that comes in changes no number that was given. -/
theorem get?_add_of_lt (collection : Collection) (template : Template) {number : Nat}
    (given : number < collection.templates.length) :
    (collection.add template).get? number = collection.get? number :=
  List.getElem?_append_left given

/-- A template that is replaced changes under its own number only. -/
theorem get?_replace (collection : Collection) (number other : Nat) (template : Template) :
    (collection.replace number template).get? other =
      if number = other then (collection.get? other).map fun _ => template
      else collection.get? other := by
  simp only [get?, replace, List.getElem?_set]
  split
  · split
    · rename_i inside
      rename_i same
      subst same
      simp [List.getElem?_eq_getElem inside]
    · rename_i outside
      rename_i same
      subst same
      simp [List.getElem?_eq_none (Nat.le_of_not_lt outside)]
  · rfl

/-- Takes in a template that was made, if it was. -/
def take (collection : Collection) (made : Run Template) : Performed :=
  match made.outcome with
  | .error failure => { collection, reply := .failed failure, events := made.events }
  | .ok template =>
    { collection := collection.add template,
      reply := .made collection.templates.length,
      events := made.events }

/-- Does something with the template of a number. -/
def withTemplate (collection : Collection) (number : Nat) (use : Template → Performed) :
    Performed :=
  match collection.get? number with
  | none => { collection, reply := .absent number }
  | some template => use template

variable [Memory]

/-- Renders the template of a number. -/
def renderAt (collection : Collection) (number : Nat) (datum : Datum) : Performed :=
  collection.withTemplate number fun template =>
    let rendered := template.render datum
    { collection := collection.replace number rendered.template,
      reply :=
        match rendered.outcome with
        | .ok text => .text text rendered.template.formats
        | .error failure => .failed failure,
      events := rendered.events }

/-- Does what a collection is asked to do, with the files of the working directory. -/
def perform (files : Files.Tree) (collection : Collection) : Request → Performed
  | .parse source opening closing => collection.take (Template.parse source opening closing)
  | .build tokens formats =>
    collection.take { outcome := .ok { tokens, formats := .ofPairs formats } }
  | .load path encoding opening closing =>
    collection.take (Template.load files path encoding opening closing)
  | .copy number =>
    collection.withTemplate number fun template => collection.take { outcome := .ok template }
  | .setFormat number typeName format =>
    collection.withTemplate number fun template =>
      let changed := template.setFormat typeName format
      { collection := collection.replace number changed, reply := .formats changed.formats }
  | .formats number =>
    collection.withTemplate number fun template =>
      { collection, reply := .formats template.formats }
  | .render number datum => collection.renderAt number datum
  | .tokens number =>
    collection.withTemplate number fun template => { collection, reply := .tokens template.tokens }
  | .compare number other =>
    collection.withTemplate number fun template =>
      match other with
      | none => { collection, reply := .equal false }
      | some other =>
        collection.withTemplate other fun second =>
          { collection, reply := .equal (template.same second) }
  | .describe number =>
    collection.withTemplate number fun template =>
      { collection, reply := .description template.described }

end Collection

end Stencil
