/-
This file proves that a dotted name reaches what the rest of it reaches inside a section for its
front part.

The two ways walk different stacks. A dotted name takes the scope where its front part was found
away and goes on in what was found there; a section leaves that scope where it is and pushes what
was found on top of the stack. So they differ where the rest of the name is missed, since the one
looks for it further out than the other. But where what was found settles the rest by itself, by a
value other than nil or by a bad index, no scope further out is asked, and both come to that.
-/

import Stencil.Color
import Stencil.Proofs.ScopeSplit
import Stencil.Proofs.Walk

namespace Stencil

/-! ### Names in two parts -/

namespace Scopes

/-- Behind a part of a name that ends at a value the rest is looked up from there, with the scopes
further out behind it. -/
theorem lookup_append_of_found {path : List String} {scope value : Value}
    (found : scope.Ends path (.found value)) (further : List String) (outer : Scopes) :
    lookup (path ++ further) (scope :: outer) = lookup further (value :: outer) := by
  obtain ⟨leads⟩ := found
  rw [lookup, lookup, Value.follow_of_leads leads]

/-- A part of a name that a scope leaves to others takes the rest along. -/
theorem lookup_append_of_stuck {path rest : List String} {scope : Value}
    (stuck : scope.Ends path (.stuck rest)) (further : List String) (outer : Scopes) :
    lookup (path ++ further) (scope :: outer) = lookup (rest ++ further) outer := by
  cases stuck with
  | stuck leads lacks =>
    refine lookup_of_stuck ?_ outer
    rw [List.append_assoc]
    exact .stuck leads lacks

theorem lookup_of_nil (path : List String) : lookup path [.nil] = .ok .nil := by
  cases path <;> rfl

/-- What a value settles of the rest of a name is what the whole name comes to in the scopes in
which the front part of it reached the value. -/
theorem lookup_append_path {path further : List String} {scopes : Scopes} {value : Value}
    (reached : lookup path scopes = .ok value) (settled : lookup further [value] ≠ .ok .nil) :
    lookup (path ++ further) scopes = lookup further [value] := by
  induction scopes generalizing path with
  | nil =>
    obtain rfl : Value.nil = value := by injection reached
    exact absurd (lookup_of_nil further) settled
  | cons scope outer inductionHypothesis =>
    have ends := Value.ends_follow path scope
    rw [lookup] at reached
    cases followed : scope.follow path with
    | found inside =>
      rw [followed] at reached ends
      obtain rfl : inside = value := by injection reached
      rw [lookup_append_of_found ends]
      exact lookup_append_of_ne_nil settled outer
    | failed error =>
      rw [followed] at reached
      cases reached
    | stuck rest =>
      rw [followed] at reached ends
      rw [lookup_append_of_stuck ends]
      exact inductionHypothesis reached

end Scopes

/-! ### Inserts in sections -/

section Inserts

variable [Memory]

/-- A value that is written as a text, whatever the name is by which it is inserted. -/
def Value.isWritten : Value → Bool
  | .bool _ | .string _ | .formattable _ => true
  | .nil | .list _ | .map _ => false

theorem insertText_of_isWritten {value : Value} (written : value.isWritten = true)
    (formats : FormatTable) (first second : Name) (format : Option String) :
    insertText formats first format value = insertText formats second format value := by
  cases value with
  | nil | list | map => cases written
  | bool | string | formattable => rfl

/-- A section over a map renders its children once, with the map as innermost scope. -/
theorem evaluate_block_of_map {name : Name} {scopes : Scopes} {entries : Entries Value}
    (resolved : scopes.resolve name = .ok (.map entries)) (children : List Token)
    (state : RenderState) :
    Token.evaluate (.block name false children) scopes state =
      Token.evaluateAll children (.map entries :: scopes)
        (state.note (.section name.toString "map" false)) := by
  rw [evaluate_block resolved]
  exact forEach_singleton _ _ _

/-- The walk over a single tree renders it in its scopes. -/
theorem walk_singleton (token : Token) (scopes : Scopes) (state : RenderState) :
    walk [{ pending := [token], scopes }] state = token.evaluate scopes state := by
  have alone : Frame.finish { pending := [token], scopes } state =
      Token.evaluateAll [token] scopes state := Walked.andThen_nothing _
  rw [walk_eq_finish, forEach_singleton, alone, Token.evaluateAll]
  exact Walked.andThen_nothing _

/-- Inserting a value that is written comes to the same text or error and the same table from
states that differ in their events, by whatever names it is looked up in whatever scopes. -/
theorem evaluate_insert_alike {first second : Name} {inner outer : Scopes} {value : Value}
    (here : inner.resolve first = .ok value) (there : outer.resolve second = .ok value)
    (written : value.isWritten = true) (format : Option String) (state : RenderState)
    (event : RenderEvent) :
    let nested := (Token.evaluate (.insert first format) inner (state.note event)).toRendering
    let dotted := (Token.evaluate (.insert second format) outer state).toRendering
    nested.outcome = dotted.outcome ∧ nested.formats = dotted.formats := by
  intro nested dotted
  simp only [nested, dotted]
  rw [evaluate_insert here, evaluate_insert there,
    insertText_of_isWritten written _ first second format]
  simp only [RenderState.formats_note]
  cases insertText state.formats second format value <;> exact ⟨rfl, rfl⟩

end Inserts

/-- A name in two parts and a section for its first part agree where the value of the first part
settles the second one. A value other than nil and an error are those of the whole name, and those
of the second part in the scopes with the value in front of them. So where the value is a map and
what it holds is written as a text, a section over the one with an insert of the other renders
as an insert of the whole name does, with every table and behind every text. -/
theorem dotted_agrees_with_nested [Memory] :
    (∀ (path further : List String) (scopes : Scopes) (value : Value),
      scopes.lookup path = .ok value →
        (∀ inner : Value, Scopes.lookup further [value] = .ok inner → inner ≠ .nil →
          scopes.lookup (path ++ further) = .ok inner ∧
            Scopes.lookup further (value :: scopes) = .ok inner) ∧
        (∀ error, Scopes.lookup further [value] = .error error →
          scopes.lookup (path ++ further) = .error error ∧
            Scopes.lookup further (value :: scopes) = .error error)) ∧
    (∀ (path further : List String) (scopes : Scopes) (entries : Entries Value) (inner : Value),
      scopes.lookup path = .ok (.map entries) →
      Scopes.lookup further [.map entries] = .ok inner → inner.isWritten = true →
      ∀ (format : Option String) (state : RenderState),
        let insert := Token.insert { segments := further } format
        let nested := (walk [{
          pending := [.block { segments := path } false [insert]], scopes }] state).toRendering
        let dotted := (walk [{
          pending := [.insert { segments := path ++ further } format], scopes }] state).toRendering
        nested.outcome = dotted.outcome ∧ nested.formats = dotted.formats) := by
  have agree {path further : List String} {scopes : Scopes} {value : Value}
      (reached : scopes.lookup path = .ok value)
      (settled : Scopes.lookup further [value] ≠ .ok .nil) :
      scopes.lookup (path ++ further) = Scopes.lookup further [value] ∧
        Scopes.lookup further (value :: scopes) = Scopes.lookup further [value] :=
    ⟨Scopes.lookup_append_path reached settled, Scopes.lookup_append_of_ne_nil settled scopes⟩
  refine ⟨fun path further scopes value reached => ⟨fun inner inside notNil => ?_,
    fun error failed => ?_⟩, fun path further scopes entries inner reached inside written format
      state => ?_⟩
  · have settled : Scopes.lookup further [value] ≠ .ok .nil := by
      rw [inside]
      exact fun same => notNil (by injection same)
    rw [← inside]
    exact agree reached settled
  · have settled : Scopes.lookup further [value] ≠ .ok .nil := by
      rw [failed]
      nofun
    rw [← failed]
    exact agree reached settled
  · have settled : Scopes.lookup further [.map entries] ≠ .ok .nil := by
      rw [inside]
      rintro ⟨⟩
      cases written
    obtain ⟨whole, pushed⟩ := agree reached settled
    intro insert nested dotted
    simp only [nested, dotted]
    rw [walk_singleton, walk_singleton, evaluate_block_of_map reached]
    have alone (state : RenderState) :
        Token.evaluateAll [insert] (.map entries :: scopes) state =
          insert.evaluate (.map entries :: scopes) state := Walked.andThen_nothing _
    rw [alone]
    exact evaluate_insert_alike (pushed.trans inside) (whole.trans inside) written format state _

open Memory

/-- The front part of a name is found in two scopes, each with one segment of it; then the color
in the map that it reaches is inserted, and an index in its list is out of bounds. -/
theorem dotted_agrees_with_nested_across_scopes :
    let color : Color := { red := 7, green := 8, blue := 9 }
    let entries : Entries Value :=
      [("c", .formattable color.toFormattable), ("l", .list [.bool true])]
    let scopes : Scopes := [.map [("a", .map [])], .nil, .map [("b", .map entries)]]
    let state : RenderState := { text := "#", formats := .ofPairs [("color", "\x7bg\x7d")] }
    (scopes.lookup ["a", "b"] = .ok (.map entries) ∧
      Scopes.lookup ["c"] [.map entries] = .ok (.formattable color.toFormattable) ∧
      Value.formattable color.toFormattable ≠ .nil ∧
      scopes.lookup ["a", "b", "c"] = .ok (.formattable color.toFormattable)) ∧
    (Scopes.lookup ["l", "1"] [.map entries] = .error (.outOfBounds 1 1) ∧
      scopes.lookup ["a", "b", "l", "1"] = .error (.outOfBounds 1 1)) ∧
    (Value.isWritten (.formattable color.toFormattable) = true ∧
      (walk [{
        pending := [.block { segments := ["a", "b"] } false [.insert { segments := ["c"] } none]],
        scopes }] state).toRendering.outcome =
      (walk [{ pending := [.insert { segments := ["a", "b", "c"] } none], scopes }]
        state).toRendering.outcome) := by
  intro color entries scopes state
  have reached : scopes.lookup ["a", "b"] = .ok (.map entries) := by with_unfolding_all rfl
  have inside : Scopes.lookup ["c"] [.map entries] = .ok (.formattable color.toFormattable) := by
    with_unfolding_all rfl
  have outside : Scopes.lookup ["l", "1"] [.map entries] = .error (.outOfBounds 1 1) := by
    with_unfolding_all rfl
  obtain ⟨found, failed⟩ := dotted_agrees_with_nested.1 ["a", "b"] ["c"] scopes _ reached
  refine ⟨⟨reached, inside, nofun, (found _ inside nofun).1⟩, ⟨outside, ?_⟩, rfl, ?_⟩
  · exact ((dotted_agrees_with_nested.1 ["a", "b"] ["l", "1"] scopes _ reached).2 _ outside).1
  · exact (dotted_agrees_with_nested.2 ["a", "b"] ["c"] scopes entries _ reached inside rfl none
      state).1

end Stencil
