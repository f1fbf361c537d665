/-
This file proves what the readers of single words read: blanks, literals, identifiers and the
definitions of delimiters.

A reader that takes the longest run of some characters stops where the rest does not begin
with one of them. What it read and where it stopped is all there is to say about it, and each
statement here gives both directions of that: from a text that is split in such a way to the
reader's answer, and from the answer to the split. The position never decides anything.
-/

import Stencil.Proofs.Grammar

namespace Stencil

/-! ### Where a run stops -/

/-- A run of accepted characters does not go on into a text. -/
def Stops (accepts : Char → Bool) (text : List Char) : Prop :=
  ∀ character ∈ text.head?, accepts character = false

namespace Stops

variable {accepts : Char → Bool}

@[simp] theorem nil : Stops accepts [] := nofun

@[simp] theorem cons_iff {character : Char} {text : List Char} :
    Stops accepts (character :: text) ↔ accepts character = false := by
  simp [Stops]

/-- Where a text has a first character, what comes behind it has no say. -/
theorem append {text : List Char} (stops : Stops accepts text) (rest : List Char)
    (present : text ≠ [] ∨ rest = []) : Stops accepts (text ++ rest) := by
  cases text with
  | nil => simp_all
  | cons character text => simpa using stops

theorem of_append {text rest : List Char} (stops : Stops accepts (text ++ rest))
    (present : text ≠ []) : Stops accepts text := by
  cases text with
  | nil => exact absurd rfl present
  | cons character text => simpa using stops

/-- A run stops in front of a text that begins with a character of another kind. -/
theorem of_forall {text rest : List Char} (present : text ≠ [])
    (others : ∀ character ∈ text, accepts character = false) : Stops accepts (text ++ rest) := by
  cases text with
  | nil => exact absurd rfl present
  | cons character text => simpa using others character List.mem_cons_self

end Stops

theorem singleton_prefix_iff {character : Char} {text : List Char} :
    [character] <+: text ↔ ¬ Stops (· == character) text := by
  cases text with
  | nil => simp
  | cons first rest =>
    rw [List.cons_prefix_cons, Stops.cons_iff, eq_comm]
    simp

/-! ### Characters of different kinds -/

/-- A blank belongs to no identifier. -/
theorem isBlank_of_isIdentifierChar {character : Char}
    (identifier : isIdentifierChar character = true) : Text.isBlank character = false := by
  change ((((decide (_ ∧ _) || (decide _ && decide _)) || (decide _ && decide _)) ||
    decide _) || decide _) = true at identifier
  simp only [Bool.or_eq_true, Bool.and_eq_true, decide_eq_true_eq,
    UInt32.le_iff_toNat_le] at identifier
  have away (low high : Nat) (above : low ≤ character.toNat) (below : character.toNat ≤ high)
      (afterBlanks : 33 ≤ low) (beforeBlanks : high ≤ 132) : Text.isBlank character = false := by
    simp only [Text.isBlank, Text.blankRanges, List.any_cons, List.any_nil, Bool.or_false,
      Bool.or_eq_false_iff, Bool.and_eq_false_iff, decide_eq_false_iff_not]
    omega
  rcases identifier with (((⟨low, high⟩ | ⟨low, high⟩) | ⟨low, high⟩) | rfl) | rfl
  · exact away 65 90 low high (by decide) (by decide)
  · exact away 97 122 low high (by decide) (by decide)
  · exact away 48 57 low high (by decide) (by decide)
  · decide
  · decide

theorem isIdentifierChar_of_isBlank {character : Char} (blank : Text.isBlank character = true) :
    isIdentifierChar character = false := by
  cases identifier : isIdentifierChar character with
  | false => rfl
  | true => simp [isBlank_of_isIdentifierChar identifier] at blank

theorem isDefinitionChar_of_isBlank {character : Char} (blank : Text.isBlank character = true) :
    isDefinitionChar character = false := by
  simp [isDefinitionChar, blank]

theorem isBlank_of_isDefinitionChar {character : Char}
    (defining : isDefinitionChar character = true) : Text.isBlank character = false := by
  cases blank : Text.isBlank character with
  | false => rfl
  | true => simp [isDefinitionChar_of_isBlank blank] at defining

/-- What is neither blank nor part of a definition begins with an equals sign. -/
theorem stops_equals {rest : List Char} (stops : Stops Text.isBlank rest)
    (noDefinition : Stops isDefinitionChar rest) : Stops (· != '=') rest := by
  cases rest with
  | nil => exact .nil
  | cons character rest =>
    rw [Stops.cons_iff] at stops noDefinition ⊢
    simpa [isDefinitionChar, stops] using noDefinition

/-- A character of an identifier, or the dot that stands between two segments of a name. -/
def isNameChar (character : Char) : Bool := isIdentifierChar character || character == '.'

theorem isNameChar_of_isBlank {character : Char} (blank : Text.isBlank character = true) :
    isNameChar character = false := by
  have notDot : character ≠ '.' := by
    rintro rfl
    exact absurd blank (by decide)
  simp [isNameChar, isIdentifierChar_of_isBlank blank, notDot]

theorem isBlank_of_isNameChar {character : Char} (inName : isNameChar character = true) :
    Text.isBlank character = false := by
  cases blank : Text.isBlank character with
  | false => rfl
  | true => simp [isNameChar_of_isBlank blank] at inName

theorem stops_isNameChar_iff {text : List Char} :
    Stops isNameChar text ↔ Stops isIdentifierChar text ∧ Stops (· == '.') text := by
  cases text with
  | nil => simp
  | cons character text => simp [isNameChar]

/-- Blanks behind a name end it, and where there are none the rest has to. -/
theorem stops_isNameChar_blanks {blanks rest : List Char} (blank : Blanks blanks)
    (stops : Stops isNameChar rest) : Stops isNameChar (blanks ++ rest) := by
  cases blanks with
  | nil => exact stops
  | cons first blanks => simpa using isNameChar_of_isBlank (blank first List.mem_cons_self)

namespace Cursor

/-- The longest run of accepted characters is a word of them behind which the run stops. -/
theorem run_eq_iff {cursor next : Cursor} {accepts : Char → Bool} {word : List Char} :
    cursor.run accepts = (word, next) ↔
      ∃ rest, cursor.ahead = word ++ rest ∧ next = cursor.past word rest ∧
        (∀ character ∈ word, accepts character = true) ∧ Stops accepts rest := by
  constructor
  · intro ran
    obtain ⟨rfl, rfl⟩ := Prod.mk.inj ran
    refine ⟨cursor.ahead.dropWhile accepts, List.takeWhile_append_dropWhile.symm, rfl, ?_, ?_⟩
    · intro character member
      exact List.all_eq_true.mp List.all_takeWhile character member
    · intro character first
      have := List.head?_dropWhile_not accepts cursor.ahead
      rw [first] at this
      simpa using this
  · rintro ⟨rest, ahead, rfl, accepted, stops⟩
    have taken : rest.takeWhile accepts = [] ∧ rest.dropWhile accepts = rest := by
      cases rest with
      | nil => exact ⟨rfl, rfl⟩
      | cons character rest =>
        have refused := Stops.cons_iff.mp stops
        simp [refused]
    rw [run, ahead, List.takeWhile_append_of_pos accepted, List.dropWhile_append_of_pos accepted,
      taken.1, taken.2, List.append_nil]

end Cursor

/-! ### Blanks -/

theorem blanks_nil : Blanks [] := nofun

/-- Every text begins with blanks, behind which there is no blank. -/
theorem exists_blanks (text : List Char) :
    ∃ blanks rest, text = blanks ++ rest ∧ Blanks blanks ∧ Stops Text.isBlank rest := by
  obtain ⟨rest, ahead, -, blank, stops⟩ := Cursor.run_eq_iff.mp
    (show (Cursor.ofText text).run Text.isBlank = (_, _) from rfl)
  exact ⟨_, rest, ahead, blank, stops⟩

namespace Cursor

theorem skipBlanks_eq {cursor : Cursor} {blanks rest : List Char}
    (ahead : cursor.ahead = blanks ++ rest) (blank : Blanks blanks)
    (stops : Stops Text.isBlank rest) : cursor.skipBlanks = cursor.past blanks rest := by
  rw [skipBlanks, run_eq_iff.mpr ⟨rest, ahead, rfl, blank, stops⟩]

@[simp] theorem past_nil_ahead (cursor : Cursor) : cursor.past [] cursor.ahead = cursor := by
  simp [past]

/-! ### Literals -/

theorem accept?_eq {cursor : Cursor} {literal rest : List Char}
    (ahead : cursor.ahead = literal ++ rest) :
    cursor.accept? literal = some (cursor.past literal rest) := by
  rw [accept?, ahead, if_pos (List.isPrefixOf_iff_prefix.mpr (List.prefix_append literal rest)),
    List.drop_left]

theorem accept?_singleton_eq {cursor : Cursor} {character : Char} {rest : List Char}
    (ahead : cursor.ahead = character :: rest) :
    cursor.accept? [character] = some (cursor.past [character] rest) := accept?_eq ahead

theorem accept?_eq_none_iff {cursor : Cursor} {literal : List Char} :
    cursor.accept? literal = none ↔ ¬ literal <+: cursor.ahead := by
  constructor
  · rintro refused ⟨rest, ahead⟩
    rw [accept?_eq ahead.symm] at refused
    cases refused
  · intro absent
    cases accepted : cursor.accept? literal with
    | none => rfl
    | some next =>
      obtain ⟨rest, ahead, -⟩ := accept?_eq_some accepted
      exact absurd ⟨rest, ahead.symm⟩ absent

theorem accept?_singleton_eq_none_iff {cursor : Cursor} {character : Char} :
    cursor.accept? [character] = none ↔ Stops (· == character) cursor.ahead := by
  rw [accept?_eq_none_iff, singleton_prefix_iff, Classical.not_not]

/-! ### Identifiers -/

theorem identifier?_eq_some_iff {cursor next : Cursor} {identifier : String} :
    cursor.identifier? = some (identifier, next) ↔
      ∃ rest, cursor.ahead = identifier.toList ++ rest ∧
        next = cursor.past identifier.toList rest ∧ IsIdentifier identifier.toList ∧
        Stops isIdentifierChar rest := by
  constructor
  · intro read
    unfold identifier? at read
    split at read
    · cases read
    · rename_i first more next ran
      cases read
      obtain ⟨rest, ahead, rfl, accepted, stops⟩ := run_eq_iff.mp ran
      simp only [String.toList_ofList]
      exact ⟨rest, ahead, rfl, ⟨List.cons_ne_nil _ _, accepted⟩, stops⟩
  · rintro ⟨rest, ahead, rfl, ⟨present, accepted⟩, stops⟩
    obtain ⟨first, more, spelled⟩ := List.exists_cons_of_ne_nil present
    rw [identifier?, run_eq_iff.mpr ⟨rest, ahead, rfl, accepted, stops⟩, spelled]
    simp only [← spelled, String.ofList_toList]

theorem identifier?_eq_none_iff {cursor : Cursor} :
    cursor.identifier? = none ↔ Stops isIdentifierChar cursor.ahead := by
  constructor
  · intro absent
    unfold identifier? at absent
    split at absent
    · rename_i ran
      obtain ⟨rest, ahead, -, -, stops⟩ := run_eq_iff.mp ran
      rwa [ahead, List.nil_append]
    · cases absent
  · intro stops
    have ran : cursor.run isIdentifierChar = ([], cursor.past [] cursor.ahead) :=
      run_eq_iff.mpr ⟨cursor.ahead, rfl, rfl, by simp, stops⟩
    rw [identifier?, ran]

/-! ### Definitions of delimiters -/

theorem definition?_eq_some_iff {cursor next : Cursor}
    {definition : { text : List Char // text ≠ [] }} :
    cursor.definition? = some (definition, next) ↔
      ∃ rest, cursor.ahead = definition.1 ++ rest ∧ next = cursor.past definition.1 rest ∧
        IsDefinition definition.1 ∧ Stops isDefinitionChar rest := by
  constructor
  · intro read
    unfold definition? at read
    split at read
    · cases read
    · rename_i first more next ran
      cases read
      obtain ⟨rest, ahead, rfl, accepted, stops⟩ := run_eq_iff.mp ran
      exact ⟨rest, ahead, rfl, ⟨List.cons_ne_nil _ _, accepted⟩, stops⟩
  · rintro ⟨rest, ahead, rfl, ⟨present, accepted⟩, stops⟩
    obtain ⟨text, notEmpty⟩ := definition
    obtain ⟨first, more, rfl⟩ := List.exists_cons_of_ne_nil notEmpty
    rw [definition?, run_eq_iff.mpr ⟨rest, ahead, rfl, accepted, stops⟩]

theorem definition?_eq_none_iff {cursor : Cursor} :
    cursor.definition? = none ↔ Stops isDefinitionChar cursor.ahead := by
  constructor
  · intro absent
    unfold definition? at absent
    split at absent
    · rename_i ran
      obtain ⟨rest, ahead, -, -, stops⟩ := run_eq_iff.mp ran
      rwa [ahead, List.nil_append]
    · cases absent
  · intro stops
    have ran : cursor.run isDefinitionChar = ([], cursor.past [] cursor.ahead) :=
      run_eq_iff.mpr ⟨cursor.ahead, rfl, rfl, by simp, stops⟩
    rw [definition?, ran]

end Cursor

end Stencil
