/-
This file proves that the format of a type has no part in a rendering unless a value of the type
stands in the data.

Every value that a name reaches, and so every scope, is nil or a part of the root: its formattable
values are of types that occur there. Two renderings with tables that give these types the same
formats, and perhaps some more types, go on in lock step. Each part of a template writes the same
text, notes the same events, ends in the same error or in none, and leaves tables that agree on all
of these types again, since both set the same formats.
-/

import Stencil.Color
import Stencil.Proofs.Walk

namespace Stencil

/-! ### The types that occur in a value -/

namespace Value

mutual

/-- The names of the types of all formattable values in a value, at any depth. -/
def typeNames : Value → List String
  | nil | bool _ | string _ => []
  | list items => typeNamesOfItems items
  | map entries => typeNamesOfEntries entries
  | formattable object => [object.typeName]

/-- The names of the types that occur in the items of a list. -/
def typeNamesOfItems : List Value → List String
  | [] => []
  | item :: rest => typeNames item ++ typeNamesOfItems rest

/-- The names of the types that occur under the keys of a map. -/
def typeNamesOfEntries : List (String × Value) → List String
  | [] => []
  | (_, value) :: rest => typeNames value ++ typeNamesOfEntries rest

end

theorem typeNames_subset_of_mem {items : List Value} {item : Value} (member : item ∈ items) :
    item.typeNames ⊆ (list items).typeNames := by
  show item.typeNames ⊆ typeNamesOfItems items
  induction items with
  | nil => cases member
  | cons first rest inductionHypothesis =>
    rcases List.mem_cons.mp member with rfl | member
    · exact List.subset_append_left _ _
    · exact List.Subset.trans (inductionHypothesis member) (List.subset_append_right _ _)

theorem typeNames_subset_of_find? {entries : Entries Value} {key : String} {value : Value}
    (found : entries.find? key = some value) : value.typeNames ⊆ (map entries).typeNames := by
  show value.typeNames ⊆ typeNamesOfEntries entries
  induction entries with
  | nil => cases found
  | cons entry rest inductionHypothesis =>
    rw [Entries.find?] at found
    split at found
    · cases found
      exact List.subset_append_left _ _
    · exact List.Subset.trans (inductionHypothesis found) (List.subset_append_right _ _)

end Value

/-- What a name reaches is nil or a part of a scope. -/
theorem Scopes.typeNames_seek {types segments : List String} {scopes : Scopes} {value : Value}
    (within : ∀ scope ∈ scopes, scope.typeNames ⊆ types)
    (reached : scopes.seek segments = .ok value) : value.typeNames ⊆ types := by
  fun_induction seek segments scopes with
  | case1 =>
    cases reached
    exact List.nil_subset _
  | case2 scope outer =>
    cases reached
    exact within _ List.mem_cons_self
  | case3 => cases reached
  | case4 items outer segment rest index read inside inductionHypothesis =>
    obtain ⟨first, others⟩ := List.forall_mem_cons.mp within
    have part := Value.typeNames_subset_of_mem (List.getElem_mem inside)
    exact inductionHypothesis (List.forall_mem_cons.mpr ⟨List.Subset.trans part first, others⟩)
      reached
  | case5 => cases reached
  | case6 entries outer segment rest found present inductionHypothesis =>
    obtain ⟨first, others⟩ := List.forall_mem_cons.mp within
    have part := Value.typeNames_subset_of_find? present
    exact inductionHypothesis (List.forall_mem_cons.mpr ⟨List.Subset.trans part first, others⟩)
      reached
  | case7 entries outer segment rest missing inductionHypothesis =>
    exact inductionHypothesis (List.forall_mem_cons.mp within).2 reached
  | case8 _ _ _ inductionHypothesis | case9 _ _ _ _ inductionHypothesis
  | case10 _ _ _ _ inductionHypothesis | case11 _ _ _ _ inductionHypothesis =>
    exact inductionHypothesis (List.forall_mem_cons.mp within).2 reached

/-! ### States that are alike -/

/-- Two tables give the same formats to the given types. -/
def FormatTable.AgreeOn (types : List String) (first second : FormatTable) : Prop :=
  ∀ typeName ∈ types, first.get? typeName = second.get? typeName

theorem FormatTable.AgreeOn.set {types : List String} {first second : FormatTable}
    (agree : first.AgreeOn types second) (typeName format : String) :
    (first.set typeName format).AgreeOn types (second.set typeName format) := by
  intro other member
  rw [get?_set, get?_set, agree other member]

/-- Two states have the same text and events, and tables that agree on the given types. -/
structure RenderState.Alike (types : List String) (first second : RenderState) : Prop where
  text : first.text = second.text
  formats : first.formats.AgreeOn types second.formats
  events : first.events = second.events

/-- Two walks have ended alike. -/
structure Walked.Alike (types : List String) (first second : Walked) : Prop where
  state : first.state.Alike types second.state
  error : first.error = second.error

namespace RenderState.Alike

variable {types : List String} {first second : RenderState}

theorem write (alike : first.Alike types second) (text : String) :
    (first.write text).Alike types (second.write text) where
  text := by rw [text_write, text_write, alike.text]
  formats := by rw [formats_write, formats_write]; exact alike.formats
  events := by rw [events_write, events_write, alike.events]

theorem note (alike : first.Alike types second) (event : RenderEvent) :
    (first.note event).Alike types (second.note event) where
  text := by rw [text_note, text_note, alike.text]
  formats := by rw [formats_note, formats_note]; exact alike.formats
  events := by rw [events_note, events_note, alike.events]

theorem setFormat (alike : first.Alike types second) (typeName format : String) :
    (first.setFormat typeName format).Alike types (second.setFormat typeName format) where
  text := by rw [text_setFormat, text_setFormat, alike.text]
  formats := by
    rw [formats_setFormat, formats_setFormat]
    exact alike.formats.set typeName format
  events := by rw [events_setFormat, events_setFormat, alike.events]

end RenderState.Alike

/-! ### What does the same in states that are alike -/

/-- A part of a rendering ends alike from states that are alike. -/
def Respects (types : List String) (action : RenderState → Walked) : Prop :=
  ∀ first second, first.Alike types second → (action first).Alike types (action second)

namespace Respects

variable {types : List String}

theorem nothing : Respects types fun state => { state } := fun _ _ alike => ⟨alike, rfl⟩

theorem write (text : String) : Respects types fun state => { state := state.write text } :=
  fun _ _ alike => ⟨alike.write text, rfl⟩

theorem fail (error : RenderError) : Respects types fun state => { state, error := some error } :=
  fun _ _ alike => ⟨alike, rfl⟩

theorem andThen {action rest : RenderState → Walked} (respects : Respects types action)
    (behind : Respects types rest) : Respects types fun state => (action state).andThen rest := by
  intro first second alike
  show ((action first).andThen rest).Alike types ((action second).andThen rest)
  obtain ⟨states, errors⟩ := respects first second alike
  unfold Walked.andThen
  rw [errors]
  split
  · exact ⟨states, errors⟩
  · exact behind _ _ states

theorem forEach {α : Type} {action : α → RenderState → Walked} {items : List α}
    (each : ∀ item ∈ items, Respects types (action item)) :
    Respects types (forEach action items) := by
  induction items with
  | nil => exact nothing
  | cons item rest inductionHypothesis =>
    obtain ⟨here, others⟩ := List.forall_mem_cons.mp each
    exact here.andThen (inductionHypothesis others)

/-- The format of an inserted value is that of its type, on which the tables agree. -/
theorem insertValue [Memory] {value : Value} (within : value.typeNames ⊆ types) (name : Name)
    (format : Option String) : Respects types (insertValue name format value) := by
  cases value with
  | nil => exact nothing
  | bool truth => cases truth <;> exact write _
  | string text => exact write text
  | list items => exact fail _
  | map entries => exact fail _
  | formattable object =>
    intro first second alike
    have same : formatFor first.formats format object = formatFor second.formats format object := by
      unfold formatFor
      rw [alike.formats object.typeName (within List.mem_cons_self)]
    rw [Stencil.insertValue, Stencil.insertValue, same]
    split
    · exact write _ _ _ alike
    · exact fail _ _ _ alike

/-- A section is rendered for its value, or for the items of it. -/
theorem enterValue {value : Value} {body : Value → RenderState → Walked}
    (within : value.typeNames ⊆ types)
    (each : ∀ scope : Value, scope.typeNames ⊆ types → Respects types (body scope))
    (name : Name) (inverted : Bool) : Respects types (enterValue name inverted body value) := by
  cases value with
  | nil =>
    cases inverted with
    | false => exact nothing
    | true => exact each _ within
  | bool truth =>
    cases truth <;> cases inverted
    · exact nothing
    · exact each _ within
    · exact each _ within
    · exact nothing
  | string text =>
    cases inverted with
    | false => exact each _ within
    | true => exact fail _
  | map entries =>
    cases inverted with
    | false => exact each _ within
    | true => exact fail _
  | formattable object =>
    cases inverted with
    | false => exact each _ within
    | true => exact fail _
  | list items =>
    have item {item : Value} (member : item ∈ items) : Respects types (body item) :=
      each item (List.Subset.trans (Value.typeNames_subset_of_mem member) within)
    cases inverted with
    | false => exact forEach fun _ member => item member
    | true => exact forEach fun _ member => item (List.mem_reverse.mp member)

end Respects

/-! ### Trees -/

namespace Token

mutual

theorem evaluate_respects [Memory] {types : List String} : ∀ (token : Token) (scopes : Scopes),
    (∀ scope ∈ scopes, scope.typeNames ⊆ types) → Respects types (token.evaluate scopes)
  | text content, _, _ => .write content
  | setFormat typeName format, _, _ => fun _ _ alike => ⟨alike.setFormat typeName format, rfl⟩
  | insert name format, scopes, within => by
    intro first second alike
    rw [evaluate, evaluate]
    cases reached : scopes.seek name.segments with
    | error error => exact Respects.fail _ _ _ alike
    | ok value =>
      exact Respects.insertValue (Scopes.typeNames_seek within reached) _ _ _ _ (alike.note _)
  | block name inverted children, scopes, within => by
    intro first second alike
    rw [evaluate, evaluate]
    cases reached : scopes.seek name.segments with
    | error error => exact Respects.fail _ _ _ alike
    | ok value =>
      have body (scope : Value) (part : scope.typeNames ⊆ types) :
          Respects types (evaluateAll children (scope :: scopes)) :=
        evaluateAll_respects children (scope :: scopes)
          (List.forall_mem_cons.mpr ⟨part, within⟩)
      exact Respects.enterValue (Scopes.typeNames_seek within reached) body _ _ _ _
        (alike.note _)

theorem evaluateAll_respects [Memory] {types : List String} :
    ∀ (tokens : List Token) (scopes : Scopes),
    (∀ scope ∈ scopes, scope.typeNames ⊆ types) → Respects types (evaluateAll tokens scopes)
  | [], _, _ => .nothing
  | token :: rest, scopes, within =>
    (evaluate_respects token scopes within).andThen (evaluateAll_respects rest scopes within)

end

end Token

/-! ### Whole templates -/

/-- Renderings of a template with tables that agree on some types, among them those that occur in
the value, come to the same text or the same error, and leave tables that agree on these types. -/
theorem render_alike [Memory] (tokens : List Token) {types : List String} {root : Value}
    {first second : FormatTable} (within : root.typeNames ⊆ types)
    (agree : first.AgreeOn types second) :
    (render tokens first root).outcome = (render tokens second root).outcome ∧
      (render tokens first root).formats.AgreeOn types (render tokens second root).formats := by
  have alike : ({ formats := first } : RenderState).Alike types { formats := second } :=
    ⟨rfl, agree, rfl⟩
  have scopes : ∀ scope ∈ [root], scope.typeNames ⊆ types := List.forall_mem_singleton.mpr within
  obtain ⟨states, errors⟩ := Token.evaluateAll_respects tokens [root] scopes _ _ alike
  rw [render, render, walk_root, walk_root]
  refine ⟨?_, states.formats⟩
  simp only [Walked.toRendering, errors, states.text]

/-- Only the formats of types that occur in the value matter: tables that agree on these types,
and on whatever other types, lead to the same text or the same error and agree on all of them
again. So a value without formattable values is rendered alike with all tables. -/
theorem render_noninterference [Memory] (tokens : List Token) (root : Value) :
    (∀ types, root.typeNames ⊆ types → ∀ first second : FormatTable, first.AgreeOn types second →
      (render tokens first root).outcome = (render tokens second root).outcome ∧
        (render tokens first root).formats.AgreeOn types (render tokens second root).formats) ∧
    (root.typeNames = [] → ∀ first second : FormatTable,
      (render tokens first root).outcome = (render tokens second root).outcome) := by
  refine ⟨fun types within first second agree => render_alike tokens within agree,
    fun absent first second => ?_⟩
  refine (render_alike tokens (List.Subset.refl _) ?_).1
  rw [absent]
  exact fun typeName member => absurd member List.not_mem_nil

open Memory

/-- The format of a type that does not occur is set and has no part in the text of the colors; on
one more type with the same formats the tables agree behind it too. -/
theorem render_noninterference_colors :
    let tokens : List Token := [
      .block { segments := ["colors"] } false [.insert .self none, .setFormat "date" "d"]]
    let color : Color := { red := 7, green := 8, blue := 9 }
    let root : Value := .map [("colors", .list [.formattable color.toFormattable, .string "."])]
    let first : FormatTable := .ofPairs [("color", "\x7bg\x7d")]
    let second : FormatTable := .ofPairs [("date", "m"), ("color", "\x7bg\x7d")]
    let types := ["size", "color"]
    (root.typeNames ⊆ types ∧ first.AgreeOn types second ∧
      (render tokens first root).outcome = (render tokens second root).outcome ∧
      (render tokens first root).formats.AgreeOn types (render tokens second root).formats) ∧
    (render tokens first (.string "a")).outcome = (render tokens .empty (.string "a")).outcome := by
  intro tokens color root first second types
  have within : root.typeNames ⊆ types := List.subset_cons_self "size" ["color"]
  have agree : first.AgreeOn types second :=
    List.forall_mem_cons.mpr ⟨by decide, List.forall_mem_singleton.mpr (by decide)⟩
  exact ⟨⟨within, agree, (render_noninterference tokens root).1 types within first second agree⟩,
    (render_noninterference tokens (.string "a")).2 rfl first .empty⟩

end Stencil
