/-
This file proves what a rendering does to the table of formats, also where it fails.

In the line of turns that a template has for a value, only the turns of instructions write to the
table. The table behind a rendering is the one before it with the formats set in it that belong
to the turns that were done, in their order: the last one for a type counts, a type that is new
comes in behind the others when it is first set, and nothing is ever removed. The children of a
section have turns in the passes of the section only, so a section that the rendering does not
come to may hold any trees without an effect.
-/

import Stencil.Proofs.Turns

namespace Stencil

/-! ### Instructions in a template -/

namespace Token

mutual

/-- The formats that stand in the instructions of a tree, at any depth, with their types. -/
def directives : Token → List (String × String)
  | text _ | insert _ _ => []
  | setFormat typeName format => [(typeName, format)]
  | block _ _ children => directivesAll children

/-- The formats that stand in the instructions of a list of trees, with their types. -/
def directivesAll : List Token → List (String × String)
  | [] => []
  | token :: rest => directives token ++ directivesAll rest

end

mutual

/-- A turn that sets a format is that of an instruction. -/
theorem settings_subset_directives : ∀ (token : Token) (scopes : Scopes),
    (token.turns scopes).filterMap Turn.setting? ⊆ token.directives
  | text _, _ => List.nil_subset _
  | insert _ _, _ => List.nil_subset _
  | setFormat _ _, _ => List.Subset.refl _
  | block name inverted children, scopes => by
    rw [turns, List.filterMap_cons, directives]
    intro setting member
    rw [List.filterMap_flatMap] at member
    obtain ⟨pass, _, member⟩ := List.mem_flatMap.mp member
    exact settings_subset_directivesAll children pass member

theorem settings_subset_directivesAll : ∀ (tokens : List Token) (scopes : Scopes),
    (turnsAll tokens scopes).filterMap Turn.setting? ⊆ directivesAll tokens
  | [], _ => List.nil_subset _
  | token :: rest, scopes => by
    rw [turnsAll, List.filterMap_append, directivesAll]
    exact List.append_subset.mpr
      ⟨List.subset_append_of_subset_left _ (settings_subset_directives token scopes),
        List.subset_append_of_subset_right _ (settings_subset_directivesAll rest scopes)⟩

end

end Token

/-! ### What turns do to the table -/

section Done

variable [Memory]

namespace Turn

theorem formats_insert (name : Name) (format : Option String) (scopes : Scopes)
    (state : RenderState) :
    (Token.evaluate (.insert name format) scopes state).state.formats = state.formats := by
  cases resolved : scopes.resolve name with
  | error error => rw [evaluate_insert_of_error resolved]
  | ok value =>
    rw [evaluate_insert resolved]
    split <;> simp

theorem formats_enter (name : Name) (inverted : Bool) (scopes : Scopes) (state : RenderState) :
    (Token.evaluate (.block name inverted []) scopes state).state.formats = state.formats := by
  cases resolved : scopes.resolve name with
  | error error => rw [evaluate_block_of_error resolved]
  | ok value =>
    rw [evaluate_block resolved, Token.evaluateAll_nil]
    split
    · exact state.formats_note _
    · rw [forEach_nothing]
      exact state.formats_note _

/-- A turn sets its own format and no other. -/
theorem formats_act (turn : Turn) (state : RenderState) :
    (turn.act state).state.formats = state.formats.setAll turn.setting?.toList := by
  cases turn with
  | write content => exact state.formats_write content
  | setFormat typeName format => exact state.formats_setFormat typeName format
  | insert name format scopes => exact formats_insert name format scopes state
  | enter name inverted scopes => exact formats_enter name inverted scopes state

/-- A turn that fails sets no format. -/
theorem setting?_of_failed {turn : Turn} {state : RenderState} {error : RenderError}
    (failed : (turn.act state).error = some error) : turn.setting? = none := by
  cases turn with
  | setFormat => cases failed
  | write | insert | enter => rfl

/-- Behind turns the table has the formats of those that were done. -/
theorem formats_forEach (turns : List Turn) (state : RenderState) :
    (forEach act turns state).state.formats =
      state.formats.setAll ((doneOf turns state).filterMap setting?) := by
  induction turns generalizing state with
  | nil => rfl
  | cons turn rest inductionHypothesis =>
    have written := formats_act turn state
    rw [forEach_cons, doneOf]
    cases failure : (turn.act state).error with
    | some error =>
      rw [setting?_of_failed failure] at written
      rw [Walked.andThen, failure]
      exact written
    | none =>
      have settings : (turn :: doneOf rest (turn.act state).state).filterMap setting? =
          turn.setting?.toList ++ (doneOf rest (turn.act state).state).filterMap setting? := by
        cases turn <;> rfl
      rw [Walked.andThen, failure]
      show (forEach act rest (turn.act state).state).state.formats = _
      rw [inductionHypothesis, written, settings, FormatTable.setAll_append]

/-- The turns that are done stand at the beginning of the line. -/
theorem doneOf_prefix (turns : List Turn) (state : RenderState) :
    doneOf turns state <+: turns := by
  induction turns generalizing state with
  | nil => exact List.prefix_refl _
  | cons turn rest inductionHypothesis =>
    rw [doneOf]
    split
    · exact List.nil_prefix
    · exact List.cons_prefix_cons.mpr ⟨rfl, inductionHypothesis _⟩

end Turn

/-- The turns that rendering a template does, up to its end or to the turn that fails. -/
def turnsDone (tokens : List Token) (formats : FormatTable) (root : Value) : List Turn :=
  Turn.doneOf (Token.turnsAll tokens [root]) { formats }

/-- The formats that rendering a template sets, with their types and in their order. -/
def settingsDone (tokens : List Token) (formats : FormatTable) (root : Value) :
    List (String × String) :=
  (turnsDone tokens formats root).filterMap Turn.setting?

/-- The table behind a rendering has the formats that were set before it ended or failed. -/
theorem formats_render_eq (tokens : List Token) (formats : FormatTable) (root : Value) :
    (render tokens formats root).formats =
      formats.setAll (settingsDone tokens formats root) := by
  rw [render_eq_turns]
  exact Turn.formats_forEach _ _

theorem settingsDone_subset (tokens : List Token) (formats : FormatTable) (root : Value) :
    settingsDone tokens formats root ⊆ Token.directivesAll tokens :=
  List.Subset.trans ((Turn.doneOf_prefix _ _).sublist.filterMap _).subset
    (Token.settings_subset_directivesAll tokens [root])

/-- A rendering that gives a text has done all turns, and one that fails has done those in front of
the one that failed. -/
theorem turnsDone_spec (tokens : List Token) (formats : FormatTable) (root : Value) :
    let done := turnsDone tokens formats root
    match (render tokens formats root).outcome with
    | .ok _ => done = Token.turnsAll tokens [root]
    | .error error => ∃ turn rest, Token.turnsAll tokens [root] = done ++ turn :: rest ∧
        (turn.act (forEach Turn.act done { formats }).state).error = some error := by
  have spec := Turn.doneOf_spec (Token.turnsAll tokens [root]) { formats }
  rw [render_eq_turns, Walked.toRendering]
  cases failure : (forEach Turn.act (Token.turnsAll tokens [root]) { formats }).error with
  | none =>
    rw [failure] at spec
    exact spec
  | some error =>
    rw [failure] at spec
    obtain ⟨turn, rest, split, _, failed⟩ := spec
    exact ⟨turn, rest, split, failed⟩

end Done

/-! ### The children of one section -/

/-- A section with the trees around it, but without its children. -/
structure Enclosure where
  before : List Token
  name : Name
  inverted : Bool
  after : List Token

namespace Enclosure

/-- The template in which sections stand in each other, the outermost one first, and the innermost
one has the given children. -/
def fill : List Enclosure → List Token → List Token
  | [], children => children
  | outermost :: inner, children =>
    outermost.before ++
      .block outermost.name outermost.inverted (fill inner children) :: outermost.after

/-- The lists of turns, one for each choice of children, are one list, or behind some turns that
they have in common comes the first pass of the children. -/
def Approaches (turns : List Token → List Turn) : Prop :=
  (∃ always, ∀ children, turns children = always) ∨
    ∃ before pass, ∀ children, ∃ rest,
      turns children = before ++ Token.turnsAll children pass ++ rest

theorem Approaches.behind {turns : List Token → List Turn} (approaches : Approaches turns)
    (first : List Turn) : Approaches fun children => first ++ turns children := by
  rcases approaches with ⟨always, same⟩ | ⟨before, pass, comes⟩
  · exact .inl ⟨first ++ always, fun children => congrArg (first ++ ·) (same children)⟩
  · refine .inr ⟨first ++ before, pass, fun children => ?_⟩
    obtain ⟨rest, split⟩ := comes children
    refine ⟨rest, ?_⟩
    show first ++ turns children = _
    rw [split, List.append_assoc, List.append_assoc, List.append_assoc]

theorem Approaches.append {first second : List Token → List Turn}
    (approaches : Approaches first) (further : Approaches second) :
    Approaches fun children => first children ++ second children := by
  rcases approaches with ⟨always, same⟩ | ⟨before, pass, comes⟩
  · obtain rfl : first = fun _ => always := funext same
    exact further.behind always
  · refine .inr ⟨before, pass, fun children => ?_⟩
    obtain ⟨rest, split⟩ := comes children
    refine ⟨rest ++ second children, ?_⟩
    show first children ++ second children = _
    rw [split, List.append_assoc]

theorem Approaches.flatMap {α : Type} {turns : α → List Token → List Turn}
    (each : ∀ item, Approaches (turns item)) (items : List α) :
    Approaches fun children => items.flatMap fun item => turns item children := by
  induction items with
  | nil => exact .inl ⟨[], fun _ => rfl⟩
  | cons item rest inductionHypothesis =>
    simp only [List.flatMap_cons]
    exact (each item).append inductionHypothesis

/-- The turns in front of the first pass of a section do not depend on its children. -/
theorem turnsAll_fill (around : List Enclosure) (scopes : Scopes) :
    Approaches fun children => Token.turnsAll (fill around children) scopes := by
  induction around generalizing scopes with
  | nil => exact .inr ⟨[], scopes, fun children => ⟨[], (List.append_nil _).symm⟩⟩
  | cons outermost inner inductionHypothesis =>
    have passes := Approaches.flatMap (fun pass => inductionHypothesis pass)
      (passesOf outermost.name outermost.inverted scopes)
    have after : Approaches fun _ => Token.turnsAll outermost.after scopes :=
      .inl ⟨_, fun _ => rfl⟩
    simp only [fill, Token.turnsAll_append, Token.turnsAll, Token.turns]
    exact ((passes.behind [_]).append after).behind _

/-- A rendering enters the innermost of some sections, whatever its children are: it does without
failing all turns in front of the first pass of the children. -/
def Entered [Memory] (around : List Enclosure) (formats : FormatTable) (root : Value) : Prop :=
  ∃ before pass, (forEach Turn.act before { formats }).error = none ∧
    ∀ children, ∃ rest, Token.turnsAll (fill around children) [root] =
      before ++ Token.turnsAll children pass ++ rest

/-- The children of a section that is not entered have no part in a rendering. -/
theorem render_fill_of_not_entered [Memory] {around : List Enclosure} {formats : FormatTable}
    {root : Value} (passedBy : ¬ Entered around formats root) (first second : List Token) :
    render (fill around first) formats root = render (fill around second) formats root := by
  rw [render_eq_turns, render_eq_turns]
  rcases turnsAll_fill around [root] with ⟨always, same⟩ | ⟨before, pass, comes⟩
  · exact congrArg (fun turns => (forEach Turn.act turns { formats }).toRendering)
      ((same first).trans (same second).symm)
  · cases failure : (forEach Turn.act before { formats }).error with
    | none => exact absurd ⟨before, pass, failure, comes⟩ passedBy
    | some error =>
      have stops (children : List Token) :
          forEach Turn.act (Token.turnsAll (fill around children) [root]) { formats } =
            forEach Turn.act before { formats } := by
        obtain ⟨rest, split⟩ := comes children
        simp only [split, List.append_assoc, forEach_append, Walked.andThen, failure]
      rw [stops first, stops second]

end Enclosure

/-! ### The table behind a rendering -/

/-- What a rendering does to the table of formats, whether it gives a text or fails. -/
theorem render_formats_frame [Memory] (tokens : List Token) (formats : FormatTable) (root : Value) :
    let done := turnsDone tokens formats root
    let written := settingsDone tokens formats root
    let behind := (render tokens formats root).formats
    render tokens formats root =
      (forEach Turn.act (Token.turnsAll tokens [root]) { formats }).toRendering ∧
    (match (render tokens formats root).outcome with
      | .ok _ => done = Token.turnsAll tokens [root]
      | .error error => ∃ turn rest, Token.turnsAll tokens [root] = done ++ turn :: rest ∧
          (turn.act (forEach Turn.act done { formats }).state).error = some error) ∧
    written ⊆ Token.directivesAll tokens ∧
    (∀ typeName, behind.get? typeName =
      ((written.filter fun setting => setting.1 = typeName).getLast?.map Prod.snd).or
        (formats.get? typeName)) ∧
    (∀ typeName, typeName ∉ (Token.directivesAll tokens).map Prod.fst →
      behind.get? typeName = formats.get? typeName) ∧
    (formats.entries.keys <+: behind.entries.keys ∧ behind.entries.keys.Nodup ∧
      behind.entries.keys = (formats.entries.keys ++ written.map Prod.fst).eraseDups) ∧
    ∀ around children, tokens = Enclosure.fill around children →
      ¬ Enclosure.Entered around formats root → ∀ others,
        render (Enclosure.fill around others) formats root = render tokens formats root := by
  have subset := settingsDone_subset tokens formats root
  have table := formats_render_eq tokens formats root
  refine ⟨render_eq_turns tokens formats root, turnsDone_spec tokens formats root, subset,
    fun typeName => ?_,
    fun typeName absent => ?_, ⟨?_, FormatTable.unique _, ?_⟩,
    fun around children filled passedBy others => ?_⟩
  · rw [table, FormatTable.get?_setAll]
  · rw [table]
    refine FormatTable.get?_setAll_of_not_mem (fun member => absent ?_) _
    exact List.map_subset _ subset member
  · rw [table]
    exact FormatTable.keys_prefix_setAll _ _
  · rw [table, FormatTable.keys_setAll]
  · rw [filled]
    exact Enclosure.render_fill_of_not_entered passedBy others children

open Memory

/-- A rendering fails at a list behind two passes over it. The type that is set in both stands
behind those of the table, the instruction in a section that is passed by and the one behind the
failure have no effect. -/
theorem render_formats_frame_failing :
    let list : Name := { segments := ["list"] }
    let off : Enclosure := {
      before := []
      name := { segments := ["off"] }
      inverted := false
      after := [.block list false [.setFormat "size" "m"], .insert list none,
        .setFormat "color" "late"] }
    let tokens := Enclosure.fill [off] [.setFormat "color" "never"]
    let root : Value := .map [("off", .bool false), ("list", .list [.nil, .string "a"])]
    let formats : FormatTable := .ofPairs [("color", "\x7bg\x7d"), ("date", "d")]
    let behind := (render tokens formats root).formats
    (render tokens formats root).outcome = .error (.cannotInsertCollection "list" "array") ∧
      settingsDone tokens formats root = [("size", "m"), ("size", "m")] ∧
      behind.get? "size" = some "m" ∧
      ("date" ∉ (Token.directivesAll tokens).map Prod.fst ∧
        behind.get? "date" = formats.get? "date") ∧
      behind.entries.keys = ["color", "date", "size"] ∧
      ¬ Enclosure.Entered [off] formats root ∧
      ∀ others, render (Enclosure.fill [off] others) formats root = render tokens formats root := by
  intro list off tokens root formats behind
  have written : settingsDone tokens formats root = [("size", "m"), ("size", "m")] := by
    with_unfolding_all rfl
  obtain ⟨_, _, _, last, untouched, ⟨_, _, order⟩, idle⟩ :=
    render_formats_frame tokens formats root
  have absent : "date" ∉ (Token.directivesAll tokens).map Prod.fst := by decide
  have passedBy : ¬ Enclosure.Entered [off] formats root := by
    rintro ⟨before, pass, _, comes⟩
    obtain ⟨rest, split⟩ := comes [.text "a"]
    have turns : Token.turnsAll (Enclosure.fill [off] [.text "a"]) [root] =
        [.enter off.name false [root], .enter list false [root], .setFormat "size" "m",
          .setFormat "size" "m", .insert list none [root], .setFormat "color" "late"] := by
      with_unfolding_all rfl
    have member : Turn.write "a" ∈ Token.turnsAll (Enclosure.fill [off] [.text "a"]) [root] := by
      rw [split]
      simp [Token.turnsAll, Token.turns]
    rw [turns] at member
    simp at member
  refine ⟨by with_unfolding_all rfl, written, ?_, ⟨absent, untouched "date" absent⟩, ?_, passedBy,
    idle [off] _ rfl passedBy⟩
  · refine (last "size").trans ?_
    rw [written]
    rfl
  · refine order.trans ?_
    rw [written]
    decide

end Stencil
