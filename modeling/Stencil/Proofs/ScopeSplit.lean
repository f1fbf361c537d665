/-
This file proves that a stack of scopes can be cut in two for the look-up of a name.

The scopes in front either settle the name, by a value that one of them holds or by a bad index
in one of their lists, or they are exhausted and leave a rest of the name. What they settle stays
so whatever scopes stand behind them; what they leave is looked up in those. So nil that was
found is not the nil of a stack that has come to its end, and a scope without parts leaves every
name as it is unless the name has no segments.
-/

import Stencil.Lookup

namespace Stencil

/-! ### Paths inside a value -/

namespace Value

/-- A value has parts that a segment of a name can stand for. -/
def hasParts : Value → Bool
  | list _ | map _ => true
  | nil | bool _ | string _ | formattable _ => false

/-- A path leads from a value to a part of it. -/
inductive Leads : Value → List String → Value → Prop where
  | here (value : Value) : Leads value [] value
  | item {items : List Value} {segment : String} {index : Nat} {item reached : Value}
      {path : List String} (read : parseIndex segment = .ok index)
      (inside : items[index]? = some item) (further : Leads item path reached) :
      Leads (list items) (segment :: path) reached
  | entry {entries : List (String × Value)} {segment : String} {value reached : Value}
      {path : List String} (found : Entries.find? entries segment = some value)
      (further : Leads value path reached) : Leads (map entries) (segment :: path) reached

/-- A value leaves a segment to other scopes: it has no parts, or it is a map without this key.
A list never does. -/
def Lacks (value : Value) (segment : String) : Prop :=
  match value with
  | list _ => False
  | map entries => Entries.find? entries segment = none
  | nil | bool _ | string _ | formattable _ => True

/-- A segment is no index of a list. -/
inductive BadIndex (items : List Value) (segment : String) : LookupError → Prop where
  | unread {error : LookupError} (refused : parseIndex segment = .error error) :
      BadIndex items segment error
  | outside {index : Nat} (read : parseIndex segment = .ok index)
      (outside : items[index]? = none) : BadIndex items segment (.outOfBounds index items.length)

/-- A path ends at a part of a scope, or comes to a list and goes on with a bad index there, or
comes to a part that leaves the rest of the path to other scopes. -/
inductive Ends (scope : Value) : List String → Followed → Prop where
  | found {path : List String} {reached : Value} (leads : scope.Leads path reached) :
      Ends scope path (.found reached)
  | failed {before behind : List String} {segment : String} {items : List Value}
      {error : LookupError} (leads : scope.Leads before (list items))
      (bad : BadIndex items segment error) :
      Ends scope (before ++ segment :: behind) (.failed error)
  | stuck {before behind : List String} {segment : String} {reached : Value}
      (leads : scope.Leads before reached) (lacks : reached.Lacks segment) :
      Ends scope (before ++ segment :: behind) (.stuck (segment :: behind))

theorem follow_nil (value : Value) : value.follow [] = .found value := by rw [follow]

/-- Behind a path that leads to a part the rest is followed from there. -/
theorem follow_of_leads {scope reached : Value} {path : List String}
    (leads : scope.Leads path reached) (behind : List String) :
    scope.follow (path ++ behind) = reached.follow behind := by
  induction leads with
  | here => rfl
  | item read inside _ inductionHypothesis =>
    rw [List.cons_append, follow, read]
    simp only [inside, inductionHypothesis]
  | entry found _ inductionHypothesis =>
    rw [List.cons_append, follow, found]
    exact inductionHypothesis

theorem follow_of_lacks {value : Value} {segment : String} (lacks : value.Lacks segment)
    (behind : List String) : value.follow (segment :: behind) = .stuck (segment :: behind) := by
  cases value with
  | list items => exact lacks.elim
  | map entries => rw [follow, show Entries.find? entries segment = none from lacks]
  | nil | bool | string | formattable => rw [follow]

theorem follow_of_badIndex {items : List Value} {segment : String} {error : LookupError}
    (bad : BadIndex items segment error) (behind : List String) :
    (list items).follow (segment :: behind) = .failed error := by
  cases bad with
  | unread refused => rw [follow, refused]
  | outside read outside =>
    rw [follow, read]
    simp only [outside]

theorem Ends.item {items : List Value} {segment : String} {index : Nat} {item : Value}
    {path : List String} {followed : Followed} (read : parseIndex segment = .ok index)
    (inside : items[index]? = some item) (ends : item.Ends path followed) :
    (list items).Ends (segment :: path) followed := by
  cases ends with
  | found leads => exact .found (.item read inside leads)
  | failed leads bad => exact .failed (.item read inside leads) bad
  | stuck leads lacks => exact .stuck (.item read inside leads) lacks

theorem Ends.entry {entries : List (String × Value)} {segment : String} {value : Value}
    {path : List String} {followed : Followed}
    (found : Entries.find? entries segment = some value) (ends : value.Ends path followed) :
    (map entries).Ends (segment :: path) followed := by
  cases ends with
  | found leads => exact .found (.entry found leads)
  | failed leads bad => exact .failed (.entry found leads) bad
  | stuck leads lacks => exact .stuck (.entry found leads) lacks

theorem ends_follow (path : List String) (scope : Value) :
    scope.Ends path (scope.follow path) := by
  fun_induction follow path scope with
  | case1 scope => exact .found (.here scope)
  | case2 segment rest items error refused => exact .failed (.here _) (.unread refused)
  | case3 segment rest items index read outside =>
    exact .failed (.here _) (.outside read outside)
  | case4 segment rest items index read item inside inductionHypothesis =>
    exact .item read inside inductionHypothesis
  | case5 segment rest entries missing => exact .stuck (.here _) missing
  | case6 segment rest entries value found inductionHypothesis =>
    exact .entry found inductionHypothesis
  | case7 | case8 | case9 | case10 => exact .stuck (.here _) trivial

/-- Following a path comes to the one end that the path has. -/
theorem follow_eq_iff {scope : Value} {path : List String} {followed : Followed} :
    scope.follow path = followed ↔ scope.Ends path followed := by
  refine ⟨fun same => same ▸ ends_follow path scope, fun ends => ?_⟩
  cases ends with
  | found leads => rw [← List.append_nil path, follow_of_leads leads, follow_nil]
  | failed leads bad => rw [follow_of_leads leads, follow_of_badIndex bad]
  | stuck leads lacks => rw [follow_of_leads leads, follow_of_lacks lacks]

end Value

/-! ### Paths in a stack of scopes -/

namespace Scopes

/-- The scopes of a stack settle a path: one of them holds what it leads to or has a bad index in
it, and those in front of this one have left it what there is of the path. -/
inductive Concludes : List String → Scopes → Except LookupError Value → Prop where
  | found {path : List String} {scope reached : Value} (ends : scope.Ends path (.found reached))
      (outer : Scopes) : Concludes path (scope :: outer) (.ok reached)
  | failed {path : List String} {scope : Value} {error : LookupError}
      (ends : scope.Ends path (.failed error)) (outer : Scopes) :
      Concludes path (scope :: outer) (.error error)
  | further {path rest : List String} {scope : Value} {outer : Scopes}
      {outcome : Except LookupError Value} (ends : scope.Ends path (.stuck rest))
      (concludes : Concludes rest outer outcome) : Concludes path (scope :: outer) outcome

/-- The scopes of a stack leave a rest of a path: each of them leaves one to the next. -/
inductive Exhausts : List String → Scopes → List String → Prop where
  | nothing (path : List String) : Exhausts path [] path
  | further {path rest left : List String} {scope : Value} {outer : Scopes}
      (ends : scope.Ends path (.stuck rest)) (exhausts : Exhausts rest outer left) :
      Exhausts path (scope :: outer) left

theorem lookup_of_stuck {path rest : List String} {scope : Value}
    (ends : scope.Ends path (.stuck rest)) (outer : Scopes) :
    lookup path (scope :: outer) = lookup rest outer := by
  rw [lookup, Value.follow_eq_iff.mpr ends]

/-- What the scopes in front settle stays so. -/
theorem Concludes.lookup_append {path : List String} {inner : Scopes}
    {outcome : Except LookupError Value} (concludes : Concludes path inner outcome)
    (outer : Scopes) : lookup path (inner ++ outer) = outcome := by
  induction concludes with
  | found ends between | failed ends between =>
    rw [List.cons_append, lookup, Value.follow_eq_iff.mpr ends]
  | further ends _ inductionHypothesis =>
    rw [List.cons_append, lookup_of_stuck ends]
    exact inductionHypothesis

/-- What the scopes in front leave is looked up in the scopes behind them. -/
theorem Exhausts.lookup_append {path left : List String} {inner : Scopes}
    (exhausts : Exhausts path inner left) (outer : Scopes) :
    lookup path (inner ++ outer) = lookup left outer := by
  induction exhausts with
  | nothing => rfl
  | further ends _ inductionHypothesis =>
    rw [List.cons_append, lookup_of_stuck ends]
    exact inductionHypothesis

theorem Exhausts.suffix {path left : List String} {inner : Scopes}
    (exhausts : Exhausts path inner left) : left <:+ path := by
  induction exhausts with
  | nothing => exact List.suffix_refl _
  | further ends _ inductionHypothesis =>
    obtain ⟨_, _⟩ := ends
    exact inductionHypothesis.trans (List.suffix_append _ _)

/-- The scopes of a stack settle a path or are exhausted. -/
theorem concludes_or_exhausts (path : List String) (inner : Scopes) :
    (∃ outcome, Concludes path inner outcome) ∨ ∃ left, Exhausts path inner left := by
  induction inner generalizing path with
  | nil => exact .inr ⟨path, .nothing path⟩
  | cons scope outer inductionHypothesis =>
    have ends := Value.ends_follow path scope
    cases followed : scope.follow path with
    | found reached => exact .inl ⟨.ok reached, .found (followed ▸ ends) outer⟩
    | failed error => exact .inl ⟨.error error, .failed (followed ▸ ends) outer⟩
    | stuck rest =>
      rw [followed] at ends
      rcases inductionHypothesis rest with ⟨outcome, concludes⟩ | ⟨left, exhausts⟩
      · exact .inl ⟨outcome, .further ends concludes⟩
      · exact .inr ⟨left, .further ends exhausts⟩

theorem Exhausts.unique {path left other : List String} {inner : Scopes}
    (exhausts : Exhausts path inner left) (again : Exhausts path inner other) : other = left := by
  induction exhausts with
  | nothing =>
    cases again
    rfl
  | further ends _ inductionHypothesis =>
    obtain _ | ⟨endsAgain, again⟩ := again
    have same := (Value.follow_eq_iff.mpr endsAgain).symm.trans (Value.follow_eq_iff.mpr ends)
    cases same
    exact inductionHypothesis again

theorem Exhausts.not_concludes {path left : List String} {inner : Scopes}
    (exhausts : Exhausts path inner left) (outcome : Except LookupError Value) :
    ¬ Concludes path inner outcome := by
  induction exhausts with
  | nothing => exact nofun
  | further ends _ inductionHypothesis =>
    have stuck := Value.follow_eq_iff.mpr ends
    rintro (⟨found, _⟩ | ⟨failed, _⟩ | ⟨endsAgain, concludes⟩)
    · cases stuck.symm.trans (Value.follow_eq_iff.mpr found)
    · cases stuck.symm.trans (Value.follow_eq_iff.mpr failed)
    · cases stuck.symm.trans (Value.follow_eq_iff.mpr endsAgain)
      exact inductionHypothesis concludes

/-! ### Scopes that change nothing -/

/-- A result other than nil and an error stay as they are when scopes are added further out. -/
theorem lookup_append_of_ne_nil {path : List String} {inner : Scopes}
    (settled : lookup path inner ≠ .ok .nil) (outer : Scopes) :
    lookup path (inner ++ outer) = lookup path inner := by
  rcases concludes_or_exhausts path inner with ⟨outcome, concludes⟩ | ⟨left, exhausts⟩
  · rw [concludes.lookup_append, ← List.append_nil inner, concludes.lookup_append]
  · have exhausted : lookup path inner = lookup left [] := by
      rw [← List.append_nil inner, exhausts.lookup_append]
    exact absurd exhausted settled

theorem lookup_of_not_hasParts {scope : Value} (plain : scope.hasParts = false)
    {path : List String} (segments : path ≠ []) (outer : Scopes) :
    lookup path (scope :: outer) = lookup path outer := by
  obtain ⟨segment, rest, rfl⟩ := List.exists_cons_of_ne_nil segments
  have lacks : scope.Lacks segment := by
    cases scope with
    | list | map => cases plain
    | nil | bool | string | formattable => trivial
  exact lookup_of_stuck (.stuck (.here scope) lacks) outer

/-- Scopes without parts can be left out of the look-up of a name that has segments. -/
theorem lookup_filter_hasParts {path : List String} (segments : path ≠ []) (scopes : Scopes) :
    lookup path (scopes.filter Value.hasParts) = lookup path scopes := by
  induction scopes generalizing path with
  | nil => rfl
  | cons scope outer inductionHypothesis =>
    cases parts : scope.hasParts with
    | false =>
      rw [List.filter_cons_of_neg (by simp [parts]), lookup_of_not_hasParts parts segments]
      exact inductionHypothesis segments
    | true =>
      rw [List.filter_cons_of_pos parts, lookup, lookup]
      cases followed : scope.follow path with
      | found | failed => rfl
      | stuck rest =>
        obtain ⟨_, _⟩ := Value.follow_eq_iff.mp followed
        exact inductionHypothesis (List.cons_ne_nil _ _)

/-! ### Cutting a stack in two -/

/-- The scopes in front settle a path, for all stacks behind them, or they are exhausted and leave
a rest of the path that they alone determine, and the stack behind them looks that up. So a result
other than nil and an error never change with more scopes, and for a path with segments two stacks
that differ in scopes without parts are as good as each other. -/
theorem lookup_splits :
    (∀ (path : List String) (inner : Scopes),
      (∃ outcome, Concludes path inner outcome ∧
        ∀ outer, lookup path (inner ++ outer) = outcome) ∨
      (∃ left, Exhausts path inner left ∧ (∀ other, Exhausts path inner other → other = left) ∧
        (∀ outcome, ¬ Concludes path inner outcome) ∧ left <:+ path ∧
        lookup path inner = .ok .nil ∧
        ∀ outer, lookup path (inner ++ outer) = lookup left outer)) ∧
    (∀ (path : List String) (inner : Scopes), lookup path inner ≠ .ok .nil →
      ∀ outer, lookup path (inner ++ outer) = lookup path inner) ∧
    (∀ path : List String, path ≠ [] → ∀ first second : Scopes,
      first.filter Value.hasParts = second.filter Value.hasParts →
        lookup path first = lookup path second) := by
  refine ⟨fun path inner => ?_, fun path inner => lookup_append_of_ne_nil,
    fun path segments first second same => ?_⟩
  · rcases concludes_or_exhausts path inner with ⟨outcome, concludes⟩ | ⟨left, exhausts⟩
    · exact .inl ⟨outcome, concludes, concludes.lookup_append⟩
    · have exhausted := exhausts.lookup_append []
      rw [List.append_nil] at exhausted
      exact .inr ⟨left, exhausts, fun other => exhausts.unique, exhausts.not_concludes,
        exhausts.suffix, exhausted, exhausts.lookup_append⟩
  · rw [← lookup_filter_hasParts segments first, same, lookup_filter_hasParts segments second]

/-- A map that knows the first segment leaves the second one to the scopes further out, an item of
a list is found for good, and nil and a boolean are passed over. -/
theorem lookup_splits_partial_hit :
    let inner : Scopes := [.map [("a", .map [("c", .list [.string "x"])])]]
    let padded : Scopes := [.nil, .map [("a", .map [("c", .list [.string "x"])])], .bool true]
    let outer : Scopes := [.map [("b", .string "y")]]
    (∃ left, Exhausts ["a", "b"] inner left ∧ lookup ["a", "b"] (inner ++ outer) =
      lookup left outer ∧ lookup ["a", "b"] (inner ++ outer) = .ok (.string "y")) ∧
    (lookup ["a", "c", "0"] inner = .ok (.string "x") ∧
      lookup ["a", "c", "0"] (inner ++ outer) = .ok (.string "x")) ∧
    (["a", "c"] ≠ [] ∧ inner.filter Value.hasParts = padded.filter Value.hasParts ∧
      lookup ["a", "c"] inner = lookup ["a", "c"] padded) := by
  intro inner padded outer
  have item : lookup ["a", "c", "0"] inner = .ok (.string "x") := by with_unfolding_all rfl
  have settled : lookup ["a", "c", "0"] inner ≠ .ok .nil := by
    rw [item]
    nofun
  have apart : lookup ["a", "b"] inner ≠ lookup ["a", "b"] (inner ++ outer) := nofun
  refine ⟨?_, ⟨item, (lookup_splits.2.1 _ inner settled outer).trans item⟩, by simp, rfl,
    lookup_splits.2.2 ["a", "c"] (by simp) inner padded rfl⟩
  rcases lookup_splits.1 ["a", "b"] inner with
    ⟨outcome, _, same⟩ | ⟨left, exhausts, _, _, _, _, rest⟩
  · exact absurd ((same []).trans (same outer).symm) apart
  · exact ⟨left, exhausts, rest outer, rfl⟩

end Scopes

end Stencil
