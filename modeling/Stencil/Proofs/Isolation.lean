/-
This file proves that the templates of a collection are isolated from each other.

Every template has a history of its own: the request that made it and the steps that it took
since, and for a copy, in front of them, the history that its ancestor had when the copy was
taken. In an empty collection this history makes the same template again, with the same formats,
and every rendering in it has the result that it had among all other requests. What is done with
a template after it was copied stands in no history of the copy, and the other way round.
-/

import Stencil.Proofs.Steps

namespace Stencil.Collection

/-! ### The history of one template -/

namespace Request

/-- The template that a request copies, if it copies one. -/
def source? : Request → Option Nat
  | copy number => some number
  | _ => none

/-- The same step or copy, asked of the template of another number. -/
def forNumber (number : Nat) : Request → Request
  | setFormat _ typeName format => setFormat number typeName format
  | render _ datum => render number datum
  | copy _ => copy number
  | request => request

variable {request : Request} {step : Template.Step}

theorem forNumber_forNumber (request : Request) (first second : Nat) :
    (request.forNumber first).forNumber second = request.forNumber second := by
  cases request <;> rfl

theorem stepOn?_forNumber {number : Nat} (taken : request.stepOn? number = some step)
    (other : Nat) : (request.forNumber other).stepOn? other = some step := by
  cases request with
  | setFormat | render =>
    rw [← (Option.ite_none_right_eq_some.mp taken).2]
    exact if_pos rfl
  | _ => cases taken

end Request

variable {files : Files.Tree}

theorem made?_of_stepOn? {request : Request} {step : Template.Step} {number : Nat}
    (taken : request.stepOn? number = some step) (collection : Collection) :
    collection.made? files request = none := by
  cases request with
  | setFormat | render => rfl
  | _ => cases taken

/-- What is made of nothing that is there is the same in every collection. -/
theorem made?_of_source?_eq_none {request : Request} (original : request.source? = none)
    (first second : Collection) : first.made? files request = second.made? files request := by
  cases request with
  | copy => cases original
  | _ => rfl

/-- The number of the template that came in last. -/
def newest (collection : Collection) : Nat := collection.templates.length - 1

section Own

variable [Memory]

/-- The history of one template on its own, in which it is always the newest one. It holds the
request that made the template and the steps that the template took; in front of a copy stands
the history that its source had until then. -/
def ownHistory (files : Files.Tree) : History → Nat → History
  | [], _ => []
  | last :: earlier, number =>
    if number < (after files earlier).templates.length then
      let own := ownHistory files earlier number
      if (last.stepOn? number).isSome then last.forNumber (after files own).newest :: own else own
    else if number < (after files (last :: earlier)).templates.length then
      match last.source? with
      | some source =>
        let own := ownHistory files earlier source
        last.forNumber (after files own).newest :: own
      | none => [last]
    else []

section Equations

variable {last : Request} {earlier : History} {number : Nat} {template : Template}

theorem ownHistory_of_step {step : Template.Step}
    (found : (after files earlier).get? number = some template)
    (taken : last.stepOn? number = some step) :
    ownHistory files (last :: earlier) number =
      last.forNumber (after files (ownHistory files earlier number)).newest ::
        ownHistory files earlier number := by
  rw [ownHistory, if_pos (lt_of_get? found), if_pos (by rw [taken]; rfl)]

theorem ownHistory_of_idle (found : (after files earlier).get? number = some template)
    (idle : last.stepOn? number = none) :
    ownHistory files (last :: earlier) number = ownHistory files earlier number := by
  rw [ownHistory, if_pos (lt_of_get? found), if_neg (by rw [idle]; exact Bool.false_ne_true)]

theorem ownHistory_of_made (made : (after files earlier).made? files last = some template) :
    ownHistory files (last :: earlier) (after files earlier).templates.length =
      match last.source? with
      | some source =>
        last.forNumber (after files (ownHistory files earlier source)).newest ::
          ownHistory files earlier source
      | none => [last] := by
  have inside : (after files earlier).templates.length <
      (after files (last :: earlier)).templates.length :=
    lt_of_get? ((effect_after files last earlier).get?_length.trans made)
  rw [ownHistory, if_neg (Nat.lt_irrefl _), if_pos inside]

end Equations

/-! ### The template in its own history -/

section Newest

variable {collection behind : Collection} {request : Request} {template : Template}

/-- A template that is there behind a request was there before it or has been made by it. -/
theorem Effect.there_or_made (effect : Effect files collection request behind) {number : Nat}
    (found : behind.get? number = some template) :
    (∃ before, collection.get? number = some before) ∨
      number = collection.templates.length ∧ collection.made? files request = some template := by
  have inside := lt_of_get? found
  by_cases there : number < collection.templates.length
  · exact .inl ⟨_, List.getElem?_eq_getElem there⟩
  · obtain rfl : number = collection.templates.length := by
      rw [effect.length_templates] at inside
      have atMost := (collection.made? files request).length_toList_le
      omega
    exact .inr ⟨rfl, effect.get?_length.symm.trans found⟩

theorem Effect.get?_newest_of_made (effect : Effect files collection request behind)
    (made : collection.made? files request = some template) :
    behind.get? behind.newest = some template := by
  have last : behind.newest = collection.templates.length := by
    rw [newest, effect.length_templates, made]
    rfl
  rw [last, effect.get?_length, made]

theorem Effect.get?_newest_of_step {step : Template.Step}
    (effect : Effect files collection request behind)
    (taken : request.stepOn? collection.newest = some step)
    (found : collection.get? collection.newest = some template) :
    behind.get? behind.newest = some (template.step step) := by
  have same : behind.newest = collection.newest := by
    rw [newest, effect.length_templates, made?_of_stepOn? taken]
    rfl
  have carried := effect.carries collection.newest template found
  rwa [taken, ← same] at carried

end Newest

/-- The history of a template on its own makes the template as all requests together do. -/
theorem get?_ownHistory {history : History} {number : Nat} {template : Template}
    (found : (after files history).get? number = some template) :
    (after files (ownHistory files history number)).get?
      (after files (ownHistory files history number)).newest = some template := by
  -- The number is general: the history of a copy goes on in that of its source.
  induction history generalizing number template with
  | nil => cases found
  | cons last earlier inductionHypothesis =>
    have effect := effect_after files last earlier
    rcases effect.there_or_made found with ⟨before, there⟩ | ⟨rfl, made⟩
    · have alone := inductionHypothesis there
      have carried := (effect.carries number before there).symm.trans found
      obtain rfl := Option.some.inj carried
      cases taken : last.stepOn? number with
      | none =>
        rw [ownHistory_of_idle there taken]
        exact alone
      | some step =>
        rw [ownHistory_of_step there taken]
        exact (effect_after files _ _).get?_newest_of_step (Request.stepOn?_forNumber taken _) alone
    · rw [ownHistory_of_made made]
      cases copied : last.source? with
      | none =>
        -- What is parsed, built or loaded can as well be the first of all templates.
        rw [made?_of_source?_eq_none copied _ (after files [])] at made
        exact (effect_after files last []).get?_newest_of_made made
      | some source =>
        obtain rfl : last = .copy source := by
          cases last with
          | copy => exact congrArg Request.copy (Option.some.inj copied)
          | _ => cases copied
        exact (effect_after files _ _).get?_newest_of_made (inductionHypothesis made)

/-- What is asked later comes in the history of a template behind what it had before. -/
theorem exists_ownHistory_append {earlier : History} {number : Nat} {template : Template}
    (found : (after files earlier).get? number = some template) (later : History) :
    ∃ front, ownHistory files (later ++ earlier) number =
      front ++ ownHistory files earlier number := by
  induction later with
  | nil => exact ⟨[], rfl⟩
  | cons last later inductionHypothesis =>
    obtain ⟨front, split⟩ := inductionHypothesis
    have still := carries_after files number later earlier template found
    cases taken : last.stepOn? number with
    | none => exact ⟨front, by rw [List.cons_append, ownHistory_of_idle still taken, split]⟩
    | some step =>
      refine ⟨last.forNumber
        (after files (ownHistory files (later ++ earlier) number)).newest :: front, ?_⟩
      rw [List.cons_append, ownHistory_of_step still taken, split, List.cons_append]

/-- The history of a template holds requests of the whole one, in their order, for templates of
other numbers. -/
theorem ownHistory_sublist (history : History) (number : Nat) :
    ((ownHistory files history number).map (Request.forNumber 0)).Sublist
      (history.map (Request.forNumber 0)) := by
  induction history generalizing number with
  | nil => exact .slnil
  | cons last earlier inductionHypothesis =>
    have moved (own : History) (other source : Nat)
        (kept : own = ownHistory files earlier source) :
        ((last.forNumber other :: own).map (Request.forNumber 0)).Sublist
          ((last :: earlier).map (Request.forNumber 0)) := by
      rw [kept, List.map_cons, List.map_cons, Request.forNumber_forNumber]
      exact (inductionHypothesis source).cons_cons _
    rw [ownHistory]
    split
    · split
      · exact moved _ _ number rfl
      · exact (inductionHypothesis number).cons _
    · split
      · split
        · exact moved _ _ _ rfl
        · exact List.singleton_sublist.mpr List.mem_cons_self
      · exact List.nil_sublist _

/-! ### Isolation -/

/-- A rendering answers what its template and the data make of it, wherever the template stands. -/
theorem reply_render {first second : Collection} {number other : Nat} {template : Template}
    (found : first.get? number = some template) (same : second.get? other = some template)
    (datum : Datum) :
    (first.perform files (.render number datum)).reply =
      (second.perform files (.render other datum)).reply := by
  simp only [perform, renderAt, withTemplate_of_get? found, withTemplate_of_get? same]

/-- A template is what its own history makes of it. Nothing changes its trees; in its own
history, which holds some of the requests of the whole one, it comes to the same formats, and
every rendering has the same result; and requests that take no step with it, such as those for
its copies and for the template that it was copied from, leave it as it is. -/
theorem templates_isolated (files : Files.Tree) (history : History) (number : Nat)
    {template : Template} (found : (after files history).get? number = some template) :
    let own := ownHistory files history number
    (∀ later, ∃ changed, (after files (later ++ history)).get? number = some changed ∧
      changed.tokens = template.tokens) ∧
    (own.map (Request.forNumber 0)).Sublist (history.map (Request.forNumber 0)) ∧
    (after files own).get? (after files own).newest = some template ∧
    (∀ earlier later datum before, history = later ++ .render number datum :: earlier →
      (after files earlier).get? number = some before →
        let ownBefore := ownHistory files earlier number
        let alone := Request.render (after files ownBefore).newest datum
        (∃ front, own = front ++ alone :: ownBefore) ∧
          ((after files ownBefore).perform files alone).reply =
            ((after files earlier).perform files (.render number datum)).reply) ∧
    ∀ later, (∀ request ∈ later, request.stepOn? number = none) →
      (after files (later ++ history)).get? number = some template := by
  have carried (later : History) := carries_after files number later history template found
  refine ⟨fun later => ⟨_, carried later, template.tokens_after _⟩,
    ownHistory_sublist history number, get?_ownHistory found, ?_, fun later idle => ?_⟩
  · intro earlier later datum before split there
    have taken : (Request.render number datum).stepOn? number = some (.render datum) := if_pos rfl
    constructor
    · have still := carries_after files number [.render number datum] earlier before there
      obtain ⟨front, cut⟩ := exists_ownHistory_append still later
      rw [List.singleton_append, ownHistory_of_step there taken] at cut
      exact ⟨front, split ▸ cut⟩
    · exact reply_render (get?_ownHistory there) there datum
  · rw [carried later, List.filterMap_eq_nil_iff.mpr idle]
    rfl

end Own

open Memory

/-- The copy writes in the format that a rendering gave its ancestor before it was taken, and not
in the one that the ancestor is given behind it. -/
theorem templates_isolated_copy :
    let color : Datum := .formattable (Color.toFormattable { red := 7, green := 8, blue := 9 })
    let original : Template := { tokens := [.insert .self none, .setFormat "color" "\x7bg\x7d"] }
    let making : Request := .build original.tokens []
    let earlier : History := [.setFormat 0 "color" "\x7br\x7d", .copy 0, .render 0 color, making]
    let history : History := .render 0 color :: .render 1 color :: earlier
    let copied := original.after [.render color, .render color]
    let ownBefore := ownHistory .empty earlier 1
    (after .empty history).get? 1 = some copied ∧
      ownBefore = [.copy 0, .render 0 color, making] ∧
      (after .empty (ownHistory .empty history 1)).get?
          (after .empty (ownHistory .empty history 1)).newest = some copied ∧
      ((after .empty ownBefore).perform .empty
          (.render (after .empty ownBefore).newest color)).reply =
        ((after .empty earlier).perform .empty (.render 1 color)).reply := by
  intro color original making earlier history copied ownBefore
  have found : (after .empty history).get? 1 = some copied := rfl
  have there : (after .empty earlier).get? 1 = some (original.after [.render color]) := rfl
  have own : ownBefore = [.copy 0, .render 0 color, making] := by with_unfolding_all rfl
  obtain ⟨-, -, same, renderings, -⟩ := templates_isolated .empty history 1 found
  exact ⟨found, own, same, (renderings earlier [.render 0 color] color _ rfl there).2⟩

end Stencil.Collection
