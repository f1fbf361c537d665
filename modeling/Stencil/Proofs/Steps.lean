/-
This file says once what a request does to the templates of a collection.

A template that is there changes only where a format of its own is set or where it is itself
rendered; these are the steps that a template can take, and none of them changes its trees. A
template that is made comes in behind the others. Nothing else happens to a collection, so that
a whole history of requests is to every single template the list of its own steps.

Steps and requests that have been made stand in a history with the last one first.
-/

import Stencil.Collection

namespace Stencil

/-! ### The steps of a template -/

namespace Template

/-- Something that is done with a template and may change its formats. -/
inductive Step where
  | setFormat (typeName format : String)
  | render (datum : Datum)

variable [Memory]

/-- The template behind a step. -/
def step (template : Template) : Step → Template
  | .setFormat typeName format => template.setFormat typeName format
  | .render datum => (template.render datum).template

/-- The template behind a history of steps. -/
def after (template : Template) : List Step → Template
  | [] => template
  | last :: earlier => (template.after earlier).step last

theorem after_append (template : Template) (later earlier : List Step) :
    template.after (later ++ earlier) = (template.after earlier).after later := by
  induction later with
  | nil => rfl
  | cons last later inductionHypothesis => rw [List.cons_append, after, inductionHypothesis, after]

theorem tokens_render (template : Template) (datum : Datum) :
    (template.render datum).template.tokens = template.tokens := by
  rw [render]
  cases datum.toValue <;> rfl

theorem tokens_after (template : Template) (history : List Step) :
    (template.after history).tokens = template.tokens := by
  induction history with
  | nil => rfl
  | cons last earlier inductionHypothesis =>
    rw [after, ← inductionHypothesis]
    cases last with
    | setFormat _ _ => rfl
    | render datum => exact tokens_render _ datum

end Template

theorem filterMap_cons_toList {α β : Type} (pick : α → Option β) (first : α) (rest : List α) :
    (first :: rest).filterMap pick = (pick first).toList ++ rest.filterMap pick := by
  rw [List.filterMap_cons]
  cases pick first <;> rfl

namespace Collection

variable {files : Files.Tree} {collection : Collection}

/-! ### Templates by their numbers -/

theorem get?_eq_none_iff {number : Nat} :
    collection.get? number = none ↔ collection.templates.length ≤ number :=
  List.getElem?_eq_none_iff

theorem lt_of_get? {number : Nat} {template : Template}
    (found : collection.get? number = some template) : number < collection.templates.length :=
  (List.getElem?_eq_some_iff.mp found).1

theorem withTemplate_of_get? {number : Nat} {template : Template}
    (found : collection.get? number = some template) (use : Template → Performed) :
    collection.withTemplate number use = use template := by rw [withTemplate, found]

theorem withTemplate_of_absent {number : Nat} (absent : collection.get? number = none)
    (use : Template → Performed) :
    collection.withTemplate number use = { collection, reply := .absent number } := by
  rw [withTemplate, absent]

/-! ### What a request does -/

/-- The template that a request makes in a collection, if it makes one. -/
def made? (files : Files.Tree) (collection : Collection) : Request → Option Template
  | .parse source opening closing => (Template.parse source opening closing).outcome.toOption
  | .build tokens formats => some { tokens, formats := .ofPairs formats }
  | .load path encoding opening closing =>
    (Template.load files path encoding opening closing).outcome.toOption
  | .copy number => collection.get? number
  | _ => none

/-- The step that a request takes with the template of a number, if it takes one with it. -/
def Request.stepOn? (number : Nat) : Request → Option Template.Step
  | .setFormat other typeName format =>
    if other = number then some (.setFormat typeName format) else none
  | .render other datum => if other = number then some (.render datum) else none
  | _ => none

variable [Memory]

/-- What a request does to the templates of a collection: nothing, or it makes one more, or it
takes a step with one of them. -/
inductive Effect (files : Files.Tree) (collection : Collection) (request : Request) :
    Collection → Prop where
  | stays (unmade : collection.made? files request = none)
      (idle : ∀ number < collection.templates.length, request.stepOn? number = none) :
      Effect files collection request collection
  | makes {template : Template} (made : collection.made? files request = some template)
      (idle : ∀ number, request.stepOn? number = none) :
      Effect files collection request (collection.add template)
  | steps {number : Nat} {template : Template} (step : Template.Step)
      (found : collection.get? number = some template)
      (unmade : collection.made? files request = none)
      (taken : ∀ other, request.stepOn? other = if number = other then some step else none) :
      Effect files collection request (collection.replace number (template.step step))

/-- A request that makes a template makes no other one and takes no step. -/
theorem effect_take {request : Request} {made : Run Template}
    (makes : collection.made? files request = made.outcome.toOption)
    (idle : ∀ number, request.stepOn? number = none) :
    Effect files collection request (collection.take made).collection := by
  rw [take]
  cases outcome : made.outcome with
  | error failure =>
    rw [outcome] at makes
    exact .stays makes fun number _ => idle number
  | ok template =>
    rw [outcome] at makes
    exact .makes makes idle

/-- A request for a template of a number does nothing where there is none. -/
theorem effect_withTemplate {request : Request} {number : Nat} {use : Template → Performed}
    (unmade : collection.get? number = none → collection.made? files request = none)
    (idle : ∀ other, number ≠ other → request.stepOn? other = none)
    (used : ∀ template, collection.get? number = some template →
      Effect files collection request (use template).collection) :
    Effect files collection request (collection.withTemplate number use).collection := by
  cases found : collection.get? number with
  | none =>
    rw [withTemplate_of_absent found]
    refine .stays (unmade found) fun other inside => idle other fun same => ?_
    exact Nat.not_le_of_lt inside (same ▸ get?_eq_none_iff.mp found)
  | some template =>
    rw [withTemplate_of_get? found]
    exact used template found

theorem effect_perform (files : Files.Tree) (collection : Collection) (request : Request) :
    Effect files collection request (collection.perform files request).collection := by
  have quiet {request : Request} (unmade : collection.made? files request = none)
      (idle : ∀ number, request.stepOn? number = none) :
      Effect files collection request collection := .stays unmade fun number _ => idle number
  cases request with
  | parse source opening closing => exact effect_take rfl fun _ => rfl
  | build tokens formats => exact effect_take rfl fun _ => rfl
  | load path encoding opening closing => exact effect_take rfl fun _ => rfl
  | copy number =>
    exact effect_withTemplate id (fun _ _ => rfl) fun template found =>
      effect_take found fun _ => rfl
  | setFormat number typeName format =>
    exact effect_withTemplate (fun _ => rfl) (fun _ other => if_neg other) fun template found =>
      .steps (.setFormat typeName format) found rfl fun _ => rfl
  | render number datum =>
    exact effect_withTemplate (fun _ => rfl) (fun _ other => if_neg other) fun template found =>
      .steps (.render datum) found rfl fun _ => rfl
  | formats number | tokens number | describe number =>
    exact effect_withTemplate (fun _ => rfl) (fun _ _ => rfl) fun _ _ => quiet rfl fun _ => rfl
  | compare number other =>
    refine effect_withTemplate (fun _ => rfl) (fun _ _ => rfl) fun _ _ => ?_
    cases other with
    | none => exact quiet rfl fun _ => rfl
    | some other =>
      exact effect_withTemplate (fun _ => rfl) (fun _ _ => rfl) fun _ _ => quiet rfl fun _ => rfl

/-! ### What becomes of one template -/

/-- The template that has a number in a collection has it in another one too, where it has taken
some steps. -/
def Carries (number : Nat) (steps : List Template.Step) (collection behind : Collection) : Prop :=
  ∀ template, collection.get? number = some template →
    behind.get? number = some (template.after steps)

theorem Carries.refl (number : Nat) (collection : Collection) :
    Carries number [] collection collection := fun _ found => found

theorem Carries.trans {number : Nat} {first second : List Template.Step}
    {start middle behind : Collection} (before : Carries number first start middle)
    (next : Carries number second middle behind) :
    Carries number (second ++ first) start behind := by
  intro template found
  rw [Template.after_append]
  exact next _ (before template found)

theorem carries_add (collection : Collection) (template : Template) (number : Nat) :
    Carries number [] collection (collection.add template) := fun _ found =>
  (get?_add_of_lt collection template (lt_of_get? found)).trans found

section Single

variable {request : Request} {behind : Collection}

/-- A request makes at most one template. -/
theorem Effect.length_templates (effect : Effect files collection request behind) :
    behind.templates.length =
      collection.templates.length + (collection.made? files request).toList.length := by
  cases effect with
  | stays unmade => rw [unmade]; rfl
  | makes made => rw [made]; simp [add]
  | steps _ _ unmade => rw [unmade]; simp [replace]

/-- A template that is there takes the step that the request takes with it, if any. -/
theorem Effect.carries (effect : Effect files collection request behind) (number : Nat) :
    Carries number (request.stepOn? number).toList collection behind := by
  cases effect with
  | stays _ idle =>
    intro template found
    rw [idle number (lt_of_get? found)]
    exact found
  | makes _ idle =>
    rw [idle number]
    exact carries_add _ _ number
  | @steps other stepping step present _ taken =>
    intro template found
    rw [get?_replace, taken]
    -- Both sides ask whether the template is the one that takes the step.
    by_cases same : other = number
    · obtain rfl : stepping = template := by
        rw [same, found] at present
        exact (Option.some.inj present).symm
      rw [if_pos same, if_pos same, found]
      rfl
    · rw [if_neg same, if_neg same]
      exact found

/-- A template that is made stands behind the others. -/
theorem Effect.get?_length (effect : Effect files collection request behind) :
    behind.get? collection.templates.length = collection.made? files request := by
  cases effect with
  | stays unmade => rw [unmade, get?_eq_none_iff.mpr (Nat.le_refl _)]
  | makes made => rw [made, get?_add_length]
  | steps _ _ unmade => rw [unmade, get?_eq_none_iff]; simp [replace]

end Single

/-! ### Histories -/

/-- What was asked of a collection, the last request first. -/
abbrev History := List Request

/-- The collection that a history leaves behind, which is empty before it. -/
def after (files : Files.Tree) : History → Collection
  | [] => {}
  | last :: earlier => ((after files earlier).perform files last).collection

theorem effect_after (files : Files.Tree) (last : Request) (earlier : History) :
    Effect files (after files earlier) last (after files (last :: earlier)) :=
  effect_perform files _ last

/-- A template that is there takes its own steps and no others, whatever else is asked. -/
theorem carries_after (files : Files.Tree) (number : Nat) (later earlier : History) :
    Carries number (later.filterMap (Request.stepOn? number)) (after files earlier)
      (after files (later ++ earlier)) := by
  induction later with
  | nil => exact .refl number _
  | cons last later inductionHypothesis =>
    rw [filterMap_cons_toList]
    exact inductionHypothesis.trans
      ((effect_after files last (later ++ earlier)).carries number)

end Collection

end Stencil
