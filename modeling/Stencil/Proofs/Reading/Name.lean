/-
This file proves what the readers of texts in quotes and of names read.

A text in quotes is read up to the first quote that no backslash stands before. A name is read
as far as it goes: a name of segments ends only in front of a character that neither belongs to
an identifier nor is a dot, and a dot behind which no identifier begins is a fault.
-/

import Stencil.Proofs.Reading.Rule
import Stencil.Proofs.Reading.Word

namespace Stencil

/-! ### Texts in quotes -/

theorem readQuoted_eq_some_iff {text : List Char} {quoted : QuotedText} :
    readQuoted text = some quoted ↔
      text = quoted.spelling ++ quoted.rest ∧ Quotation quoted.content quoted.spelling := by
  constructor
  · intro read
    refine ⟨(Cursor.readQuoted_length read).symm, ?_⟩
    fun_induction readQuoted text generalizing quoted with
    | case1 => cases read
    | case2 => cases read; exact .closed
    | case3 => cases read
    | case4 escaped rest notQuote inductionHypothesis =>
      obtain ⟨inner, readInner, rfl⟩ := Option.map_eq_some_iff.mp read
      exact .escaped escaped (inductionHypothesis readInner)
    | case5 character rest notQuote notBackslash inductionHypothesis =>
      obtain ⟨inner, readInner, rfl⟩ := Option.map_eq_some_iff.mp read
      exact .plain notQuote notBackslash (inductionHypothesis readInner)
  · obtain ⟨content, spelling, rest⟩ := quoted
    rintro ⟨rfl, quotation⟩
    simp only at quotation ⊢
    induction quotation with
    | closed =>
      unfold readQuoted
      simp
    | plain notQuote notBackslash _ inductionHypothesis =>
      unfold readQuoted
      simp [notQuote, notBackslash, inductionHypothesis]
    | escaped character _ inductionHypothesis =>
      unfold readQuoted
      simp [inductionHypothesis]

/-- No text in quotes ends in a text, whatever it begins with. -/
def Unclosed (text : List Char) : Prop :=
  ∀ content spelling rest, Quotation content spelling → text ≠ spelling ++ rest

theorem readQuoted_eq_none_iff {text : List Char} : readQuoted text = none ↔ Unclosed text := by
  constructor
  · intro absent content spelling rest quotation split
    have read : readQuoted text = some { content, spelling, rest } :=
      readQuoted_eq_some_iff.mpr ⟨split, quotation⟩
    rw [absent] at read
    cases read
  · intro unclosed
    cases read : readQuoted text with
    | none => rfl
    | some quoted =>
      obtain ⟨split, quotation⟩ := readQuoted_eq_some_iff.mp read
      exact absurd split (unclosed _ _ _ quotation)

/-- Behind an opening quote a text in quotes ends somewhere, or it is not closed. -/
theorem exists_quotation_or_unclosed (text : List Char) :
    (∃ (content : String) (quotation rest : List Char), text = quotation ++ rest ∧
      Quotation content.toList quotation) ∨ Unclosed text := by
  cases read : readQuoted text with
  | none => exact .inr (readQuoted_eq_none_iff.mp read)
  | some quoted =>
    obtain ⟨split, quotation⟩ := readQuoted_eq_some_iff.mp read
    exact .inl ⟨String.ofList quoted.content, quoted.spelling, quoted.rest, split,
      by rwa [String.toList_ofList]⟩

/-- The rule of a text in quotes. -/
def quotedRule : Rule String where
  reads content word _ := ∃ spelling, word = '"' :: spelling ∧ Quotation content.toList spelling
  fails kind details word rest :=
    kind = .expectedClosing ∧ details = ["\""] ∧ rest = [] ∧
      ∃ text, word = '"' :: text ∧ Unclosed text

namespace Cursor

theorem quoted?_governed : quotedRule.Governs quoted? where
  read_of := by
    rintro cursor content word rest ahead ⟨spelling, rfl, quotation⟩
    have read : readQuoted (spelling ++ rest) =
        some { content := content.toList, spelling, rest } :=
      readQuoted_eq_some_iff.mpr ⟨rfl, quotation⟩
    simp [quoted?, ahead, read]
  fault_of := by
    rintro cursor kind details word rest ahead ⟨rfl, rfl, rfl, text, rfl, unclosed⟩
    have read := readQuoted_eq_none_iff.mpr unclosed
    rw [List.append_nil] at ahead
    simp [quoted?, ahead, read]
  covers := by
    intro cursor
    cases ahead : cursor.ahead with
    | nil => exact .inl (by simp [quoted?, ahead])
    | cons character text =>
      by_cases quote : character = '"'
      · subst quote
        refine .inr ?_
        rcases exists_quotation_or_unclosed text with
          ⟨content, quotation, rest, rfl, quoted⟩ | unclosed
        · exact .inl ⟨content, '"' :: quotation, rest, rfl, quotation, rfl, quoted⟩
        · exact .inr ⟨_, _, '"' :: text, [], by simp, rfl, rfl, rfl, text, rfl, unclosed⟩
      · exact .inl (by simp [quoted?, ahead, quote])

theorem quoted?_eq_none_iff {cursor : Cursor} :
    cursor.quoted? = .ok none ↔ Stops (· == '"') cursor.ahead := by
  cases ahead : cursor.ahead with
  | nil => simp [quoted?, ahead]
  | cons character text =>
    by_cases quote : character = '"'
    · subst quote
      simp only [quoted?, ahead, if_true, Stops.cons_iff]
      cases readQuoted text <;> simp
    · simp [quoted?, ahead, quote]

end Cursor

/-! ### Names -/

/-- The segments of a name behind the first one, as they are spelled. -/
def dottedTail (segments : List String) : List Char :=
  segments.flatMap fun segment => '.' :: segment.toList

theorem toList_intercalate_dot (segment : String) (segments : List String) :
    (".".intercalate (segment :: segments)).toList = segment.toList ++ dottedTail segments := by
  rw [String.toList_intercalate]
  induction segments generalizing segment with
  | nil => simp [dottedTail]
  | cons next rest inductionHypothesis =>
    rw [List.map_cons, List.map_cons, List.intercalate_cons_cons, ← List.map_cons,
      inductionHypothesis]
    simp [dottedTail]

namespace Name

@[simp] theorem toList_toString_self : (Name.toString .self).toList = ['.'] := rfl

theorem toList_toString_cons (segment : String) (segments : List String) :
    (Name.toString { segments := segment :: segments }).toList =
      segment.toList ++ dottedTail segments :=
  toList_intercalate_dot segment segments

/-- A name that is read in front of a text does not go on into it: the name of the innermost
value itself never does, and every other one does in front of an identifier or a dot. -/
def EndsBefore (name : Name) (text : List Char) : Prop :=
  name.isSelf = true ∨ Stops isNameChar text

theorem EndsBefore.append {name : Name} {text : List Char} (ends : name.EndsBefore text)
    (rest : List Char) (present : text ≠ [] ∨ rest = []) : name.EndsBefore (text ++ rest) :=
  ends.imp_right fun stops => stops.append rest present

theorem EndsBefore.of_append {name : Name} {text rest : List Char}
    (ends : name.EndsBefore (text ++ rest)) (present : text ≠ []) : name.EndsBefore text :=
  ends.imp_right fun stops => stops.of_append present

/-- The first character of a written name is a dot or belongs to an identifier. -/
theorem exists_toList_toString {name : Name} (writable : name.IsWritable) :
    ∃ first rest, name.toString.toList = first :: rest ∧ isNameChar first = true := by
  obtain ⟨segments⟩ := name
  cases segments with
  | nil => exact ⟨'.', [], rfl, by decide⟩
  | cons segment segments =>
    obtain ⟨present, identifier⟩ := writable segment List.mem_cons_self
    obtain ⟨first, rest, spelled⟩ := List.exists_cons_of_ne_nil present
    refine ⟨first, rest ++ dottedTail segments, ?_, ?_⟩
    · rw [toList_toString_cons, spelled, List.cons_append]
    · simp [isNameChar, identifier first (by simp [spelled])]

/-- Behind the blanks in front of a written name there are no more blanks. -/
theorem stops_isBlank {name : Name} (writable : name.IsWritable) (rest : List Char) :
    Stops Text.isBlank (name.toString.toList ++ rest) := by
  obtain ⟨first, others, spelled, inName⟩ := exists_toList_toString writable
  rw [spelled, List.cons_append, Stops.cons_iff]
  exact isBlank_of_isNameChar inName

end Name

/-- The rule of a name. -/
def nameRule : Rule Name where
  reads name word rest :=
    word = name.toString.toList ∧ name.IsWritable ∧ name.EndsBefore rest
  fails kind details word rest :=
    kind = .expectedIdentifier ∧ details = [] ∧ Stops isIdentifierChar rest ∧
      ∃ name : Name, name.isSelf = false ∧ name.IsWritable ∧
        word = name.toString.toList ++ ['.']

namespace Cursor

theorem stops_dottedTail {segments : List String} {rest : List Char}
    (stops : Stops isIdentifierChar rest) :
    Stops isIdentifierChar (dottedTail segments ++ rest) := by
  cases segments with
  | nil => exact stops
  | cons segment segments => simp [dottedTail, show isIdentifierChar '.' = false by decide]

/-- One more segment stands in front of what comes behind it. -/
theorem moreSegments_step {cursor : Cursor} {segment : String} {rest : List Char}
    (ahead : cursor.ahead = '.' :: (segment.toList ++ rest))
    (identifier : IsIdentifier segment.toList) (stops : Stops isIdentifierChar rest) :
    cursor.moreSegments =
      match (cursor.past ('.' :: segment.toList) rest).moreSegments with
      | .error fault => .error fault
      | .ok (segments, final) => .ok (segment :: segments, final) := by
  have accepted : cursor.accept? ['.'] = some (cursor.past ['.'] (segment.toList ++ rest)) :=
    accept?_eq ahead
  have read : (cursor.past ['.'] (segment.toList ++ rest)).identifier? =
      some (segment, cursor.past ('.' :: segment.toList) rest) :=
    identifier?_eq_some_iff.mpr ⟨rest, rfl, by rw [past_past]; rfl, identifier, stops⟩
  rw [moreSegments]
  split
  · rename_i refused
    simp [accepted] at refused
  · rename_i behindDot acceptedDot
    cases accepted.symm.trans acceptedDot
    split
    · rename_i absent
      simp [read] at absent
    · rename_i readSegment
      cases read.symm.trans readSegment
      rfl

theorem dottedTail_cons (segment : String) (segments : List String) (rest : List Char) :
    dottedTail (segment :: segments) ++ rest =
      '.' :: (segment.toList ++ (dottedTail segments ++ rest)) := by
  simp [dottedTail]

theorem moreSegments_eq {cursor : Cursor} {segments : List String} {rest : List Char}
    (ahead : cursor.ahead = dottedTail segments ++ rest)
    (identifiers : ∀ segment ∈ segments, IsIdentifier segment.toList)
    (stops : Stops isNameChar rest) :
    cursor.moreSegments = .ok (segments, cursor.past (dottedTail segments) rest) := by
  obtain ⟨noIdentifier, noDot⟩ := stops_isNameChar_iff.mp stops
  induction segments generalizing cursor with
  | nil =>
    have refused : cursor.accept? ['.'] = none :=
      accept?_singleton_eq_none_iff.mpr (ahead ▸ noDot)
    rw [moreSegments]
    split
    · obtain ⟨_, _, _⟩ := cursor
      simp_all [dottedTail, past]
    · simp_all
  | cons segment segments inductionHypothesis =>
    rw [dottedTail_cons] at ahead
    rw [moreSegments_step ahead (identifiers segment List.mem_cons_self)
      (stops_dottedTail noIdentifier),
      inductionHypothesis rfl
        (fun other member => identifiers other (List.mem_cons_of_mem _ member))]
    simp only [past_past]
    rfl

theorem moreSegments_fault {cursor : Cursor} {segments : List String} {rest : List Char}
    (ahead : cursor.ahead = dottedTail segments ++ '.' :: rest)
    (identifiers : ∀ segment ∈ segments, IsIdentifier segment.toList)
    (stops : Stops isIdentifierChar rest) :
    cursor.moreSegments =
      .error ((cursor.past (dottedTail segments ++ ['.']) rest).fault .expectedIdentifier) := by
  induction segments generalizing cursor with
  | nil =>
    have accepted : cursor.accept? ['.'] = some (cursor.past ['.'] rest) :=
      accept?_singleton_eq ahead
    have absent : (cursor.past ['.'] rest).identifier? = none := identifier?_eq_none_iff.mpr stops
    rw [moreSegments]
    split
    · simp_all
    · rename_i behindDot acceptedDot
      cases accepted.symm.trans acceptedDot
      split
      · rfl
      · simp_all
  | cons segment segments inductionHypothesis =>
    rw [dottedTail_cons] at ahead
    have dot : Stops isIdentifierChar ('.' :: rest) := by
      simp [show isIdentifierChar '.' = false by decide]
    rw [moreSegments_step ahead (identifiers segment List.mem_cons_self) (stops_dottedTail dot),
      inductionHypothesis rfl
        (fun other member => identifiers other (List.mem_cons_of_mem _ member))]
    simp only [past_past]
    simp [dottedTail]

/-- Behind an identifier come further segments, and then either the name ends or a dot is left
behind which no segment begins. -/
def Dotted (text : List Char) : Prop :=
  ∃ (segments : List String) (rest : List Char),
    (∀ segment ∈ segments, IsIdentifier segment.toList) ∧
    ((text = dottedTail segments ++ rest ∧ Stops isNameChar rest) ∨
      (text = dottedTail segments ++ '.' :: rest ∧ Stops isIdentifierChar rest))

theorem Dotted.cons {segment : String} {text : List Char}
    (identifier : IsIdentifier segment.toList) (dotted : Dotted text) :
    Dotted ('.' :: (segment.toList ++ text)) := by
  obtain ⟨segments, rest, identifiers, cases⟩ := dotted
  refine ⟨segment :: segments, rest, List.forall_mem_cons.mpr ⟨identifier, identifiers⟩, ?_⟩
  rw [dottedTail_cons, dottedTail_cons]
  rcases cases with ⟨rfl, stops⟩ | ⟨rfl, stops⟩
  · exact .inl ⟨rfl, stops⟩
  · exact .inr ⟨rfl, stops⟩

theorem dotted_of_stops (cursor : Cursor) (stops : Stops isIdentifierChar cursor.ahead) :
    Dotted cursor.ahead := by
  have step {cursor behindDot next : Cursor} {segment : String}
      (accepted : cursor.accept? ['.'] = some behindDot)
      (read : behindDot.identifier? = some (segment, next))
      (dotted : Stops isIdentifierChar next.ahead → Dotted next.ahead) : Dotted cursor.ahead := by
    obtain ⟨rest, ahead, rfl⟩ := accept?_eq_some accepted
    obtain ⟨behind, aheadSegment, rfl, identifier, stops⟩ := identifier?_eq_some_iff.mp read
    rw [ahead_past] at aheadSegment
    rw [ahead, aheadSegment]
    exact (dotted stops).cons identifier
  -- The recursion of the reader is used only to reach the end of the text.
  fun_induction moreSegments cursor with
  | case1 cursor refused =>
    have noDot := accept?_singleton_eq_none_iff.mp refused
    exact ⟨[], cursor.ahead, List.forall_mem_nil _,
      .inl ⟨rfl, stops_isNameChar_iff.mpr ⟨stops, noDot⟩⟩⟩
  | case2 cursor behindDot accepted absent =>
    obtain ⟨rest, ahead, rfl⟩ := accept?_eq_some accepted
    exact ⟨[], rest, List.forall_mem_nil _, .inr ⟨ahead, identifier?_eq_none_iff.mp absent⟩⟩
  | case3 _ _ accepted _ _ read _ _ inductionHypothesis =>
    exact step accepted read inductionHypothesis
  | case4 _ _ accepted _ _ read _ _ _ inductionHypothesis =>
    exact step accepted read inductionHypothesis

/-- A name that begins with an identifier does not begin with a dot. -/
theorem accept?_dot_eq_none {cursor : Cursor} {word rest : List Char}
    (ahead : cursor.ahead = word ++ rest) (identifier : IsIdentifier word) :
    cursor.accept? ['.'] = none := by
  rw [accept?_singleton_eq_none_iff, ahead]
  refine Stops.of_forall identifier.1 fun character member => ?_
  have inIdentifier := identifier.2 character member
  rw [beq_eq_false_iff_ne]
  rintro rfl
  exact absurd inIdentifier (by decide)

theorem name?_governed : nameRule.Governs name? where
  read_of := by
    rintro cursor ⟨segments⟩ word rest ahead ⟨rfl, writable, ends⟩
    cases segments with
    | nil =>
      change cursor.ahead = '.' :: rest at ahead
      rw [name?, accept?_singleton_eq ahead]
      rfl
    | cons segment segments =>
      obtain ⟨identifier, identifiers⟩ := List.forall_mem_cons.mp writable
      have stops : Stops isNameChar rest := ends.resolve_left (by simp [Name.isSelf])
      rw [Name.toList_toString_cons, List.append_assoc] at ahead
      have stopsSegment : Stops isIdentifierChar (dottedTail segments ++ rest) :=
        stops_dottedTail (stops_isNameChar_iff.mp stops).1
      rw [name?, accept?_dot_eq_none ahead identifier,
        identifier?_eq_some_iff.mpr ⟨_, ahead, rfl, identifier, stopsSegment⟩]
      simp only [moreSegments_eq (ahead_past _ _ _) identifiers stops, past_past,
        Name.toList_toString_cons]
  fault_of := by
    rintro cursor kind details word rest ahead
      ⟨rfl, rfl, stops, ⟨segments⟩, notSelf, writable, rfl⟩
    cases segments with
    | nil => exact absurd notSelf (by decide)
    | cons segment segments =>
      obtain ⟨identifier, identifiers⟩ := List.forall_mem_cons.mp writable
      have tail : segment.toList ++ dottedTail segments ++ ['.'] ++ rest =
          segment.toList ++ (dottedTail segments ++ '.' :: rest) := by simp
      rw [Name.toList_toString_cons, tail] at ahead
      have stopsSegment : Stops isIdentifierChar (dottedTail segments ++ '.' :: rest) :=
        stops_dottedTail (by simp [show isIdentifierChar '.' = false by decide])
      rw [name?, accept?_dot_eq_none ahead identifier,
        identifier?_eq_some_iff.mpr ⟨_, ahead, rfl, identifier, stopsSegment⟩]
      simp only [moreSegments_fault (ahead_past _ _ _) identifiers stops, past_past,
        Name.toList_toString_cons, List.append_assoc]
  covers := by
    intro cursor
    cases accepted : cursor.accept? ['.'] with
    | some next =>
      obtain ⟨rest, ahead, -⟩ := accept?_eq_some accepted
      exact .inr (.inl ⟨.self, ['.'], rest, ahead, rfl, nofun, .inl rfl⟩)
    | none =>
      cases read : cursor.identifier? with
      | none => exact .inl (by simp [name?, accepted, read])
      | some found =>
        obtain ⟨segment, next⟩ := found
        obtain ⟨rest, ahead, rfl, identifier, stops⟩ := identifier?_eq_some_iff.mp read
        obtain ⟨segments, final, identifiers, cases⟩ :=
          dotted_of_stops (cursor.past segment.toList rest) stops
        have writable : Name.IsWritable { segments := segment :: segments } :=
          List.forall_mem_cons.mpr ⟨identifier, identifiers⟩
        refine .inr ?_
        rcases cases with ⟨tail, stops⟩ | ⟨tail, stops⟩
        · refine .inl ⟨{ segments := segment :: segments }, _, final, ?_, rfl, writable, .inr stops⟩
          rw [Name.toList_toString_cons, List.append_assoc, ← tail, ahead]
          rfl
        · refine .inr ⟨.expectedIdentifier, [], _, final, ?_, rfl, rfl, stops,
            { segments := segment :: segments }, rfl, writable, rfl⟩
          rw [Name.toList_toString_cons, List.append_assoc, List.append_assoc, ahead,
            List.singleton_append, ← tail]
          rfl

theorem name?_eq_none_iff {cursor : Cursor} :
    cursor.name? = .ok none ↔ Stops isNameChar cursor.ahead := by
  rw [stops_isNameChar_iff, ← identifier?_eq_none_iff, ← accept?_singleton_eq_none_iff, name?]
  cases cursor.accept? ['.'] with
  | some next => simp
  | none =>
    cases cursor.identifier? with
    | none => simp
    | some found =>
      obtain ⟨segment, next⟩ := found
      simp only [reduceCtorEq, false_and, iff_false]
      cases next.moreSegments <;> simp

end Cursor

end Stencil
