/-
This file proves what a plain format string comes to.

A plain format string is a row of pieces: literal text, in which every brace is doubled, and
fields that have a key and nothing else. It is written piece by piece, and each piece is written
before anything behind it is read. So the pieces come to their texts one behind the other, or to
the first key that the value does not know, and in that case whatever stands behind the field has
no part in the answer, also where no format string could go on like that. A field that is named
numbers no field, so the numbering never comes to a fault on the way.
-/

import Stencil.Proofs.FormatErrors

namespace Stencil

/-! ### Plain format strings -/

/-- The value as it stands in a field that asks for nothing else. -/
def Primitive.shown : Primitive → String
  | text value => value
  | integer value => toString value
  | real value => value.text

/-- A value in a field without a specification is written as it stands, unless it is an integer of
too many digits. -/
theorem Primitive.format_nil [Memory] (value : Primitive)
    (short : ∀ number, value = .integer number →
      (Number.decimalDigits number.natAbs).length ≤ Number.maxDigits) :
    value.format [] = .ok value.shown.toList := by
  cases value with
  | text value => rfl
  | integer number =>
    have written : ¬ Number.isTooLong number = true := by
      simpa only [Number.isTooLong, decide_eq_true_eq, Nat.not_lt] using short number rfl
    simp only [format, if_true, display, if_neg written]
    rfl
  | real value => rfl

/-- The characters that mean something in a format string or in the name of a field. -/
def fieldMarks : List Char := ['\x7b', '\x7d', '[', '!', ':']

/-- A key that can be the whole of a field. Dots and digits are characters like any other. -/
def IsPlainKey (key : String) : Prop :=
  key.toList ≠ [] ∧ ∀ character ∈ key.toList, character ∉ fieldMarks

instance (key : String) : Decidable (IsPlainKey key) :=
  decidable_of_iff
    (key.toList ≠ [] ∧ key.toList.all (fun character => !fieldMarks.contains character) = true)
    (and_congr_right fun _ => by simp)

/-- A text in which every brace is written twice. -/
def doubled (text : List Char) : List Char :=
  text.flatMap fun character =>
    if character = '\x7b' ∨ character = '\x7d' then [character, character] else [character]

/-- A piece of a plain format string. -/
inductive Piece where
  | literal (content : String)
  | field (key : String)
  deriving DecidableEq, Repr

namespace Piece

/-- How a piece is spelled in a format string. -/
def spelled : Piece → List Char
  | literal content => doubled content.toList
  | field key => '\x7b' :: (key.toList ++ ['\x7d'])

/-- Pieces one behind the other. -/
def spelling (pieces : List Piece) : List Char := pieces.flatMap spelled

end Piece

/-- What pieces come to: their texts one behind the other, or the first key that the value does
not know. -/
def Formattable.plainText (object : Formattable) : List Piece → Except String String
  | [] => .ok ""
  | .literal content :: rest => (object.plainText rest).map (content ++ ·)
  | .field key :: rest =>
    match object.placeholder? key with
    | none => .error key
    | some value => (object.plainText rest).map (value.shown ++ ·)

/-! ### Reading a piece -/

theorem readFieldName_plain {name : List Char} (rest : List Char)
    (plain : ∀ character ∈ name, character ∉ fieldMarks) :
    readFieldName false (name ++ '\x7d' :: rest) = .ok { name, mark := '\x7d', rest } := by
  induction name with
  | nil => rfl
  | cons first name inductionHypothesis =>
    obtain ⟨unmarked, plain⟩ := List.forall_mem_cons.mp plain
    simp only [fieldMarks, List.mem_cons, List.not_mem_nil, or_false, not_or] at unmarked
    obtain ⟨notOpening, notClosing, notBracket, notMark, notColon⟩ := unmarked
    rw [List.cons_append, readFieldName, if_neg Bool.false_ne_true, if_neg notOpening,
      if_neg (by simp only [notClosing, notColon, notMark, or_self, not_false_iff]),
      decide_eq_false notBracket, inductionHypothesis plain]
    rfl

/-- Behind an opening brace a plain key is read up to the closing one. -/
theorem readChunk_field {key : String} (plain : IsPlainKey key) (rest : List Char) :
    readChunk ('\x7b' :: (key.toList ++ '\x7d' :: rest)) =
      .ok { literal := [], field := some { name := key.toList }, rest } := by
  obtain ⟨present, plain⟩ := plain
  have read : readField (key.toList ++ '\x7d' :: rest) = .ok ({ name := key.toList }, rest) := by
    rw [readField, readFieldName_plain rest plain]
    rfl
  obtain ⟨first, others, spelled⟩ := List.exists_cons_of_ne_nil present
  have notOpening : first ≠ '\x7b' := by
    rintro rfl
    exact plain '\x7b' (by simp [spelled]) (by decide)
  rw [readChunk, read]
  simp [spelled, notOpening]
  rfl

namespace Numbering

/-! ### Numbering in front of named fields -/

/-- No field has been numbered automatically so far. -/
def TakesNames : Numbering → Prop
  | automatic next => next = 0
  | manual => True

/-- The key of a field that has a name is this name, and the field is not numbered. -/
theorem TakesNames.exists_keyOf {numbering : Numbering} {key : String}
    (takesNames : numbering.TakesNames) (plain : IsPlainKey key) :
    ∃ next : Numbering, next.TakesNames ∧ numbering.keyOf key.toList = .ok (key, next) := by
  unfold keyOf
  rw [if_neg plain.1, String.ofList_toList]
  split
  · cases numbering with
    | automatic next =>
      obtain rfl : next = 0 := takesNames
      exact ⟨.manual, trivial, rfl⟩
    | manual => exact ⟨.manual, trivial, rfl⟩
  · exact ⟨numbering, takesNames, rfl⟩

end Numbering

namespace Formattable

/-! ### Writing a piece -/

/-- A text in front of what else is written. -/
def Expanded.behind (written : List Char) (expanded : Expanded) : Expanded :=
  expanded.map fun (more, numbering) => (written ++ more, numbering)

@[simp] theorem Expanded.behind_nil (expanded : Expanded) : expanded.behind [] = expanded := by
  cases expanded <;> rfl

theorem Expanded.behind_behind (first second : List Char) (expanded : Expanded) :
    (expanded.behind second).behind first = expanded.behind (first ++ second) := by
  cases expanded <;> simp [behind, Except.map]

section Pieces

variable [Memory] {object : Formattable} {specify : List Char → Numbering → Expanded}
  {numbering : Numbering}

theorem expandWith_nil : object.expandWith specify [] numbering = .ok ([], numbering) := by
  rw [expandWith, dif_neg (by simp)]

/-- A character of literal text is written in front of what else is written. -/
theorem expandWith_plain {character : Char} (rest : List Char)
    (noBrace : ¬ (character = '\x7b' ∨ character = '\x7d')) :
    object.expandWith specify (character :: rest) numbering =
      (object.expandWith specify rest numbering).behind [character] := by
  have read : readChunk (character :: rest) =
      (readChunk rest).map fun chunk => { chunk with literal := character :: chunk.literal } := by
    rw [readChunk, if_neg noBrace]
  rw [expandWith_eq (List.cons_ne_nil _ _), read]
  by_cases more : rest = []
  · subst more
    rw [expandWith_nil]
    show (object.expandWith specify [] numbering).map _ = _
    rw [expandWith_nil]
    rfl
  rw [expandWith_eq more]
  rcases readChunk rest with fault | ⟨literal, - | field, behind⟩
  · rfl
  · simp only [Except.map]
    cases object.expandWith specify behind numbering <;> rfl
  · simp only [Except.map]
    cases object.expandField specify field numbering with
    | error error => rfl
    | ok value =>
      obtain ⟨value, next⟩ := value
      simp only
      cases object.expandWith specify behind next <;> rfl

/-- A doubled brace is written once. -/
theorem expandWith_brace {character : Char} (rest : List Char)
    (brace : character = '\x7b' ∨ character = '\x7d') :
    object.expandWith specify (character :: character :: rest) numbering =
      (object.expandWith specify rest numbering).behind [character] := by
  have read : readChunk (character :: character :: rest) =
      .ok { literal := [character], rest } := by
    rw [readChunk, if_pos brace, if_pos List.head?_cons]
    rfl
  rw [expandWith_eq (List.cons_ne_nil _ _), read]
  rfl

theorem expandWith_doubled (content rest : List Char) :
    object.expandWith specify (doubled content ++ rest) numbering =
      (object.expandWith specify rest numbering).behind content := by
  induction content with
  | nil => exact (Expanded.behind_nil _).symm
  | cons character content inductionHypothesis =>
    rw [doubled, List.flatMap_cons, ← doubled, List.append_assoc]
    split
    · rename_i brace
      rw [List.cons_append, List.singleton_append, expandWith_brace _ brace, inductionHypothesis,
        Expanded.behind_behind, List.singleton_append]
    · rename_i noBrace
      rw [List.singleton_append, expandWith_plain _ noBrace, inductionHypothesis,
        Expanded.behind_behind, List.singleton_append]

/-- A plain field is written in front of what else is written. -/
theorem expandWith_field {key : String} {written : List Char} {next : Numbering}
    (plain : IsPlainKey key) (rest : List Char)
    (expanded : object.expandField specify { name := key.toList } numbering =
      .ok (written, next)) :
    object.expandWith specify ('\x7b' :: (key.toList ++ '\x7d' :: rest)) numbering =
      (object.expandWith specify rest next).behind written := by
  rw [expandWith_eq (List.cons_ne_nil _ _), readChunk_field plain]
  simp only [expanded]
  rfl

end Pieces

section Run

variable [Memory] {object : Formattable} {levels : Nat} {numbering : Numbering} {key : String}

/-! ### Writing a row of pieces -/

/-- A plain field whose key is not known fails by this key. -/
theorem expandField_unknown {specify : List Char → Numbering → Expanded} {next : Numbering}
    (named : numbering.keyOf key.toList = .ok (key, next))
    (unknown : object.placeholder? key = none) :
    object.expandField specify { name := key.toList } numbering =
      .error (.unknownPlaceholder key) := by
  simp only [expandField, named, fieldValue, unknown]

/-- A plain field whose key is known is written as its value stands. -/
theorem expandField_known {next : Numbering} {value : Primitive}
    (named : numbering.keyOf key.toList = .ok (key, next))
    (known : object.placeholder? key = some value)
    (short : ∀ number, value = .integer number →
      (Number.decimalDigits number.natAbs).length ≤ Number.maxDigits) :
    object.expandField (object.expand (levels + 1)) { name := key.toList } numbering =
      .ok (value.shown.toList, next) := by
  have unspecified : object.expand (levels + 1) [] next = .ok ([], next) := expandWith_nil
  simp only [expandField, named, fieldValue, known, unspecified, value.format_nil short]
  rfl

/-- A row of pieces comes to its text, in front of whatever a tail is written as, or to the first
key that is not known, whatever the tail is. -/
theorem expand_spelling {pieces : List Piece} (takesNames : numbering.TakesNames)
    (plain : ∀ key, .field key ∈ pieces → IsPlainKey key)
    (short : ∀ key number, .field key ∈ pieces → object.placeholder? key = some (.integer number) →
      (Number.decimalDigits number.natAbs).length ≤ Number.maxDigits) :
    (∃ text last, object.plainText pieces = .ok text ∧
      ∀ tail, object.expand (levels + 2) (Piece.spelling pieces ++ tail) numbering =
        (object.expand (levels + 2) tail last).behind text.toList) ∨
    ∃ key, object.plainText pieces = .error key ∧
      ∀ tail, object.expand (levels + 2) (Piece.spelling pieces ++ tail) numbering =
        .error (.unknownPlaceholder key) := by
  -- The fields in front leave a numbering that takes names, so the induction is over all of these.
  induction pieces generalizing numbering with
  | nil => exact .inl ⟨"", numbering, rfl, fun tail => (Expanded.behind_nil _).symm⟩
  | cons piece rest inductionHypothesis =>
    have later {next : Numbering} (takesNames : next.TakesNames) :=
      inductionHypothesis takesNames (fun key member => plain key (.tail _ member))
        fun key number member => short key number (.tail _ member)
    cases piece with
    | literal content =>
      have written (tail : List Char) :
          object.expand (levels + 2) (Piece.spelling (.literal content :: rest) ++ tail) numbering =
            (object.expand (levels + 2) (Piece.spelling rest ++ tail) numbering).behind
              content.toList := by
        rw [Piece.spelling, List.flatMap_cons, ← Piece.spelling, List.append_assoc]
        exact expandWith_doubled _ _
      obtain ⟨text, last, comes, expanded⟩ | ⟨key, unknown, fails⟩ := later takesNames
      · refine .inl ⟨content ++ text, last, by simp only [plainText, comes]; rfl, fun tail => ?_⟩
        rw [written, expanded, Expanded.behind_behind, String.toList_append]
      · refine .inr ⟨key, by simp only [plainText, unknown]; rfl, fun tail => ?_⟩
        rw [written, fails]
        rfl
    | field key =>
      have isPlain := plain key List.mem_cons_self
      obtain ⟨next, takesNext, named⟩ := takesNames.exists_keyOf isPlain
      have spelled (tail : List Char) : Piece.spelling (.field key :: rest) ++ tail =
          '\x7b' :: (key.toList ++ '\x7d' :: (Piece.spelling rest ++ tail)) := by
        simp [Piece.spelling, Piece.spelled]
      cases known : object.placeholder? key with
      | none =>
        refine .inr ⟨key, by simp only [plainText, known], fun tail => ?_⟩
        rw [spelled]
        exact expandWith_of_reaches (.here (readChunk_field isPlain _))
          (expandField_unknown named known)
      | some value =>
        have written (tail : List Char) :
            object.expand (levels + 2) (Piece.spelling (.field key :: rest) ++ tail) numbering =
              (object.expand (levels + 2) (Piece.spelling rest ++ tail) next).behind
                value.shown.toList := by
          rw [spelled]
          refine expandWith_field isPlain _ (expandField_known named known ?_)
          rintro number rfl
          exact short key number List.mem_cons_self known
        obtain ⟨text, last, comes, expanded⟩ | ⟨missing, unknown, fails⟩ := later takesNext
        · refine .inl ⟨value.shown ++ text, last, by simp only [plainText, known, comes]; rfl,
            fun tail => ?_⟩
          rw [written, expanded, Expanded.behind_behind, String.toList_append]
        · refine .inr ⟨missing, by simp only [plainText, known, unknown]; rfl, fun tail => ?_⟩
          rw [written, fails]
          rfl

end Run

/-! ### What a plain format string comes to -/

/-- A plain format string comes to its literal texts and the values behind its keys, one behind the
other, if all keys are known. If not, it comes to the first key that is not known, whatever stands
behind the pieces. -/
theorem renderAs_spelling [Memory] {object : Formattable} {pieces : List Piece}
    (plain : ∀ key, .field key ∈ pieces → IsPlainKey key)
    (short : ∀ key number, .field key ∈ pieces → object.placeholder? key = some (.integer number) →
      (Number.decimalDigits number.natAbs).length ≤ Number.maxDigits) :
    (∀ text, object.plainText pieces = .ok text →
      object.renderAs (some (String.ofList (Piece.spelling pieces))) = .ok text) ∧
    ∀ key, object.plainText pieces = .error key →
      ∀ tail, object.renderAs (some (String.ofList (Piece.spelling pieces ++ tail))) =
        .error (.unknownPlaceholder object.typeName key) := by
  have start : Numbering.start.TakesNames := rfl
  obtain ⟨text, last, comes, expanded⟩ | ⟨key, unknown, fails⟩ :=
    @expand_spelling _ object 1 _ pieces start plain short
  · refine ⟨fun other same => ?_, fun key failed => (by rw [comes] at failed; cases failed)⟩
    obtain rfl : text = other := by rw [comes] at same; injection same
    have written := expanded []
    rw [List.append_nil] at written
    have whole : object.expand maxLevels (String.ofList (Piece.spelling pieces)).toList .start =
        .ok (text.toList, last) := by
      rw [String.toList_ofList, maxLevels, written]
      simp [expand, expandWith_nil, Expanded.behind, Except.map]
    rw [renderAs, Option.getD_some, render, format, whole]
    exact congrArg Except.ok String.ofList_toList
  · refine ⟨fun text comes => (by rw [unknown] at comes; cases comes), fun other same tail => ?_⟩
    obtain rfl : key = other := by rw [unknown] at same; injection same
    exact render_of_expand (by rw [String.toList_ofList]; exact fails tail)

open Memory

/-- Doubled braces, a key with a dot and a key of digits, and then a key that is not known with a
brace behind it that nothing closes. -/
theorem renderAs_spelling_mixed :
    let object : Formattable :=
      { typeName := "sample", defaultFormat := "",
        placeholder? := fun key =>
          if key = "a.b" then some (.integer (-5)) else if key = "0" then some (.text "zero")
          else none }
    let known : List Piece := [.literal "\x7b", .field "a.b", .literal "\x7d", .field "0"]
    Piece.spelling known = "\x7b\x7b\x7ba.b\x7d\x7d\x7d\x7b0\x7d".toList ∧
      object.renderAs (some "\x7b\x7b\x7ba.b\x7d\x7d\x7d\x7b0\x7d") = .ok "\x7b-5\x7dzero" ∧
      object.renderAs (some "\x7b\x7b\x7ba.b\x7d\x7d\x7d\x7b0\x7d\x7b1\x7d\x7b") =
        .error (.unknownPlaceholder "sample" "1") := by
  intro object known
  have plain : ∀ key, .field key ∈ known ++ [.field "1"] → IsPlainKey key := by
    intro key member
    simp only [known, List.cons_append, List.nil_append, List.mem_cons, List.not_mem_nil, or_false,
      reduceCtorEq, false_or, Piece.field.injEq] at member
    rcases member with rfl | rfl | rfl <;> decide
  have short : ∀ key number, .field key ∈ known ++ [.field "1"] →
      object.placeholder? key = some (.integer number) →
      (Number.decimalDigits number.natAbs).length ≤ Number.maxDigits := by
    intro key number _ found
    simp only [object] at found
    split at found
    · cases found
      decide
    split at found <;> cases found
  refine ⟨by decide, ?_, ?_⟩
  · exact (@renderAs_spelling _ object known (fun key member => plain key (by simp [member]))
      fun key number member => short key number (by simp [member])).1 _ rfl
  · exact (renderAs_spelling plain short).2 "1" rfl ['\x7b']

end Formattable

end Stencil
