/-
This file proves that a template that is loaded from a file is the template of the text in the file,
with a line feed at the end of every line.

The three ways into a file go through one reader. Where the bytes are the UTF-8 of a text, the
reader hands on that text with its lines ended alike, and from there on each way does what its
counterpart does with a text, so trees, faults and positions are those of the text that is handed
on. Where the bytes are no text, the reader is at fault, and nothing is compiled. Every character
of a literal text or of a format is one of the source, so none of them is a carriage return.
-/

import Stencil.Engine
import Stencil.Proofs.Soundness
import Stencil.Proofs.Utf8

namespace Stencil

/-! ### Ends of lines -/

namespace Text

/-- A text with a line feed for every pair of a carriage return and a line feed. -/
def joinPairs : List Char → List Char
  | [] => []
  | '\r' :: '\n' :: rest => '\n' :: joinPairs rest
  | character :: rest => character :: joinPairs rest

/-- A text with a line feed for every such pair, and then for every carriage return that is left. -/
def withLineFeeds (text : String) : String :=
  String.ofList ((joinPairs text.toList).map fun character =>
    if character = '\r' then '\n' else character)

/-- Both passes are made in one. -/
theorem unifyNewlines_eq_map (text : List Char) :
    unifyNewlines text = (joinPairs text).map fun character =>
      if character = '\r' then '\n' else character := by
  fun_induction unifyNewlines text with
  | case1 => rfl
  | case2 rest inductionHypothesis =>
    rw [joinPairs, List.map_cons, ← inductionHypothesis]
    rfl
  | case3 character rest unpaired inductionHypothesis =>
    rw [joinPairs, List.map_cons, ← inductionHypothesis]
    exact unpaired

theorem ofList_unifyNewlines (text : String) :
    String.ofList (unifyNewlines text.toList) = withLineFeeds text :=
  congrArg String.ofList (unifyNewlines_eq_map text.toList)

theorem carriageReturn_not_mem_withLineFeeds (text : String) :
    '\r' ∉ (withLineFeeds text).toList := by
  rw [← ofList_unifyNewlines, String.toList_ofList]
  exact carriageReturn_not_mem_unifyNewlines _

end Text

/-! ### Files -/

namespace Files

/-- A file with these bytes stands at a path, behind the home directory where the path begins with a
tilde. -/
def Tree.Holds (tree : Tree) (path : String) (bytes : List UInt8) : Prop :=
  ∃ expanded, (Path.ofText path).expandHome? = some expanded ∧
    hasNull expanded.toString = false ∧ tree.read expanded = .ok bytes

variable {tree : Tree} {path : String}

theorem Tree.Holds.decodeFile {bytes : List UInt8} (stored : tree.Holds path bytes) :
    ∃ expanded,
      readSource tree path defaultEncoding = decodeFile expanded defaultEncoding bytes := by
  obtain ⟨expanded, expands, noNull, found⟩ := stored
  have plain : hasNull defaultEncoding = false := by decide
  refine ⟨expanded, ?_⟩
  simp only [readSource, expands, plain, noNull, found, Bool.false_eq_true, if_false]

theorem decodeFile_default (expanded : Path) (bytes : List UInt8) :
    decodeFile expanded defaultEncoding bytes =
      match Encoding.Utf8.decode bytes with
      | .error fault => .error (.failed expanded (.encoding fault))
      | .ok text => .ok (String.ofList (Text.unifyNewlines text)) := by
  have named : Encoding.ofName? defaultEncoding = some .utf8 := by decide
  have decoded : Encoding.decode .utf8 bytes =
      (Encoding.Utf8.decode bytes).mapError Encoding.DecodeError.fault := rfl
  rw [decodeFile, named]
  dsimp only
  rw [decoded]
  cases Encoding.Utf8.decode bytes <;> rfl

/-- The bytes of a text are read as that text, with its lines ended alike. -/
theorem Tree.Holds.readSource_text {text : String}
    (stored : tree.Holds path text.toUTF8.data.toList) :
    readSource tree path defaultEncoding = .ok (Text.withLineFeeds text) := by
  obtain ⟨expanded, read⟩ := stored.decodeFile
  have decoded := Encoding.Utf8.decode_eq_ok_iff.mpr (Encoding.Utf8.encode_toList text).symm
  rw [read, decodeFile_default, decoded]
  exact congrArg Except.ok (Text.ofList_unifyNewlines text)

/-- Bytes of no text are at fault. -/
theorem Tree.Holds.readSource_fault {bytes : List UInt8} (stored : tree.Holds path bytes)
    (other : ∀ text : String, bytes ≠ text.toUTF8.data.toList) :
    ∃ expanded fault, readSource tree path defaultEncoding =
      .error (.failed expanded (.encoding fault)) := by
  obtain ⟨expanded, read⟩ := stored.decodeFile
  obtain ⟨fault, failed⟩ := Encoding.Utf8.exists_fault_of_decode fun text same =>
    other (String.ofList text)
      (same.trans (by rw [← Encoding.Utf8.encode_toList, String.toList_ofList]))
  refine ⟨expanded, fault, ?_⟩
  rw [read, decodeFile_default, failed]

end Files

/-! ### Texts and formats of a template -/

/-- The literal text or the format in an item. -/
def Item.content? : Item → Option String
  | text content => some content
  | insert _ format => format
  | setFormat _ format => some format
  | _ => none

mutual

/-- The literal texts and the formats in a tree. -/
def Token.contents : Token → List String
  | text content => [content]
  | insert _ format => format.toList
  | block _ _ children => contentsAll children
  | setFormat _ format => [format]

/-- The literal texts and the formats in a list of trees. -/
def Token.contentsAll : List Token → List String
  | [] => []
  | token :: rest => contents token ++ contentsAll rest

end

mutual

theorem Token.contents_eq (token : Token) :
    token.contents = token.listing.filterMap Item.content? := by
  match token with
  | text content | setFormat typeName format => rfl
  | insert name format => cases format <;> rfl
  | block name inverted children =>
    rw [contents, listing, List.filterMap_cons_none rfl, List.filterMap_append,
      List.filterMap_cons_none rfl, List.filterMap_nil, List.append_nil, contentsAll_eq children]

theorem Token.contentsAll_eq (tokens : List Token) :
    contentsAll tokens = (listingAll tokens).filterMap Item.content? := by
  match tokens with
  | [] => rfl
  | token :: rest =>
    rw [contentsAll, listingAll, List.filterMap_append, contents_eq token, contentsAll_eq rest]

end

theorem Quotation.subset {content spelling : List Char} (quotation : Quotation content spelling) :
    content ⊆ spelling := by
  induction quotation with
  | closed => exact List.nil_subset _
  | plain notQuote notBackslash rest inductionHypothesis =>
    exact List.cons_subset_cons _ inductionHypothesis
  | escaped character rest inductionHypothesis =>
    exact List.subset_cons_of_subset _ (List.cons_subset_cons _ inductionHypothesis)

/-- The characters of a literal text and of a format are among those that spell it. -/
theorem Item.Spelled.subset {delimiters : Delimiters} {item : Item} {word : List Char}
    {content : String} (spelled : item.Spelled delimiters word)
    (given : item.content? = some content) : content.toList ⊆ word := by
  cases spelled with
  | text =>
    cases given
    exact List.Subset.refl _
  | insert tag =>
    cases given
    cases tag with
    | parts opens writable blank formatted =>
      cases formatted with
      | given blankBefore quoted blankAfter =>
        intro character member
        have quotation := quoted.subset member
        simp [quotation]
  | setFormat blankFirst begins quoted blankLast =>
    cases given
    intro character member
    have quotation := quoted.subset member
    simp [quotation]
  | opened | closed | redelimited => cases given

theorem SequenceReads.subset {rest : List Char} {position : Position} {delimiters : Delimiters}
    {depth : Nat} {items : List PlacedItem} {text : List Char}
    (reads : SequenceReads rest position delimiters depth items text) :
    ∀ placed ∈ items, ∀ content, placed.item.content? = some content → content.toList ⊆ text := by
  induction reads with
  | nil => exact List.forall_mem_nil _
  | cons reads more inductionHypothesis =>
    refine List.forall_mem_cons.mpr ⟨fun content given => ?_, fun placed member content given => ?_⟩
    · exact List.subset_append_of_subset_left _ (reads.spelled.subset given)
    · exact List.subset_append_of_subset_right _ (inductionHypothesis placed member content given)

/-- Every character of a literal text and of a format is one of the source. -/
theorem subset_of_compile {delimiters : Delimiters} {source : String} {tokens : List Token}
    (compiled : (compile delimiters source).outcome = .ok tokens) :
    ∀ content ∈ Token.contentsAll tokens, content.toList ⊆ source.toList := by
  obtain ⟨reads, listed⟩ := reads_of_compile compiled
  rw [Token.contentsAll_eq, ← listed]
  intro content member
  obtain ⟨item, inItems, given⟩ := List.mem_filterMap.mp member
  obtain ⟨placed, inPlaced, rfl⟩ := List.mem_map.mp (List.mem_filter.mp inItems).1
  exact reads.subset placed inPlaced content given

/-! ### Templates from files -/

namespace Template

variable {files : Files.Tree} {path : String}

theorem exists_of_parse {source opening closing : String} {template : Template}
    (parsed : (parse source opening closing).outcome = .ok template) :
    ∃ delimiters, (Stencil.compile delimiters source).outcome = .ok template.tokens := by
  rw [parse] at parsed
  cases chosen : Delimiters.ofStrings opening closing with
  | error failure =>
    rw [chosen] at parsed
    cases parsed
  | ok delimiters =>
    rw [chosen] at parsed
    change (compile delimiters source).outcome = .ok template at parsed
    refine ⟨delimiters, ?_⟩
    rw [compile] at parsed
    cases compiled : (Stencil.compile delimiters source).outcome with
    | error error =>
      rw [compiled] at parsed
      cases parsed
    | ok tokens =>
      rw [compiled] at parsed
      cases parsed
      rfl

theorem outcome_load {source : String} {opening closing : String}
    (read : Files.readSource files path Files.defaultEncoding = .ok source) :
    (load files path Files.defaultEncoding opening closing).outcome =
      (parse source opening closing).outcome := by
  rw [load, read]

theorem outcome_load_error {error : Files.ReadError} {opening closing : String}
    (failed : Files.readSource files path Files.defaultEncoding = .error error) :
    (load files path Files.defaultEncoding opening closing).outcome = .error (.read error) := by
  rw [load, failed]

theorem outcome_renderFile [Memory] {engine : Engine} {datum : Datum} {source : String}
    (read : Files.readSource files path Files.defaultEncoding = .ok source) :
    (engine.renderFile files path Files.defaultEncoding datum).outcome =
      (engine.render source datum).outcome := by
  rw [Engine.renderFile, Engine.render, read]
  cases compiled : (engine.compile source).outcome with
  | error failure => simp only [compiled]
  | ok template => simp only [compiled, Engine.renderCompiled]

theorem outcome_renderFile_error [Memory] {engine : Engine} {datum : Datum}
    {error : Files.ReadError}
    (failed : Files.readSource files path Files.defaultEncoding = .error error) :
    (engine.renderFile files path Files.defaultEncoding datum).outcome = .error (.read error) := by
  rw [Engine.renderFile, failed]

/-- A template is loaded from a file as it is compiled from the text in it, with a line feed at the
end of every line: it is the same template or the same fault, an engine renders the same from the
file as from the text, and no literal text and no format has a carriage return. A file that holds
no text is at fault for both. -/
theorem load_agrees [Memory] {bytes : List UInt8} (stored : files.Holds path bytes) :
    (∀ text : String, bytes = text.toUTF8.data.toList →
      (∀ opening closing : String,
        (load files path Files.defaultEncoding opening closing).outcome =
          (parse (Text.withLineFeeds text) opening closing).outcome) ∧
      (∀ (engine : Engine) (datum : Datum),
        (engine.renderFile files path Files.defaultEncoding datum).outcome =
          (engine.render (Text.withLineFeeds text) datum).outcome) ∧
      ∀ (opening closing : String) (template : Template),
        (load files path Files.defaultEncoding opening closing).outcome = .ok template →
          ∀ content ∈ Token.contentsAll template.tokens, '\r' ∉ content.toList) ∧
    ((∀ text : String, bytes ≠ text.toUTF8.data.toList) →
      ∃ expanded fault,
        (∀ opening closing : String,
          (load files path Files.defaultEncoding opening closing).outcome =
            .error (.read (.failed expanded (.encoding fault)))) ∧
        ∀ (engine : Engine) (datum : Datum),
          (engine.renderFile files path Files.defaultEncoding datum).outcome =
            .error (.read (.failed expanded (.encoding fault)))) := by
  refine ⟨?_, fun other => ?_⟩
  · rintro text rfl
    have read := stored.readSource_text
    refine ⟨fun _ _ => outcome_load read, fun _ _ => outcome_renderFile read, ?_⟩
    intro opening closing template loaded content member carriageReturn
    rw [outcome_load read] at loaded
    obtain ⟨delimiters, compiled⟩ := exists_of_parse loaded
    exact Text.carriageReturn_not_mem_withLineFeeds text
      (subset_of_compile compiled content member carriageReturn)
  · obtain ⟨expanded, fault, failed⟩ := stored.readSource_fault other
    exact ⟨expanded, fault, fun _ _ => outcome_load_error failed,
      fun _ _ => outcome_renderFile_error failed⟩

open Memory

/-- One file has ends of lines of all kinds, one of them in a format, and the other is no text. -/
theorem load_agrees_mixed :
    let text := "é\r\n\x7b\x7b#a\x7d\x7d\r\x7b\x7b.:\"\r\"\x7d\x7d\x7b\x7b/a\x7d\x7d"
    let files : Files.Tree := .directory [
      ("home", .directory [("a.txt", .file text.toUTF8.data.toList)]), ("b.txt", .file [0xFF])]
    files.Holds "~/a.txt" text.toUTF8.data.toList ∧
      (load files "~/a.txt" Files.defaultEncoding "\x7b\x7b" "\x7d\x7d").outcome.toOption.map
          Template.tokens =
        some [.text "é\n", .block { segments := ["a"] } false
          [.text "\n", .insert .self (some "\n")]] ∧
      files.Holds "b.txt" [0xFF] ∧
      ∃ expanded fault, ∀ (engine : Engine) (datum : Datum),
        (engine.renderFile files "b.txt" Files.defaultEncoding datum).outcome =
          .error (.read (.failed expanded (.encoding fault))) := by
  intro text files
  have found (bytes : List UInt8) : Files.Tree.read
      (.directory [("home", .directory [("a.txt", .file bytes)]), ("b.txt", .file [0xFF])])
      { steps := ["home", "a.txt"] } = .ok bytes := rfl
  have stored : files.Holds "~/a.txt" text.toUTF8.data.toList :=
    ⟨{ steps := ["home", "a.txt"] }, by decide +kernel, by decide +kernel, found _⟩
  have storedBytes : files.Holds "b.txt" [0xFF] :=
    ⟨{ steps := ["b.txt"] }, by decide +kernel, by decide +kernel, rfl⟩
  have noText : ∀ text : String, [0xFF] ≠ text.toUTF8.data.toList := by
    intro text same
    rw [← Encoding.Utf8.encode_toList] at same
    cases Encoding.Utf8.decode_eq_ok_iff.mpr same
  refine ⟨stored, ?_, storedBytes, ?_⟩
  · rw [((load_agrees stored).1 text rfl).1]
    decide +kernel
  · obtain ⟨expanded, fault, -, failed⟩ := (load_agrees storedBytes).2 noText
    exact ⟨expanded, fault, failed⟩

end Template

end Stencil
