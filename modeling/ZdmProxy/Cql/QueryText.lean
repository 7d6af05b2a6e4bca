import ZdmProxy.Cql.Syntax
import ZdmProxy.Lib.Utf8

/-!
# The query text

Go holds a query as a string, that is as its UTF-8 bytes. ANTLR reads it through an input stream
of characters, so the start and stop indices of a token are character indices. The lexer splits
the characters into the default-channel tokens the parser reads and the hidden-channel text
(whitespace and comments) between them. A `QueryText` is a query as the lexer splits it: each
token with the hidden text before it, and the hidden text after the last token. Its `bytes` are
the Go string, and `tokenStart` and `tokenStop` are the indices ANTLR gives a token.

`replaceFunctionCalls` slices the Go string at those character indices, as byte indices. For
ASCII text the two agree, and slicing the bytes at the characters of some token spans is taking
the bytes of the query with those tokens replaced (`bytes_spliceTokens`); the hidden text before
a span is kept and the hidden text inside it dropped. A character of two or more bytes before a
span moves every later cut that many bytes to the left (`Utf8.length_lt_length_encode`).
-/

namespace ZdmProxy.Cql

open Splice

/-- The edit that replaces a span by `replacement`. -/
def nowEdit {α : Type} (replacement : List α) (span : Nat × Nat) : Edit α :=
  ⟨span.1, span.2, replacement⟩

/-- A default-channel token with the hidden-channel text the lexer put before it. -/
structure Lexeme where
  hidden : String
  token : Token
  deriving DecidableEq, Repr

/-- The characters of a lexeme. -/
def Lexeme.chars (lexeme : Lexeme) : List Char := lexeme.hidden.toList ++ lexeme.token.text.toList

/-- A query as the lexer splits it: its default-channel tokens, each with the hidden text before
it, and the hidden text after the last one. A token has at least one character. -/
structure QueryText where
  lexemes : List Lexeme
  trailing : String
  visible : ∀ lexeme ∈ lexemes, lexeme.token.text ≠ ""

/-- A replacement's tokens written one after the other, the first after `hidden`. -/
def replacementLexemes (hidden : String) : List Token → List Lexeme
  | [] => []
  | token :: rest => ⟨hidden, token⟩ :: replacementLexemes "" rest

theorem token_mem_of_mem_replacementLexemes {hidden : String} {replacement : List Token}
    {lexeme : Lexeme} (member : lexeme ∈ replacementLexemes hidden replacement) :
    lexeme.token ∈ replacement := by
  induction replacement generalizing hidden with
  | nil => cases member
  | cons token rest ih =>
    rcases List.mem_cons.mp member with first | later
    · rw [first]
      exact List.mem_cons_self
    · exact List.mem_cons_of_mem token (ih later)

@[simp] theorem map_token_replacementLexemes (hidden : String) (replacement : List Token) :
    (replacementLexemes hidden replacement).map Lexeme.token = replacement := by
  induction replacement generalizing hidden with
  | nil => rfl
  | cons token rest ih => simp [replacementLexemes, ih]

/-- A replacement's characters: the hidden text, then the replacement's text. -/
theorem flatMap_chars_replacementLexemes (hidden : String) {replacement : List Token}
    (nonempty : replacement ≠ []) :
    (replacementLexemes hidden replacement).flatMap Lexeme.chars =
      hidden.toList ++ (textOf replacement).toList := by
  have unhidden : ∀ tokens : List Token, (replacementLexemes "" tokens).flatMap Lexeme.chars =
      (textOf tokens).toList := by
    intro tokens
    induction tokens with
    | nil => rfl
    | cons token rest ih => simp_all [replacementLexemes, Lexeme.chars, textOf]
  obtain ⟨token, rest, rfl⟩ := List.exists_cons_of_ne_nil nonempty
  simp [replacementLexemes, Lexeme.chars, unhidden, textOf]

namespace QueryText

variable (query : QueryText)

/-- The default-channel tokens, which the parser reads. -/
def tokens : List Token := query.lexemes.map Lexeme.token

/-- The characters of the query, which ANTLR's input stream indexes. -/
def chars : List Char := query.lexemes.flatMap Lexeme.chars ++ query.trailing.toList

/-- The query as Go holds it: the UTF-8 bytes of its characters. -/
def bytes : List UInt8 := Utf8.encode query.chars

/-- The number of characters before the `k`-th lexeme. -/
def charsBefore (k : Nat) : Nat := ((query.lexemes.take k).flatMap Lexeme.chars).length

/-- The hidden text before the `k`-th token. -/
def hiddenBefore (k : Nat) : String := (query.lexemes[k]?.map Lexeme.hidden).getD ""

/-- `GetStart` of the `k`-th token: the index of its first character. -/
def tokenStart (k : Nat) : Nat := query.charsBefore k + (query.hiddenBefore k).toList.length

/-- `GetStop` of the `k`-th token: the index of its last character. -/
def tokenStop (k : Nat) : Nat :=
  query.tokenStart k + ((query.lexemes[k]?.map fun lexeme => lexeme.token.text).getD "").toList.length - 1

/-- The characters of a span of tokens: from the first character of its first token to one
past the last character of its last token. -/
def charSpan (span : Nat × Nat) : Nat × Nat :=
  (query.tokenStart span.1, query.tokenStop (span.2 - 1) + 1)

/-- The query with the tokens of each span replaced by `replacement`, the hidden text before
the span kept and the hidden text inside it dropped. -/
def spliceTokens (spans : List (Nat × Nat)) (replacement : List Token)
    (visible : ∀ token ∈ replacement, token.text ≠ "") : QueryText where
  lexemes := spliced query.lexemes 0 (spans.map fun span =>
    ⟨span.1, span.2, replacementLexemes (query.hiddenBefore span.1) replacement⟩)
  trailing := query.trailing
  visible := by
    intro lexeme present
    rcases mem_spliced present with original | ⟨edit, member, replaced⟩
    · exact query.visible lexeme original
    · obtain ⟨span, -, rfl⟩ := List.mem_map.mp member
      exact visible _ (token_mem_of_mem_replacementLexemes replaced)

/-- The query of some tokens, each after a blank if its index is in `blanks`. -/
def ofTokens (tokens : List Token) (blanks : List Nat)
    (visible : ∀ token ∈ tokens, token.text ≠ "") : QueryText where
  lexemes := tokens.zipIdx.map fun entry =>
    ⟨if entry.2 ∈ blanks then " " else "", entry.1⟩
  trailing := ""
  visible := by
    intro lexeme present
    obtain ⟨entry, member, rfl⟩ := List.mem_map.mp present
    exact visible entry.1 (List.fst_mem_of_mem_zipIdx member)

@[simp] theorem tokens_ofTokens (tokens : List Token) (blanks : List Nat)
    (visible : ∀ token ∈ tokens, token.text ≠ "") :
    (ofTokens tokens blanks visible).tokens = tokens := by
  simp [ofTokens, QueryText.tokens, List.map_map, Function.comp_def]

/-! ## Characters and tokens -/

variable {query}

theorem chars_eq_drop (i : Nat) :
    query.chars.drop (query.charsBefore i) =
      (query.lexemes.drop i).flatMap Lexeme.chars ++ query.trailing.toList := by
  have split : query.chars = (query.lexemes.take i).flatMap Lexeme.chars ++
      ((query.lexemes.drop i).flatMap Lexeme.chars ++ query.trailing.toList) := by
    rw [← List.append_assoc, ← List.flatMap_append, List.take_append_drop, chars]
  rw [split, charsBefore, List.drop_left]

theorem charsBefore_le {low high : Nat} (ordered : low ≤ high) :
    query.charsBefore low ≤ query.charsBefore high := by
  have pieces := congrArg (fun lexemes : List Lexeme => (lexemes.flatMap Lexeme.chars).length)
    (take_append_segment query.lexemes ordered)
  simp only [List.flatMap_append, List.length_append] at pieces
  rw [charsBefore, charsBefore, ← pieces]
  omega

/-- The characters before a lexeme are among the lexemes' characters. -/
theorem charsBefore_le_length_lexemes (k : Nat) :
    query.charsBefore k ≤ (query.lexemes.flatMap Lexeme.chars).length := by
  have pieces := congrArg (fun lexemes : List Lexeme => (lexemes.flatMap Lexeme.chars).length)
    (List.take_append_drop k query.lexemes)
  simp only [List.flatMap_append, List.length_append] at pieces
  rw [charsBefore]
  omega

theorem charsBefore_le_length (k : Nat) :
    query.charsBefore k ≤ query.chars.length := by
  have lexemesFirst := @charsBefore_le_length_lexemes query k
  rw [chars, List.length_append]
  omega

/-- The lexeme at `k` adds its characters. -/
theorem charsBefore_add_one {k : Nat} (inside : k < query.lexemes.length) :
    query.charsBefore (k + 1) = query.charsBefore k + query.lexemes[k].chars.length := by
  rw [charsBefore, charsBefore, List.take_add_one, List.getElem?_eq_getElem inside,
    Option.toList_some, List.flatMap_append, List.length_append]
  simp

theorem hiddenBefore_of_lt {k : Nat} (inside : k < query.lexemes.length) :
    query.hiddenBefore k = query.lexemes[k].hidden := by
  simp [hiddenBefore, List.getElem?_eq_getElem inside]

/-- One past the last character of a token is where the next lexeme starts. -/
theorem tokenStop_add_one {k : Nat} (inside : k < query.lexemes.length) :
    query.tokenStop k + 1 = query.charsBefore (k + 1) := by
  have visible : 0 < query.lexemes[k].token.text.toList.length := by
    have := query.visible query.lexemes[k] (List.getElem_mem inside)
    simpa [List.length_pos_iff, String.toList_eq_nil_iff] using this
  rw [tokenStop, tokenStart, charsBefore_add_one inside, hiddenBefore_of_lt inside,
    List.getElem?_eq_getElem inside]
  simp only [Option.map_some, Option.getD_some, Lexeme.chars, List.length_append]
  omega

/-- The characters between a lexeme and a later token's first character: the lexemes between,
then the token's hidden text. -/
theorem segment_chars_tokenStart {i a : Nat} (ordered : i ≤ a) (inside : a < query.lexemes.length) :
    segment query.chars (query.charsBefore i) (query.tokenStart a) =
      (segment query.lexemes i a).flatMap Lexeme.chars ++ query.lexemes[a].hidden.toList := by
  have upToLexeme : segment query.chars (query.charsBefore i) (query.charsBefore a) =
      (segment query.lexemes i a).flatMap Lexeme.chars := by
    rw [chars, segment_append_left _ _ (charsBefore_le_length_lexemes a)]
    exact segment_flatMap Lexeme.chars query.lexemes ordered
  have hidden : segment query.chars (query.charsBefore a) (query.tokenStart a) =
      query.lexemes[a].hidden.toList := by
    rw [Splice.segment, chars_eq_drop, List.drop_eq_getElem_cons inside, List.flatMap_cons,
      tokenStart, hiddenBefore_of_lt inside, Nat.add_sub_cancel_left, Lexeme.chars]
    simp only [List.append_assoc, List.take_left]
  have split := segment_append_segment query.chars (charsBefore_le ordered)
    (show query.charsBefore a ≤ query.tokenStart a from Nat.le_add_right _ _)
  rw [← split, upToLexeme, hidden]

/-- Splicing the lexemes from the `i`-th on, then writing them out, is splicing the characters
from the `i`-th lexeme's first character at the spans' characters. -/
theorem chars_spliced_lexemes {replacement : List Token} (nonempty : replacement ≠ []) :
    ∀ {i high : Nat} {spans : List (Nat × Nat)}, SpansSorted i high spans →
      high ≤ query.lexemes.length → (∀ span ∈ spans, span.1 < span.2) →
      (spliced query.lexemes i (spans.map fun span =>
          ⟨span.1, span.2, replacementLexemes (query.hiddenBefore span.1) replacement⟩)).flatMap
          Lexeme.chars ++ query.trailing.toList =
        spliced query.chars (query.charsBefore i)
          ((spans.map query.charSpan).map (nowEdit (textOf replacement).toList)) := by
  intro i high spans sorted
  induction sorted with
  | nil _ =>
    intro _ _
    simp [chars_eq_drop]
  | @cons low high start stop rest after ordered sortedRest ih =>
    intro within nonemptySpans
    have shorter : start < stop := nonemptySpans (start, stop) List.mem_cons_self
    have inside := sortedRest.le
    -- the span ends after its last token, where the next lexeme starts
    have ends : query.tokenStop (stop - 1) + 1 = query.charsBefore stop := by
      rw [tokenStop_add_one (by omega), Nat.sub_add_cancel (by omega)]
    have restSpans := ih within fun span member => nonemptySpans span (List.mem_cons_of_mem _ member)
    simp only [List.map_cons, spliced_cons, List.flatMap_append, List.append_assoc, nowEdit,
      charSpan]
    rw [restSpans, ends, flatMap_chars_replacementLexemes _ nonempty,
      segment_chars_tokenStart after (by omega), hiddenBefore_of_lt (by omega)]
    simp

/-- The characters of the spliced query are the spliced characters. -/
theorem chars_spliceTokens {spans : List (Nat × Nat)} (sorted : SpansSorted 0 query.tokens.length spans)
    (nonemptySpans : ∀ span ∈ spans, span.1 < span.2) {replacement : List Token}
    (visible : ∀ token ∈ replacement, token.text ≠ "") (nonempty : replacement ≠ []) :
    (query.spliceTokens spans replacement visible).chars =
      spliced query.chars 0 ((spans.map query.charSpan).map (nowEdit (textOf replacement).toList)) := by
  have written := chars_spliced_lexemes nonempty (by simpa [tokens] using sorted) le_rfl
    nonemptySpans
  show (spliced query.lexemes 0 (spans.map fun span =>
      ⟨span.1, span.2, replacementLexemes (query.hiddenBefore span.1) replacement⟩)).flatMap
      Lexeme.chars ++ query.trailing.toList = _
  simpa [charsBefore] using written

/-- The tokens of the spliced query are the spliced tokens. -/
theorem tokens_spliceTokens (spans : List (Nat × Nat)) {replacement : List Token}
    (visible : ∀ token ∈ replacement, token.text ≠ "") :
    (query.spliceTokens spans replacement visible).tokens =
      spliced query.tokens 0 (spans.map (nowEdit replacement)) := by
  simp only [spliceTokens, tokens, spliced_map, List.map_map]
  congr 1
  refine List.map_congr_left fun span _ => ?_
  simp [Edit.map, nowEdit]

/-- Sorted, non-empty token spans have sorted character spans, inside the bytes. -/
theorem sorted_charSpans :
    ∀ {low high : Nat} {spans : List (Nat × Nat)}, SpansSorted low high spans →
      high ≤ query.lexemes.length → (∀ span ∈ spans, span.1 < span.2) →
      SpansSorted (query.charsBefore low) query.chars.length (spans.map query.charSpan) := by
  intro low high spans sorted
  induction sorted with
  | @nil low _ _ => exact fun _ _ => .nil (charsBefore_le_length low)
  | @cons low high start stop rest after ordered sortedRest ih =>
    intro within nonemptySpans
    have shorter : start < stop := nonemptySpans (start, stop) List.mem_cons_self
    have inside := sortedRest.le
    have ends : query.tokenStop (stop - 1) + 1 = query.charsBefore stop := by
      rw [tokenStop_add_one (by omega), Nat.sub_add_cancel (by omega)]
    have startBefore : query.tokenStart start ≤ query.charsBefore stop := by
      have := @charsBefore_add_one query start (by omega)
      have := @charsBefore_le query _ _ (show start + 1 ≤ stop by omega)
      rw [tokenStart, hiddenBefore_of_lt (by omega)]
      simp only [Lexeme.chars, List.length_append] at *
      omega
    refine .cons ?_ ?_ ?_
    · exact le_trans (charsBefore_le after) (Nat.le_add_right _ _)
    · simpa [charSpan, ends] using startBefore
    · simpa [charSpan, ends] using ih within fun span member =>
        nonemptySpans span (List.mem_cons_of_mem _ member)

/-- For ASCII text and replacement, slicing the bytes at the characters of sorted, non-empty
token spans is writing out the query with those tokens replaced. -/
theorem bytes_spliceTokens {spans : List (Nat × Nat)} (sorted : SpansSorted 0 query.tokens.length spans)
    (nonemptySpans : ∀ span ∈ spans, span.1 < span.2) {replacement : List Token}
    (visible : ∀ token ∈ replacement, token.text ≠ "") (nonempty : replacement ≠ [])
    (ascii : query.chars.all Char.isAscii = true)
    (replacementAscii : (textOf replacement).toList.all Char.isAscii = true) :
    spliced query.bytes 0
        ((spans.map query.charSpan).map (nowEdit (Utf8.encode (textOf replacement).toList))) =
      (query.spliceTokens spans replacement visible).bytes := by
  rw [bytes, bytes, chars_spliceTokens sorted nonemptySpans visible nonempty]
  exact Utf8.spliced_encode_of_all_isAscii ascii replacementAscii (spans.map query.charSpan) 0

end QueryText

end ZdmProxy.Cql
