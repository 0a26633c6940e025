import Mathlib.Data.List.Forall2
import SqlScribe.Proofs.CommandLine.Override
import SqlScribe.Proofs.CommandLine.TokenLines
import SqlScribe.Proofs.Json.Pretty
import SqlScribe.Proofs.Sql.Partition

/-!
# Listings of tokens that are read back

Both listings of the tokens of a source are read back.  The document of a listing holds the record
of each token, so it is read as the tokens with their kinds, texts and spans
(`readTokens_tokenArray`).  The lines tell the kinds and texts.  Since the texts of the tokens are
put together to the source, no two sources have the same listing (`run_tokens_readsBack`).
-/

namespace SqlScribe.CommandLine

open Json Sql

/-! ### Records of spans -/

/-- The members of the record of a span. -/
inductive SpanMember where
  /-- The offset of the first byte. -/
  | start
  /-- The offset of the byte after the last one. -/
  | stop
  deriving DecidableEq

/-- The key of a member. -/
def SpanMember.key : SpanMember → String
  | start => "start"
  | stop => "end"

/-- The members of a span that have been read. -/
structure SpanDraft where
  /-- The offset of the first byte. -/
  start : Option Nat := none
  /-- The offset of the byte after the last one. -/
  stop : Option Nat := none

namespace SpanDraft

/-- Whether a member has been read. -/
def has (draft : SpanDraft) : SpanMember → Bool
  | .start => draft.start.isSome
  | .stop => draft.stop.isSome

/-- Reads a member into a draft. -/
def read : SpanMember → SpanDraft → Json.Reader SpanDraft
  | .start, d => readInto readNatural fun n => { d with start := some n }
  | .stop, d => readInto readNatural fun n => { d with stop := some n }

/-- The span that has been read, if both members have been. -/
def finish (draft : SpanDraft) : Except Misfit Span :=
  match draft.start, draft.stop with
  | none, _ => .error (.missingMember SpanMember.start.key)
  | some _, none => .error (.missingMember SpanMember.stop.key)
  | some start, some stop => .ok ⟨start, stop⟩

end SpanDraft

/-- The record of a span. -/
def spanFormat : Format SpanMember SpanDraft Span where
  title := "Span"
  members := [.start, .stop]
  key := SpanMember.key
  empty := {}
  has := SpanDraft.has
  read := SpanDraft.read
  finish := SpanDraft.finish

/-- A member is found by its key. -/
theorem find?_spanMember (m : SpanMember) :
  (spanFormat.members.find? fun m' => spanFormat.key m' == m.key) = some m
  := by
  cases m <;> decide

/-! ### Records of tokens -/

/-- The members of the record of a token. -/
inductive TokenMember where
  /-- The kind, by its name. -/
  | kind
  /-- The text. -/
  | text
  /-- The span. -/
  | span
  deriving DecidableEq

/-- The key of a member. -/
def TokenMember.key : TokenMember → String
  | kind => "kind"
  | text => "text"
  | span => "span"

/-- The members of a token that have been read. -/
structure TokenDraft where
  /-- The kind. -/
  kind : Option TokenKind := none
  /-- The text. -/
  text : Option String := none
  /-- The span. -/
  span : Option Span := none

/-- Reads the name of a kind. -/
def readKind : Json.Reader TokenKind := fun text => do
  let (name, rest) ← readString text
  match TokenKind.ofName? name with
  | some kind => return (kind, rest)
  | none => .error .malformed

namespace TokenDraft

/-- Whether a member has been read. -/
def has (draft : TokenDraft) : TokenMember → Bool
  | .kind => draft.kind.isSome
  | .text => draft.text.isSome
  | .span => draft.span.isSome

/-- Reads a member into a draft. -/
def read : TokenMember → TokenDraft → Json.Reader TokenDraft
  | .kind, d => readInto readKind fun k => { d with kind := some k }
  | .text, d => readInto readString fun s => { d with text := some s }
  | .span, d => readInto spanFormat.readRecord fun s => { d with span := some s }

/-- The token that has been read, if all members have been. -/
def finish (draft : TokenDraft) : Except Misfit Token :=
  match draft.kind, draft.text, draft.span with
  | none, _, _ => .error (.missingMember TokenMember.kind.key)
  | some _, none, _ => .error (.missingMember TokenMember.text.key)
  | some _, some _, none => .error (.missingMember TokenMember.span.key)
  | some kind, some text, some span => .ok ⟨kind, text, span⟩

end TokenDraft

/-- The record of a token. -/
def tokenFormat : Format TokenMember TokenDraft Token where
  title := "Token"
  members := [.kind, .text, .span]
  key := TokenMember.key
  empty := {}
  has := TokenDraft.has
  read := TokenDraft.read
  finish := TokenDraft.finish

theorem find?_tokenMember (m : TokenMember) :
  (tokenFormat.members.find? fun m' => tokenFormat.key m' == m.key) = some m
  := by
  cases m <;> decide

/-- The tokens of a document. -/
def readTokens (document : String) : Except Fault (List Token) :=
  readDocument (readList tokenFormat.readRecord) document

/-! ### Documents that are written -/

theorem ignoresSpace_kind :
  IgnoresSpace readKind
  := by
  intro b text hb
  simp only [readKind, ignoresSpace_string b text hb]

theorem isValue_pretty_kind (depth : Nat) (k : TokenKind) :
  IsValue readKind ((Json.string k.name).pretty depth).toList k
  where
  reads := by
    intro rest hrest
    simp only [readKind, (isValue_pretty_string depth k.name).reads rest hrest, bind, Except.bind,
      TokenKind.ofName?_name]
    rfl
  skips := (isValue_pretty_string depth k.name).skips

variable {M D β : Type} {format : Format M D β} {α : Type} {read : Json.Reader α}

/-- A member on a line of its own is put into a draft that lacks it. -/
theorem piece_of_line {depth : Nat} {m : M} {key : String} {e : Json}
    (hkey : (format.members.find? fun m' => format.key m' == key) = some m)
    (put : Option α → D) {x : α} (hnew : format.has (put none) m = false)
    (hread : format.read m (put none) = readInto read fun x => put (some x))
    (hspace : IgnoresSpace read) (hv : IsValue read (e.pretty depth).toList x) :
  format.Piece (put none) (prettyMember depth (key, e)) (put (some x))
  := by
  have hblank : AllSpace [' '] := by
    intro c hc
    rw [List.mem_singleton.mp hc]
    decide
  exact piece_prettyMember (entry_of_put hkey put hnew hread (hv.append hblank hspace))

/-- The object of a span is read as the span. -/
theorem isValue_pretty_span (depth : Nat) (span : Span) :
  IsValue spanFormat.readRecord ((spanJson span).pretty depth).toList span
  := by
  have hstart := piece_of_line (find?_spanMember .start) (fun n => { start := n }) rfl rfl
    ignoresSpace_natural (isValue_pretty_natural (depth + 1) span.start)
  have hstop := piece_of_line (find?_spanMember .stop)
    (fun n => { start := some span.start, stop := n }) rfl rfl ignoresSpace_natural
    (isValue_pretty_natural (depth + 1) span.stop)
  have hmembers := Chain.cons hstart (.cons hstop .nil)
  exact (holds_pretty_object depth (by simp) hmembers).isValue rfl

/-- The object of a token is read as the token. -/
theorem isValue_pretty_token (depth : Nat) (t : Token) :
  IsValue tokenFormat.readRecord ((tokenJson t).pretty depth).toList t
  := by
  have hkind := piece_of_line (find?_tokenMember .kind) (fun k => { kind := k }) rfl rfl
    ignoresSpace_kind (isValue_pretty_kind (depth + 1) t.kind)
  have htext := piece_of_line (find?_tokenMember .text)
    (fun s => { kind := some t.kind, text := s }) rfl rfl ignoresSpace_string
    (isValue_pretty_string (depth + 1) t.text)
  have hspan := piece_of_line (find?_tokenMember .span)
    (fun s => { kind := some t.kind, text := some t.text, span := s }) rfl rfl
    Format.ignoresSpace_record (isValue_pretty_span (depth + 1) t.span)
  have hmembers := Chain.cons hkind (.cons htext (.cons hspan .nil))
  exact (holds_pretty_object depth (by simp) hmembers).isValue rfl

/-- The document of some tokens is read as these tokens. -/
theorem readTokens_tokenArray (tokens : List Token) :
  readTokens (tokenArray tokens ++ "\n") = .ok tokens
  := by
  have hvalue := isValue_pretty_array 0 tokens Format.ignoresSpace_record
    (fun t _ => isValue_pretty_token 1 t) (by
      intro t _
      rw [tokenJson, toList_pretty_object 1 (by simp)]
      exact ⟨_, _, rfl, by decide, by decide⟩)
  have hbreak : AllSpace "\n".toList := by
    intro c hc
    rw [List.mem_singleton.mp hc]
    decide
  have hread := hvalue.reads "\n".toList (by
    have hends := ends_append hbreak ends_nil
    rwa [List.append_nil] at hends)
  rw [readTokens, readDocument, String.toList_append, tokenArray, hread]
  simp only [bind, Except.bind, readEnd_of_allSpace hbreak]
  rfl

/-! ### Listings -/

/-- A line tells a token: the name of its kind, one tab, and a text in quotes that gives the text of
the token when its escapes are undone. -/
structure Tells (line : String) (t : Token) : Prop where
  /-- The line consists of these parts. -/
  parts : ∃ escaped : String, line = t.kind.name ++ "\t" ++ escaped ∧ '\t' ∉ escaped.toList
    ∧ Text.Reader.whole? Text.Escaped.text escaped = some t.text
  /-- The parts are found again. -/
  readsBack : readLine? line = some (t.kind, t.text)

theorem tells_lineOf (t : Token) :
  Tells (lineOf t) t
  where
  parts := by
    have hread := (Text.Escaped.reads_quoted t.text).whole? trivial
    rw [String.ofList_toList] at hread
    exact ⟨_, rfl, Text.Escaped.not_mem_quoted (Or.inr rfl) t.text, hread⟩
  readsBack := readLine?_lineOf t

/-- The lines of tokens tell the tokens, one line each. -/
theorem forall₂_tells (tokens : List Token) :
  List.Forall₂ Tells (tokens.map lineOf) tokens
  := by
  rw [List.forall₂_map_left_iff, List.forall₂_same]
  intro t _
  exact tells_lineOf t

/-- The texts of the tokens of a source are put together to the source. -/
theorem join_text_tokenize (source : String) :
  String.join ((tokenize source).map (·.text)) = source
  := by
  rw [← String.toList_inj, String.toList_join, List.flatMap_map]
  exact (Lexer.isIn_ofSource source).flatMap_text_tokens

/-- The listing of the tokens of a source. -/
def listing (json : Bool) (source : String) : String :=
  if json then tokenArray (tokenize source) ++ "\n" else tokenLines (tokenize source)

theorem readSource?_listing (source : String) :
  readSource? (listing false source) = some source
  := by
  change readSource? (tokenLines (tokenize source)) = _
  rw [readSource?_tokenLines, join_text_tokenize]

/-- Different sources have different listings. -/
theorem listing_injective (json : Bool) :
  Function.Injective (listing json)
  := by
  intro s s' h
  cases json with
  | false =>
    have hs := readSource?_listing s
    rw [h, readSource?_listing] at hs
    exact (Option.some.inj hs).symm
  | true =>
    have hs := readTokens_tokenArray (tokenize s)
    have hs' := readTokens_tokenArray (tokenize s')
    change tokenArray (tokenize s) ++ "\n" = tokenArray (tokenize s') ++ "\n" at h
    rw [h, hs'] at hs
    rw [← join_text_tokenize s, ← join_text_tokenize s', Except.ok.inj hs]

/-! ### Commands -/

/-- The source of which the tokens are to be listed: a file, or the standard input. -/
def Surroundings.source (w : Surroundings) (input : Option String) : Except Failure String :=
  match input with
  | some path => w.readFile path
  | none => w.readInput

theorem writes_tokens {w : Surroundings} {input : Option String} {source : String}
    (h : w.source input = .ok source) (verbose json : Bool) :
  (run w ⟨verbose, .tokens input json⟩).Writes (listing json source)
  := by
  apply writes_run
  change ((Step.of (w.source input)).andThen (list json)).result = _
  rw [result_andThen, h]
  rfl

/-- The listings of the tokens of a source are read back.  The lines tell the tokens in order, one
line each, and the texts on them are put together to the source; the document is read as the tokens
with their spans.  No other source has one of these listings. -/
theorem run_tokens_readsBack (w : Surroundings) (verbose : Bool) (input : Option String)
    (source : String) (h : w.source input = .ok source) :
  (∃ output lines, (run w ⟨verbose, .tokens input false⟩).Writes output
      ∧ lines? output = some lines ∧ List.Forall₂ Tells lines (tokenize source)
      ∧ readSource? output = some source)
    ∧ (∃ output, (run w ⟨verbose, .tokens input true⟩).Writes output
      ∧ readTokens output = .ok (tokenize source))
    ∧ ∀ w' verbose' input' source' json, Surroundings.source w' input' = .ok source' →
      (run w' ⟨verbose', .tokens input' json⟩).output
        = (run w ⟨verbose, .tokens input json⟩).output →
      source' = source
  := by
  constructor
  · exact ⟨_, _, writes_tokens h verbose false, lines?_tokenLines _, forall₂_tells _,
      readSource?_listing source⟩
  constructor
  · exact ⟨_, writes_tokens h verbose true, readTokens_tokenArray _⟩
  · intro w' verbose' input' source' json h' houtput
    rw [(writes_tokens h verbose json).output, (writes_tokens h' verbose' json).output] at houtput
    exact listing_injective json houtput

/-- A comment without an end that holds line breaks, tabs, quotes, backslashes and characters that
cannot be seen. -/
theorem run_tokens_readsBack_comment :
  let source := "a\u0301 /* \n\t\"\\u\x7b0\x7d\r\x00\u200b"
  let w : Surroundings :=
    { file := fun _ => .error .missing, input := .ok source.toUTF8, dialect := none }
  w.source none = .ok source
    ∧ (∃ output lines, (run w ⟨false, .tokens none false⟩).Writes output
      ∧ lines? output = some lines ∧ List.Forall₂ Tells lines (tokenize source)
      ∧ readSource? output = some source)
    ∧ ∃ output, (run w ⟨false, .tokens none true⟩).Writes output
      ∧ readTokens output = .ok (tokenize source)
  := by
  intro source w
  have hsource : w.source none = .ok source := by
    simp only [Surroundings.source, Surroundings.readInput, w, Except.bind, decode_toUTF8]
  have hrun := run_tokens_readsBack w false none source hsource
  exact ⟨hsource, hrun.1, hrun.2.1⟩

end SqlScribe.CommandLine
