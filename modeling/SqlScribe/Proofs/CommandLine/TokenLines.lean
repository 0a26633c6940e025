import SqlScribe.CommandLine.Listing
import SqlScribe.Proofs.Text.Escaped

/-!
# Lines of tokens

The lines on which tokens are listed are read back.  The listing is cut at its line breaks
(`lines?_tokenLines`), and a line at its first tab: what comes before it is the name of a kind, and
what comes after it is an escaped text (`readLine?_lineOf`).  No kind has a tab in its name, and
neither a line break nor a tab is left in an escaped text, so both cuts come where they were made.
-/

namespace SqlScribe.Sql

/-- All kinds of tokens. -/
def TokenKind.all : List TokenKind :=
  [keyword, function, datatype, operator, number, string, identifier, comment, punctuation, error,
    whitespace, parenthesis, comma, semicolon, other]

/-- The kind with a name. -/
def TokenKind.ofName? (name : String) : Option TokenKind :=
  TokenKind.all.find? (·.name == name)

theorem TokenKind.ofName?_name (k : TokenKind) :
  TokenKind.ofName? k.name = some k
  := by
  cases k <;> decide

end SqlScribe.Sql

namespace SqlScribe.CommandLine

open Sql
open Text hiding Reader
open Text.Reader (Reads whole? expect spanning many reads_expect reads_spanning reads_many Anything)

/-! ### Reading lines -/

/-- Reads a line with its line break. -/
def line : Text.Reader String := do
  let s ← spanning (· != '\n')
  expect "\n"
  return s

/-- The lines of a text in which a line break ends every line. -/
def lines? (text : String) : Option (List String) :=
  whole? (many line) text

/-- Reads a name, a tab and an escaped text. -/
def entry : Text.Reader (String × String) := do
  let name ← spanning (· != '\t')
  expect "\t"
  let text ← Escaped.text
  return (name, text)

/-- The kind and the text of the token on a line. -/
def readLine? (line : String) : Option (TokenKind × String) := do
  let (name, text) ← whole? entry line
  let kind ← TokenKind.ofName? name
  return (kind, text)

/-- The source whose tokens are listed. -/
def readSource? (listing : String) : Option String := do
  let lines ← lines? listing
  let tokens ← lines.mapM readLine?
  return String.join (tokens.map (·.2))

/-! ### Lines that are written -/

/-- The line of a token without its line break. -/
def lineOf (t : Token) : String :=
  t.kind.name ++ "\t" ++ Escaped.quoted t.text

theorem not_mem_name {k : Char} (hk : k = '\n' ∨ k = '\t') (kind : TokenKind) :
  k ∉ kind.name.toList
  := by
  rcases hk with rfl | rfl <;> cases kind <;> decide

theorem not_mem_lineOf (t : Token) :
  '\n' ∉ (lineOf t).toList
  := by
  have hname := not_mem_name (Or.inl rfl) t.kind
  have htext := Escaped.not_mem_quoted (Or.inl rfl) t.text
  simp [lineOf, hname, htext]

/-- Characters other than one of them are read up to that one. -/
theorem reads_before {k : Char} {s : String} (h : k ∉ s.toList) :
  Reads (spanning (· != k)) s s.toList (·.head? = some k)
  := by
  have hall : ∀ c ∈ s.toList, (c != k) = true := by
    rintro c hc
    rw [bne_iff_ne]
    rintro rfl
    exact h hc
  apply (reads_spanning hall).mono
  intro rest hrest c hc
  rw [hrest] at hc
  cases hc
  exact bne_self_eq_false k

theorem reads_line (t : Token) :
  Reads line (lineOf t) (tokenLine t).toList Anything
  := by
  rw [show tokenLine t = lineOf t ++ "\n" from rfl, String.toList_append]
  apply (reads_before (not_mem_lineOf t)).bind ((reads_expect "\n").bind_pure _)
  intro rest _
  rfl

/-- The lines of tokens are cut at their ends. -/
theorem lines?_tokenLines (tokens : List Token) :
  lines? (tokenLines tokens) = some (tokens.map lineOf)
  := by
  have hread : Reads (many line) (tokens.map lineOf) (tokens.flatMap fun t => (tokenLine t).toList)
      (· = []) := by
    apply reads_many
    · intro t _
      simp [tokenLine]
    · intro t _
      exact reads_line t
    · intro t _ rest
      trivial
    · rintro rest rfl
      exact ⟨trivial, rfl⟩
  have hlines : tokenLines tokens
      = String.ofList (tokens.flatMap fun t => (tokenLine t).toList) := by
    rw [tokenLines, ← String.toList_inj, String.toList_join, List.flatMap_map,
      String.toList_ofList]
  rw [lines?, hlines, hread.whole? rfl]

/-- The line of a token is read as its kind and its text. -/
theorem readLine?_lineOf (t : Token) :
  readLine? (lineOf t) = some (t.kind, t.text)
  := by
  have hread : Reads entry (t.kind.name, t.text) _ Anything :=
    (reads_before (not_mem_name (Or.inr rfl) t.kind)).bind
      ((reads_expect "\t").bind
        ((Escaped.reads_quoted t.text).bind_pure fun text => (t.kind.name, text))
        (fun _ _ => trivial)) (fun _ _ => rfl)
  have hentry := hread.whole? trivial
  have hline : lineOf t = String.ofList (t.kind.name.toList
      ++ ("\t".toList ++ (Escaped.quoted t.text).toList)) := by
    rw [lineOf, ← String.toList_inj]
    simp
  simp only [readLine?, hline, hentry, Option.bind_eq_bind, Option.bind_some,
    TokenKind.ofName?_name, Option.pure_def]

theorem mapM_readLine? (tokens : List Token) :
  (tokens.map lineOf).mapM readLine? = some (tokens.map fun t => (t.kind, t.text))
  := by
  induction tokens with
  | nil => rfl
  | cons t tokens ih => simp [List.mapM_cons, readLine?_lineOf, ih]

/-- The texts of the tokens are put together again. -/
theorem readSource?_tokenLines (tokens : List Token) :
  readSource? (tokenLines tokens) = some (String.join (tokens.map (·.text)))
  := by
  simp only [readSource?, lines?_tokenLines, mapM_readLine?, Option.bind_eq_bind,
    Option.bind_some, List.map_map, Option.pure_def]
  rfl

end SqlScribe.CommandLine
