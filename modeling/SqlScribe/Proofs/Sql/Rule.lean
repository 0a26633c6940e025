import SqlScribe.Proofs.Text.Extent
import SqlScribe.Sql.Lexeme

/-!
# The rules of reading

What the first lexeme of a text is, said without going through the text.  A `Rule` says which
texts it applies to and which lexeme it cuts off such a text, and `rules` lists the rules in
the order in which they are tried: blank characters, the two sorts of comments, the three
sorts of quoted texts, bracketed names, numbers, separators, operators, words, and single
characters of any other sort.  `FirstRule` is the lexeme of the first rule that applies.
Most rules cut off the longest start of a certain form; comments, quoted texts and
bracketed names reach through the first end that they have, and without one they take
the whole text and halt the reading.

A rule cuts at most one lexeme off a text, and so does a list of rules
(`FirstRule.unique`).
-/

namespace SqlScribe.Sql

open Text

/-- A rule for the first lexeme of a text. -/
structure Rule where
  /-- The texts that the rule applies to. -/
  applies : List Char → Prop
  /-- The lexeme that the rule cuts off a text. -/
  cuts : List Char → Lexeme → Prop
  /-- A rule cuts at most one lexeme off a text. -/
  unique : ∀ {text : List Char} {x y : Lexeme}, cuts text x → cuts text y → x = y

namespace Rule

/-! ### Longest starts -/

/-- The rule that cuts off the longest start with a property. -/
def longest (applies P : List Char → Prop) (kind : List Char → TokenKind) : Rule where
  applies := applies
  cuts text x :=
    text = x.text ++ x.rest ∧ IsLongestStart P text x.text
      ∧ x.kind = kind x.text ∧ x.halts = false
  unique := by
    rintro text ⟨k, s, r, h⟩ ⟨k', s', r', h'⟩ ⟨ht, hs, hk, hh⟩ ⟨ht', hs', hk', hh'⟩
    obtain rfl := hs.unique hs'
    obtain rfl := List.append_cancel_left (ht.symm.trans ht')
    simp_all

/-- A run of blank characters. -/
def blankRun : Rule :=
  longest (fun text => ∃ c ∈ text.head?, isBlank c = true) (fun s => ∀ c ∈ s, isBlank c = true)
    fun _ => .whitespace

/-- A comment from two hyphens up to the end of the line. -/
def lineComment : Rule :=
  longest (fun text => ['-', '-'] <+: text) (fun s => '\n' ∉ s) fun _ => .comment

/-- A single character with a kind of its own. -/
def single (c : Char) (kind : TokenKind) : Rule :=
  longest (fun text => [c] <+: text) (fun s => s = [c]) fun _ => kind

/-- The longest operator. -/
def operator : Rule :=
  longest (fun text => ∃ o ∈ operators, o.toList <+: text) (fun s => ∃ o ∈ operators, o.toList = s)
    fun _ => .operator

/-- The class of a word, whatever the case of its ASCII letters: the words of all dialects
count, and keywords come before functions and these before types. -/
def classOf (word : List Char) : TokenKind :=
  let upper := String.ofList (word.map Char.toUpper)
  if upper ∈ commonKeywords ∨ ∃ d ∈ Dialect.all, upper ∈ (Vocabulary.ofDialect d).keywords then
    .keyword
  else if ∃ d ∈ Dialect.all, upper ∈ (Vocabulary.ofDialect d).functions then .function
  else if ∃ d ∈ Dialect.all, upper ∈ (Vocabulary.ofDialect d).datatypes then .datatype
  else .identifier

/-- A word: a letter or an underscore, with the letters, digits and underscores after it. -/
def word : Rule :=
  longest (fun text => ∃ c ∈ text.head?, c.isAlpha = true ∨ c = '_')
    (fun s => ∀ c ∈ s, c.isAlpha = true ∨ c.isDigit = true ∨ c = '_') classOf

/-- The first and last code points of the runs of ASCII punctuation. -/
def punctuationRuns : List (Nat × Nat) :=
  [(0x21, 0x2F), (0x3A, 0x40), (0x5B, 0x60), (0x7B, 0x7E)]

/-- The kind of a character that no other rule applies to. -/
def kindOfOther (s : List Char) : TokenKind :=
  if s.any fun c => punctuationRuns.any fun run => run.1 ≤ c.toNat ∧ c.toNat ≤ run.2 then
    .punctuation
  else .other

/-- Any other character, which is ASCII punctuation or not. -/
def anyCharacter : Rule :=
  longest (fun text => text ≠ []) (fun s => s.length = 1) kindOfOther

/-! ### Texts with an end -/

/-- The rule that cuts off an opening and what follows it through its first end.  Without an
end the whole text is an error, and the reading halts. -/
def delimited (kind : TokenKind) (opening mark : List Char) (closes : List Char → Prop) :
    Rule where
  applies text := opening <+: text
  cuts text x :=
    ∃ content, text = opening ++ content
      ∧ ((∃ body after, IsFirstEnd closes mark content body after
          ∧ x = { kind, text := opening ++ body ++ mark, rest := after, halts := false })
        ∨ (HasNoEnd closes mark content
          ∧ x = { kind := .error, text, rest := [], halts := true }))
  unique := by
    rintro text x y ⟨content, ht, hx⟩ ⟨content', ht', hy⟩
    obtain rfl := List.append_cancel_left (ht.symm.trans ht')
    rcases hx with ⟨body, after, hb, rfl⟩ | ⟨hn, rfl⟩ <;>
      rcases hy with ⟨body', after', hb', rfl⟩ | ⟨hn', rfl⟩
    · obtain ⟨rfl, rfl⟩ := hb.unique hb'
      rfl
    · exact absurd hb.holds (hn' body after hb.text_eq)
    · exact absurd hb'.holds (hn body' after' hb'.text_eq)
    · rfl

/-- A comment between a slash with an asterisk and an asterisk with a slash. -/
def blockComment : Rule :=
  delimited .comment ['/', '*'] ['*', '/'] fun _ => True

/-- The number of backslashes at the end of a text. -/
def backslashesAtEnd (text : List Char) : Nat :=
  (text.reverse.takeWhile (· == '\\')).length

/-- A text between two equal marks.  A mark ends it after an even number of backslashes. -/
def quotedText (mark : Char) (kind : TokenKind) : Rule :=
  delimited kind [mark] [mark] fun body => backslashesAtEnd body % 2 = 0

/-- A name in brackets. -/
def bracketedName : Rule :=
  delimited .identifier ['['] [']'] fun _ => True

/-! ### Numbers -/

/-- Digits with at most one point among them. -/
def IsMantissa (s : List Char) : Prop :=
  (∀ c ∈ s, c.isDigit = true ∨ c = '.') ∧ s.count '.' ≤ 1

/-- The lexeme of a number: a mantissa, and the letter, the sign and the digits of an exponent
if the letter follows.  A letter without digits makes the number an error. -/
inductive IsNumber (text : List Char) : Lexeme → Prop
  | plain {mantissa rest : List Char} (text_eq : text = mantissa ++ rest)
    (isMantissa : IsLongestStart IsMantissa text mantissa)
    (noLetter : ∀ c ∈ rest.head?, c ≠ 'e' ∧ c ≠ 'E') :
    IsNumber text { kind := .number, text := mantissa, rest, halts := false }
  | scaled {mantissa sign digits rest : List Char} {letter : Char}
    (text_eq : text = mantissa ++ letter :: (sign ++ (digits ++ rest)))
    (isMantissa : IsLongestStart IsMantissa text mantissa)
    (isLetter : letter = 'e' ∨ letter = 'E')
    (isSign : IsLongestStart (· ∈ [[], ['+'], ['-']]) (sign ++ (digits ++ rest)) sign)
    (areDigits : IsLongestStart (fun s => ∀ c ∈ s, c.isDigit = true) (digits ++ rest) digits) :
    IsNumber text
      { kind := if digits = [] then .error else .number
        text := mantissa ++ letter :: (sign ++ digits)
        rest
        halts := false }

theorem IsNumber.unique {text : List Char} {x y : Lexeme} (hx : IsNumber text x)
    (hy : IsNumber text y) :
  x = y
  := by
  cases hx with
  | plain ht hm hn =>
    cases hy with
    | plain ht' hm' hn' =>
      obtain rfl := hm.unique hm'
      obtain rfl := List.append_cancel_left (ht.symm.trans ht')
      rfl
    | scaled ht' hm' hl' hs' hd' =>
      obtain rfl := hm.unique hm'
      obtain rfl := List.append_cancel_left (ht.symm.trans ht')
      have h := hn _ rfl
      exact absurd hl' (not_or.mpr h)
  | scaled ht hm hl hs hd =>
    cases hy with
    | plain ht' hm' hn' =>
      obtain rfl := hm.unique hm'
      obtain rfl := List.append_cancel_left (ht.symm.trans ht')
      have h := hn' _ rfl
      exact absurd hl (not_or.mpr h)
    | scaled ht' hm' hl' hs' hd' =>
      obtain rfl := hm.unique hm'
      obtain ⟨rfl, h⟩ := List.cons.inj (List.append_cancel_left (ht.symm.trans ht'))
      rw [← h] at hs'
      obtain rfl := hs.unique hs'
      have h' := List.append_cancel_left h
      rw [← h'] at hd'
      obtain rfl := hd.unique hd'
      obtain rfl := List.append_cancel_left h'
      rfl

/-- A number, which begins with a digit or with a point and a digit. -/
def number : Rule where
  applies text :=
    (∃ c ∈ text.head?, c.isDigit = true)
      ∨ ∃ c rest, text = '.' :: c :: rest ∧ c.isDigit = true
  cuts := IsNumber
  unique := IsNumber.unique

end Rule

/-- The rules in the order in which they are tried. -/
def rules : List Rule :=
  [.blankRun, .lineComment, .blockComment, .quotedText '\'' .string,
    .quotedText '"' .identifier, .quotedText '\x60' .identifier, .bracketedName, .number,
    .single '(' .parenthesis, .single ')' .parenthesis, .single ',' .comma,
    .single ';' .semicolon, .operator, .word, .anyCharacter]

/-- The lexeme that the first of some rules that applies to a text cuts off it. -/
inductive FirstRule : List Rule → List Char → Lexeme → Prop
  | here {r : Rule} {rs : List Rule} {text : List Char} {x : Lexeme} :
    r.applies text → r.cuts text x → FirstRule (r :: rs) text x
  | later {r : Rule} {rs : List Rule} {text : List Char} {x : Lexeme} :
    ¬ r.applies text → FirstRule rs text x → FirstRule (r :: rs) text x

/-- Rules tried in order cut at most one lexeme off a text. -/
theorem FirstRule.unique {rs : List Rule} {text : List Char} {x y : Lexeme}
    (hx : FirstRule rs text x) (hy : FirstRule rs text y) :
  x = y
  := by
  induction hx with
  | here ha hc =>
    cases hy with
    | here _ hc' => apply Rule.unique _ hc hc'
    | later hn _ => contradiction
  | later hn _ ih =>
    cases hy with
    | here ha _ => contradiction
    | later _ hy => apply ih hy

end SqlScribe.Sql
