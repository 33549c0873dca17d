import HttpDoctest.Proofs.Expression.Boundaries
import HttpDoctest.Proofs.Expression.Forms
import HttpDoctest.Proofs.Text.Trimmed
import Mathlib.Control.Monad.Basic

set_option autoImplicit false

/-! # The longest lexemes

A source is split into its longest lexemes: what stands between blanks is cut off lexeme by lexeme,
each the longest that starts at its place, and each gives the token that it denotes, with the byte
it starts at (`Token.Splits`). A source without tokens is split in the same way up to a place where
no lexeme starts or the longest one is a number without a value (`Stuck`), which is the place that
the error names (`tokens_of_longest_lexemes`).
-/

namespace HttpDoctest

open Text (Blank byteLength)

/-! ## The longest lexeme at the front of a source -/

/-- Whether `text` starts the source, and no longer lexeme does. -/
def Longest (text source : List Char) : Prop :=
  text <+: source ∧ ∀ other, Form other → other <+: source → other.length ≤ text.length

/-- A text is the longest lexeme in front of `source` if, behind its first character, it is no
shorter than what the lexemes that start the same way have there. -/
theorem longest_cons {c : Char} {text source : List Char} (hfront : text <+: source)
    (hlongest : ∀ other, Form (c :: other) → other <+: source → other.length ≤ text.length) :
    Longest (c :: text) (c :: source) := by
  refine ⟨List.cons_prefix_cons.2 ⟨rfl, hfront⟩, fun other hform hother => ?_⟩
  cases other with
  | nil => exact Nat.zero_le _
  | cons d other =>
      obtain ⟨rfl, hbehind⟩ := List.cons_prefix_cons.1 hother
      exact Nat.succ_le_succ (hlongest other hform hbehind)

theorem longest_identifier {c : Char} (h : Lexeme.isIdentifierStart c = true)
    (source : List Char) :
    Longest (c :: source.takeWhile Lexeme.isIdentifierPart) (c :: source) := by
  refine longest_cons (List.takeWhile_prefix _) fun other hform hother => ?_
  obtain ⟨_, _, heq, -, hbehind⟩ := hform.isIdentifier h
  cases heq
  have hparts : ∀ d ∈ other, Lexeme.isIdentifierPart d = true :=
    fun d hmem => isIdentifierPart_iff.2 (hbehind d hmem)
  exact (Text.Greedy.run Lexeme.isIdentifierPart).length_le hparts hother

theorem longest_numeral {c : Char} (h : c.isDigit = true) (source : List Char) :
    Longest (c :: (Lexeme.splitNumeral source).1) (c :: source) := by
  obtain ⟨B, hgreedy⟩ := Numeral.greedy_splitNumeral
  refine longest_cons ⟨_, hgreedy.append_eq source⟩ fun other hform hother => ?_
  obtain ⟨-, htail⟩ := Numeral.exists_text_eq_cons_iff.1 (hform.exists_numeral h)
  exact hgreedy.length_le htail hother

/-! ## String literals -/

theorem IsQuote.ne_backslash {quote : Char} (h : IsQuote quote) : '\\' ≠ quote := by
  rcases h with rfl | rfl <;> decide

/-- The scanner reads escapes as they are written. -/
theorem Lexeme.unescape_eq_iff {written meant : Char} :
    Lexeme.unescape written = meant ↔ Escape written meant := by
  constructor
  · rintro rfl
    rw [Lexeme.unescape]
    -- the four letters that mean something else come before all that mean themselves
    split_ifs with hn hr ht hzero
    · exact hn ▸ .lineFeed
    · exact hr ▸ .carriageReturn
    · exact ht ▸ .tab
    · exact hzero ▸ .null
    · exact .itself (by simp [hn, hr, ht, hzero])
  · rintro (_ | _ | _ | _ | h)
    · rfl
    · rfl
    · rfl
    · rfl
    · simp only [List.mem_cons, List.not_mem_nil, or_false, not_or] at h
      rw [Lexeme.unescape, if_neg h.1, if_neg h.2.1, if_neg h.2.2.1, if_neg h.2.2.2]

/-- What is read behind a quote is a literal. -/
theorem quoted_of_quotation? {quote : Char} {source : List Char} {q : Lexeme.Quotation}
    (h : Lexeme.quotation? quote source = some q) : Quoted quote q.value q.text := by
  fun_induction Lexeme.quotation? quote source generalizing q with
  | case1 => cases h
  | case2 source =>
      cases h
      exact .close
  | case3 => cases h
  | case4 e source _ ih =>
      obtain ⟨p, hp, rfl⟩ := Option.map_eq_some_iff.1 h
      exact .escaped (Lexeme.unescape_eq_iff.1 rfl) (ih hp)
  | case5 c source hquote hslash ih =>
      obtain ⟨p, hp, rfl⟩ := Option.map_eq_some_iff.1 h
      exact .plain hquote hslash (ih hp)

/-- A literal at the front of a source is what is read there. -/
theorem quotation?_of_quoted {quote : Char} (hquote : '\\' ≠ quote) {value inner : List Char}
    (h : Quoted quote value inner) (rest : List Char) :
    Lexeme.quotation? quote (inner ++ rest) = some ⟨value, inner, rest⟩ := by
  induction h with
  | close => exact Lexeme.quotation?_close quote rest
  | escaped hescape _ ih =>
      rw [List.cons_append, List.cons_append, Lexeme.quotation?_escape hquote, ih,
        Lexeme.unescape_eq_iff.2 hescape]
      rfl
  | plain hc hslash _ ih =>
      rw [List.cons_append, Lexeme.quotation?_cons hc hslash, ih]
      rfl

theorem longest_string {quote : Char} (h : IsQuote quote) {source : List Char}
    {q : Lexeme.Quotation} (hread : Lexeme.quotation? quote source = some q) :
    Longest (quote :: q.text) (quote :: source) := by
  refine longest_cons ⟨_, Lexeme.text_append_rest_of_quotation? hread⟩ fun other hform hother => ?_
  obtain ⟨value, hquoted⟩ := hform.exists_quoted h
  obtain ⟨rest, rfl⟩ := hother
  rw [quotation?_of_quoted h.ne_backslash hquoted] at hread
  cases hread
  exact Nat.le_refl _

/-! ## Symbols -/

theorem Symbol.not_prefix_of_longestFirst :
    Symbol.longestFirst.Pairwise fun sign behind => ¬sign.text.toList <+: behind.text.toList := by
  decide

theorem Symbol.not_prefix_of_firstSymbol? {symbols : List Symbol} {source : List Char}
    (h : Lexeme.firstSymbol? symbols source = none) {sign : Symbol} (hmem : sign ∈ symbols) :
    ¬sign.text.toList <+: source := by
  rintro ⟨rest, rfl⟩
  have hnone := List.findSome?_eq_none_iff.1 h sign hmem
  rw [Text.afterPrefix?_append] at hnone
  cases hnone

/-- The symbols in front of the first that starts a source do not start it. -/
theorem Symbol.of_firstSymbol? {symbols : List Symbol} {source rest : List Char} {sign : Symbol}
    (h : Lexeme.firstSymbol? symbols source = some (sign, rest)) :
    ∃ front behind, symbols = front ++ sign :: behind ∧
      ∀ other ∈ front, ¬other.text.toList <+: source := by
  obtain ⟨front, found, behind, hsymbols, hfound, hnone⟩ := List.findSome?_eq_some_iff.1 h
  obtain ⟨_, -, heq⟩ := Option.map_eq_some_iff.1 hfound
  cases heq
  exact ⟨front, behind, hsymbols, fun other hmem =>
    Symbol.not_prefix_of_firstSymbol? (List.findSome?_eq_none_iff.2 hnone) hmem⟩

section Symbols

variable {c : Char} (hdigit : c.isDigit = false) (hquote : ¬IsQuote c)
  (hstart : Lexeme.isIdentifierStart c = false) {source : List Char}
include hdigit hquote hstart

theorem longest_symbol {sign : Symbol} {rest : List Char}
    (h : Lexeme.firstSymbol? Symbol.longestFirst (c :: source) = some (sign, rest)) :
    Longest sign.text.toList (c :: source) := by
  have hsign : sign.text.toList <+: c :: source := ⟨rest, Lexeme.append_of_firstSymbol? h⟩
  refine ⟨hsign, fun other hform hother => Nat.le_of_not_lt fun hlt => ?_⟩
  cases other with
  | nil => exact Nat.not_lt_zero _ hlt
  | cons d other =>
      obtain ⟨rfl, -⟩ := List.cons_prefix_cons.1 hother
      obtain ⟨sign', htext⟩ := hform.exists_symbol hdigit hquote hstart
      rw [← htext] at hother hlt
      obtain ⟨front, behind, hsymbols, hfront⟩ := Symbol.of_firstSymbol? h
      have hmem := sign'.mem_longestFirst
      have hpairs := Symbol.not_prefix_of_longestFirst
      rw [hsymbols] at hmem hpairs
      rcases List.mem_append.1 hmem with hmem | hmem
      · exact hfront sign' hmem hother
      · rcases List.mem_cons.1 hmem with rfl | hmem
        · exact Nat.lt_irrefl _ hlt
        · exact (List.pairwise_cons.1 (List.pairwise_append.1 hpairs).2.1).1 sign' hmem
            (List.prefix_of_prefix_length_le hsign hother (Nat.le_of_lt hlt))

theorem not_form_of_firstSymbol? (h : Lexeme.firstSymbol? Symbol.longestFirst (c :: source) = none)
    {text : List Char} (hform : Form text) : ¬text <+: c :: source := by
  intro hfront
  cases text with
  | nil => exact hform.ne_nil rfl
  | cons d text =>
      obtain ⟨rfl, -⟩ := List.cons_prefix_cons.1 hfront
      obtain ⟨sign, htext⟩ := hform.exists_symbol hdigit hquote hstart
      rw [← htext] at hfront
      exact Symbol.not_prefix_of_firstSymbol? h sign.mem_longestFirst hfront

end Symbols

/-! ## The lexeme at the front of a source -/

/-- Why no token can be taken off the front of a source that starts `offset` bytes into the
whole. -/
inductive Stuck (offset : Nat) : List Char → ExprError → Prop
  /-- No lexeme starts here, and no quote either. -/
  | character {c : Char} {source : List Char} :
      Text.isBlank c = false → ¬IsQuote c → (∀ text, Form text → ¬text <+: c :: source) →
        Stuck offset (c :: source) (.unexpectedCharacter c offset)
  /-- A quote has no other one that closes it. -/
  | quote {quote : Char} {source : List Char} :
      IsQuote quote → (∀ value inner, Quoted quote value inner → ¬inner <+: source) →
        Stuck offset (quote :: source) (.unterminatedString offset)
  /-- The longest lexeme is a numeral without a value. -/
  | numeral {numeral : Numeral} {source : List Char} :
      numeral.Bare → Number.ofText? numeral.text = none → Longest numeral.text source →
        Stuck offset source (.invalidNumber (String.ofList numeral.text) offset)

namespace Lexeme

/-- Whether what is taken off the front of a source is the longest lexeme there and stands for the
token it gives, or else nothing can be taken off. -/
def Fits (offset : Nat) {source : List Char} : Except ExprError (Lexeme source) → Prop
  | .ok lexeme => Denotes lexeme.kind lexeme.text ∧ Longest lexeme.text source
  | .error error => Stuck offset source error

variable (offset : Nat) {c : Char} (source : List Char)

theorem fits_numeral (h : c.isDigit = true) : Fits offset (numeral offset c source) := by
  have hlongest := longest_numeral h source
  obtain ⟨n, htext⟩ : ∃ n : Numeral, n.text = c :: (splitNumeral source).1 := by
    obtain ⟨B, hgreedy⟩ := Numeral.greedy_splitNumeral
    exact Numeral.exists_text_eq_cons_iff.2 ⟨h, hgreedy.mem source⟩
  unfold numeral
  by_cases hbare : n.Bare
  · have hnone := n.ofText?_text.1 hbare
    split
    · next x hx =>
      rw [← htext, hnone] at hx
      cases hx
    · rw [← htext] at hlongest ⊢
      exact .numeral hbare hnone hlongest
  · have hsome := n.ofText?_text.2 hbare
    split
    · next x hx =>
      rw [← htext, hsome] at hx
      cases hx
      have hdenotes : Denotes (.number n.value) n.text := .number hbare
      rw [htext] at hdenotes
      exact ⟨hdenotes, hlongest⟩
    · next hx =>
      rw [← htext, hsome] at hx
      cases hx

theorem fits_string (h : IsQuote c) : Fits offset (string offset c source) := by
  unfold string
  split
  · next q hq => exact ⟨.string h (quoted_of_quotation? hq), longest_string h hq⟩
  · next hnone =>
    refine .quote h fun value inner hquoted => ?_
    rintro ⟨rest, rfl⟩
    cases hnone.symm.trans (quotation?_of_quoted h.ne_backslash hquoted rest)

theorem fits_identifier (h : isIdentifierStart c = true) :
    Fits offset (.ok (identifier c source)) := by
  have hparts : ∀ d ∈ source.takeWhile isIdentifierPart, isIdentifierPart d = true :=
    (Text.Greedy.run isIdentifierPart).mem source
  have hidentifier : IsIdentifier (c :: source.takeWhile isIdentifierPart) :=
    ⟨c, _, rfl, isIdentifierStart_iff.1 h, fun d hmem => isIdentifierPart_iff.1 (hparts d hmem)⟩
  exact ⟨.identifier hidentifier, longest_identifier h source⟩

theorem fits_symbol (hblank : Text.isBlank c = false) (hdigit : c.isDigit = false)
    (hquote : ¬IsQuote c) (hstart : isIdentifierStart c = false) :
    Fits offset (symbol offset c source) := by
  unfold symbol
  split
  · next sign rest hfound => exact ⟨.symbol sign, longest_symbol hdigit hquote hstart hfound⟩
  · next hnone =>
    exact .character hblank hquote fun _ => not_form_of_firstSymbol? hdigit hquote hstart hnone

theorem fits_first (hblank : Text.isBlank c = false) : Fits offset (first offset c source) := by
  unfold first
  split
  · next hdigit => exact fits_numeral offset source hdigit
  · next hdigit =>
    split
    · next hquote => exact fits_string offset source hquote
    · next hquote =>
      split
      · next hstart => exact fits_identifier offset source hstart
      · next hstart =>
        exact fits_symbol offset source hblank (Bool.eq_false_iff.2 hdigit) hquote
          (Bool.eq_false_iff.2 hstart)

end Lexeme

/-! ## Whole sources -/

namespace Token

/-- Whether a source that starts `offset` bytes into the whole is made up of lexemes with blanks
between them, each the longest at its place, and then perhaps blanks, up to where `left` is left.
The tokens are what the lexemes denote, with the bytes they start at. -/
inductive Splits (left : List Char) : Nat → List Char → List Token → Prop
  | blank {offset : Nat} {gap : List Char} : Blank gap → Splits left offset (gap ++ left) []
  | lexeme {offset : Nat} {gap text rest : List Char} {kind : TokenKind} {tokens : List Token} :
      Blank gap → Denotes kind text → Longest text (text ++ rest) →
        Splits left (offset + byteLength gap + byteLength text) rest tokens →
        Splits left offset (gap ++ (text ++ rest)) (⟨kind, offset + byteLength gap⟩ :: tokens)

variable {left source : List Char} {offset : Nat} {tokens : List Token}

theorem Splits.cons {c : Char} (hc : Text.isBlank c = true)
    (h : Splits left (offset + c.utf8Size) source tokens) :
    Splits left offset (c :: source) tokens := by
  cases h with
  | @blank _ gap hgap => exact .blank (List.forall_mem_cons.2 ⟨hc, hgap⟩)
  | @lexeme _ gap text rest kind tokens hgap hdenotes hlongest hrest =>
      have hblank : Blank (c :: gap) := List.forall_mem_cons.2 ⟨hc, hgap⟩
      rw [Nat.add_assoc offset, ← Text.byteLength_cons] at hrest ⊢
      exact .lexeme hblank hdenotes hlongest hrest

theorem Splits.le_offset (h : Splits left offset source tokens) :
    ∀ token ∈ tokens, offset ≤ token.offset := by
  induction h with
  | blank => nofun
  | lexeme _ _ _ _ ih =>
      refine List.forall_mem_cons.2 ⟨Nat.le_add_right _ _, fun token hmem => ?_⟩
      have := ih token hmem
      omega

/-- A lexeme starts behind where the one in front of it starts. -/
theorem Splits.pairwise_lt (h : Splits left offset source tokens) :
    tokens.Pairwise (·.offset < ·.offset) := by
  induction h with
  | blank => exact .nil
  | @lexeme offset gap text _ _ _ _ hdenotes _ hrest ih =>
      refine .cons (fun token hmem => ?_) ih
      obtain ⟨c, text, rfl⟩ := List.exists_cons_of_ne_nil hdenotes.form.ne_nil
      have hle := hrest.le_offset token hmem
      have hpos := c.utf8Size_pos
      rw [Text.byteLength_cons] at hle
      dsimp only
      omega

/-- Whether the tokens of a source are those of its longest lexemes, or else the source is split in
the same way up to where no token can be taken off. -/
def Munched (offset : Nat) (source : List Char) : Except ExprError (List Token) → Prop
  | .ok tokens => Splits [] offset source tokens
  | .error error => ∃ front left tokens, source = front ++ left ∧
      Splits left offset source tokens ∧ Stuck (offset + byteLength front) left error

theorem Munched.cons {c : Char} (hc : Text.isBlank c = true)
    {result : Except ExprError (List Token)} (h : Munched (offset + c.utf8Size) source result) :
    Munched offset (c :: source) result := by
  cases result with
  | ok tokens => exact Splits.cons hc h
  | error error =>
      obtain ⟨front, left, tokens, rfl, hsplits, hstuck⟩ := h
      rw [Nat.add_assoc, ← Text.byteLength_cons] at hstuck
      exact ⟨c :: front, left, tokens, rfl, hsplits.cons hc, hstuck⟩

section

variable {kind : TokenKind} {text rest : List Char} (hsource : text ++ rest = source)
  (hdenotes : Denotes kind text) (hlongest : Longest text source)
include hsource hdenotes hlongest

theorem Splits.front (h : Splits left (offset + byteLength text) rest tokens) :
    Splits left offset source (⟨kind, offset⟩ :: tokens) := by
  subst hsource
  exact @Splits.lexeme left offset [] text rest kind tokens Text.blank_nil hdenotes hlongest h

theorem Munched.front {result : Except ExprError (List Token)}
    (h : Munched (offset + byteLength text) rest result) :
    Munched offset source (result.map (⟨kind, offset⟩ :: ·)) := by
  cases result with
  | ok tokens => exact Splits.front hsource hdenotes hlongest h
  | error error =>
      obtain ⟨front, left, tokens, hrest, hsplits, hstuck⟩ := h
      rw [Nat.add_assoc, ← Text.byteLength_append] at hstuck
      refine ⟨text ++ front, left, _, ?_, hsplits.front hsource hdenotes hlongest, hstuck⟩
      rw [List.append_assoc, ← hrest, hsource]

end

theorem munched_scan (offset : Nat) (source : List Char) :
    Munched offset source (scan offset source) := by
  fun_induction scan offset source with
  | case1 => exact .blank Text.blank_nil
  | case2 offset c source hblank ih => exact ih.cons hblank
  | case3 offset c source hblank ih =>
      have hfits := Lexeme.fits_first offset source (Bool.eq_false_iff.2 hblank)
      cases hfirst : Lexeme.first offset c source with
      | error error =>
          rw [hfirst] at hfits
          exact ⟨[], c :: source, [], rfl, .blank Text.blank_nil, hfits⟩
      | ok lexeme =>
          rw [hfirst] at hfits
          exact (ih lexeme).front lexeme.text_append_rest hfits.1 hfits.2

end Token

/-- The tokens of a source are what its lexemes denote, each the longest at its place and with
nothing but blanks between them, and each starts behind the one in front of it. A source without
tokens is split in this way up to the place that the error names, and there stands a character that
no lexeme starts with, a quote that is never closed, or a numeral without a value, which only a
numeral is whose exponent has no digits. -/
theorem tokens_of_longest_lexemes (source : String) :
    (∀ tokens, Token.ofSource source = .ok tokens →
      Token.Splits [] 0 source.toList tokens ∧ tokens.Pairwise (·.offset < ·.offset)) ∧
    (∀ error, Token.ofSource source = .error error →
      ∃ front left tokens, source.toList = front ++ left ∧
        Token.Splits left 0 source.toList tokens ∧ tokens.Pairwise (·.offset < ·.offset) ∧
        Stuck (byteLength front) left error) ∧
    ∀ numeral : Numeral, Number.ofText? numeral.text = none ↔ numeral.Bare := by
  have hmunched := Token.munched_scan 0 source.toList
  rw [← Token.ofSource] at hmunched
  refine ⟨fun tokens htokens => ?_, fun error herror => ?_, fun numeral => ?_⟩
  · rw [htokens] at hmunched
    exact ⟨hmunched, hmunched.pairwise_lt⟩
  · rw [herror] at hmunched
    obtain ⟨front, left, tokens, hsource, hsplits, hstuck⟩ := hmunched
    rw [Nat.zero_add] at hstuck
    exact ⟨front, left, tokens, hsource, hsplits, hsplits.pairwise_lt, hstuck⟩
  · refine ⟨fun hnone => ?_, numeral.ofText?_text.1⟩
    by_contra hbare
    cases hnone.symm.trans (numeral.ofText?_text.2 hbare)

/-- A string literal with an escape and a character of two bytes in front of a name, and an exponent
without digits behind one. -/
theorem tokens_of_literal_and_bare_exponent :
    (Token.ofSource "x 'é\\n' b" =
        .ok [⟨.identifier "x", 0⟩, ⟨.string "é\n", 2⟩, ⟨.identifier "b", 9⟩] ∧
      Token.Splits [] 0 "x 'é\\n' b".toList
        [⟨.identifier "x", 0⟩, ⟨.string "é\n", 2⟩, ⟨.identifier "b", 9⟩]) ∧
    Token.ofSource "x 1e" = .error (.invalidNumber "1e" 2) ∧
      ∃ front left tokens, "x 1e".toList = front ++ left ∧
        Token.Splits left 0 "x 1e".toList tokens ∧ tokens.Pairwise (·.offset < ·.offset) ∧
        Stuck (byteLength front) left (.invalidNumber "1e" 2) := by
  have hsome : Token.ofSource "x 'é\\n' b" =
      .ok [⟨.identifier "x", 0⟩, ⟨.string "é\n", 2⟩, ⟨.identifier "b", 9⟩] := by
    decide +kernel
  have hnone : Token.ofSource "x 1e" = .error (.invalidNumber "1e" 2) := by
    decide +kernel
  exact ⟨⟨hsome, ((tokens_of_longest_lexemes _).1 _ hsome).1⟩, hnone,
    (tokens_of_longest_lexemes _).2.1 _ hnone⟩

end HttpDoctest
