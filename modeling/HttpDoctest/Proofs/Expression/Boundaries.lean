import HttpDoctest.Expression.Lexeme
import HttpDoctest.Proofs.Execution

set_option autoImplicit false

/-! # Where lexemes end

No lexeme but a string literal can hold a semicolon behind its first character. So the lexeme at
the front of a source is the same when a semicolon and more follow the source
(`Lexeme.first_append`), and the tokens of two sources with a semicolon between them are those of
the one, the semicolon, and those of the other (`Token.scan_append`). Where in a whole a source
stands does not matter but for the places of its tokens (`Token.scan_shift`).
-/

namespace HttpDoctest

/-! ## Runs of characters -/

section Runs

variable {p : Char → Bool} {d : Char}

theorem takeWhile_append_stop (h : p d = false) (text more : List Char) :
    (text ++ d :: more).takeWhile p = text.takeWhile p := by
  induction text with
  | nil => simp [h]
  | cons c text ih => by_cases hc : p c <;> simp [hc, ih]

theorem dropWhile_append_stop (h : p d = false) (text more : List Char) :
    (text ++ d :: more).dropWhile p = text.dropWhile p ++ d :: more := by
  induction text with
  | nil => simp [h]
  | cons c text ih => by_cases hc : p c <;> simp [hc, ih]

/-- A text without `d` is found in front of `d` or not at all. -/
theorem Text.afterPrefix?_append_stop {start : List Char} (h : d ∉ start) (text more : List Char) :
    Text.afterPrefix? start (text ++ d :: more) =
      (Text.afterPrefix? start text).map (· ++ d :: more) := by
  induction start generalizing text with
  | nil => rfl
  | cons s start ih =>
      rw [List.mem_cons, not_or] at h
      cases text with
      | nil => simp [Text.afterPrefix?, Ne.symm h.1]
      | cons c text =>
          by_cases hs : s = c
          · simp [Text.afterPrefix?, hs, ih h.2]
          · simp [Text.afterPrefix?, hs]

end Runs

/-! ## Lexemes -/

namespace Lexeme

/-- The same lexeme with more behind its source. -/
def extend {source : List Char} (lexeme : Lexeme source) (more : List Char) :
    Lexeme (source ++ more) where
  kind := lexeme.kind
  text := lexeme.text
  rest := lexeme.rest ++ more
  text_append_rest := by rw [← List.append_assoc, lexeme.text_append_rest]
  text_ne_nil := lexeme.text_ne_nil

theorem ext {source : List Char} {lexeme lexeme' : Lexeme source}
    (hkind : lexeme.kind = lexeme'.kind) (htext : lexeme.text = lexeme'.text)
    (hrest : lexeme.rest = lexeme'.rest) : lexeme = lexeme' := by
  cases lexeme
  cases lexeme'
  cases hkind
  cases htext
  cases hrest
  rfl

theorem identifier_append (c : Char) (source more : List Char) :
    identifier c (source ++ ';' :: more) = (identifier c source).extend (';' :: more) := by
  have hstop : isIdentifierPart ';' = false := by decide
  apply ext
  · simp [identifier, extend, takeWhile_append_stop hstop]
  · simp [identifier, extend, takeWhile_append_stop hstop]
  · simp [identifier, extend, dropWhile_append_stop hstop]

theorem splitPlaces_append_stop (source more : List Char) :
    splitPlaces (source ++ ';' :: more) =
      ((splitPlaces source).1, (splitPlaces source).2 ++ ';' :: more) := by
  have hstop : Char.isDigit ';' = false := by decide
  cases source with
  | nil => rfl
  | cons c source =>
      by_cases hc : c = '.'
      · subst hc
        simp [splitPlaces, takeWhile_append_stop hstop, dropWhile_append_stop hstop]
      · simp [splitPlaces, hc]

theorem splitSign_append_stop (source more : List Char) :
    splitSign (source ++ ';' :: more) =
      ((splitSign source).1, (splitSign source).2 ++ ';' :: more) := by
  cases source with
  | nil => rfl
  | cons c source =>
      by_cases hplus : c = '+'
      · subst hplus
        rfl
      · by_cases hminus : c = '-'
        · subst hminus
          rfl
        · simp [splitSign, hplus, hminus]

theorem splitExponent_append_stop (source more : List Char) :
    splitExponent (source ++ ';' :: more) =
      ((splitExponent source).1, (splitExponent source).2 ++ ';' :: more) := by
  have hstop : Char.isDigit ';' = false := by decide
  cases source with
  | nil => rfl
  | cons c source =>
      by_cases hc : c = 'e' ∨ c = 'E'
      · simp [splitExponent, hc, splitSign_append_stop, takeWhile_append_stop hstop,
          dropWhile_append_stop hstop]
      · simp [splitExponent, hc]

theorem splitNumeral_append_stop (source more : List Char) :
    splitNumeral (source ++ ';' :: more) =
      ((splitNumeral source).1, (splitNumeral source).2 ++ ';' :: more) := by
  have hstop : Char.isDigit ';' = false := by decide
  simp [splitNumeral, takeWhile_append_stop hstop, dropWhile_append_stop hstop,
    splitPlaces_append_stop, splitExponent_append_stop]

theorem numeral_append {offset : Nat} {c : Char} {source : List Char}
    {lexeme : Lexeme (c :: source)} (h : numeral offset c source = .ok lexeme) (more : List Char) :
    numeral offset c (source ++ ';' :: more) = .ok (lexeme.extend (';' :: more)) := by
  have hsplit := splitNumeral_append_stop source more
  unfold numeral at h
  split at h
  · next x hx =>
    cases h
    unfold numeral
    split
    · next x' hx' =>
      rw [hsplit, hx] at hx'
      cases hx'
      exact congrArg Except.ok
        (ext rfl (congrArg (c :: ·.1) hsplit) (congrArg Prod.snd hsplit))
    · next hnone =>
      rw [hsplit, hx] at hnone
      cases hnone
  · cases h

theorem quotation?_close (quote : Char) (source : List Char) :
    quotation? quote (quote :: source) = some ⟨[], [quote], source⟩ := by
  rw [quotation?.eq_def]
  exact if_pos rfl

theorem quotation?_escape {quote : Char} (hquote : '\\' ≠ quote) (e : Char) (source : List Char) :
    quotation? quote ('\\' :: e :: source) =
      (quotation? quote source).map fun q =>
        ⟨unescape e :: q.value, '\\' :: e :: q.text, q.rest⟩ := by
  rw [quotation?.eq_def]
  exact (if_neg hquote).trans (if_pos rfl)

theorem quotation?_cons {quote c : Char} (hquote : c ≠ quote) (hslash : c ≠ '\\')
    (source : List Char) :
    quotation? quote (c :: source) =
      (quotation? quote source).map fun q => ⟨c :: q.value, c :: q.text, q.rest⟩ := by
  rw [quotation?.eq_def]
  exact (if_neg hquote).trans (if_neg hslash)

/-- What follows a string literal is no part of it, whatever it is. -/
theorem quotation?_append {quote : Char} {source : List Char} {q : Quotation}
    (h : quotation? quote source = some q) (more : List Char) :
    quotation? quote (source ++ more) = some ⟨q.value, q.text, q.rest ++ more⟩ := by
  fun_induction quotation? quote source generalizing q with
  | case1 => cases h
  | case2 source =>
      cases h
      rw [List.cons_append, quotation?_close]
  | case3 => cases h
  | case4 e source hquote ih =>
      obtain ⟨p, hp, rfl⟩ := Option.map_eq_some_iff.1 h
      rw [List.cons_append, List.cons_append, quotation?_escape hquote, ih hp]
      rfl
  | case5 c source hquote hslash ih =>
      obtain ⟨p, hp, rfl⟩ := Option.map_eq_some_iff.1 h
      rw [List.cons_append, quotation?_cons hquote hslash, ih hp]
      rfl

theorem string_append {offset : Nat} {quote : Char} {source : List Char}
    {lexeme : Lexeme (quote :: source)} (h : string offset quote source = .ok lexeme)
    (more : List Char) :
    string offset quote (source ++ more) = .ok (lexeme.extend more) := by
  unfold string at h
  split at h
  · next q hq =>
    cases h
    unfold string
    split
    · next q' hq' =>
      cases (quotation?_append hq more).symm.trans hq'
      rfl
    · next hnone => cases (quotation?_append hq more).symm.trans hnone
  · cases h

/-- A symbol holds a semicolon as its first character at most. -/
theorem semicolon_not_mem_tail (symbol : Symbol) : ';' ∉ symbol.text.toList.tail := by
  cases symbol <;> decide

theorem afterPrefix?_symbol_append (symbol : Symbol) (c : Char) (source more : List Char) :
    Text.afterPrefix? symbol.text.toList (c :: (source ++ ';' :: more)) =
      (Text.afterPrefix? symbol.text.toList (c :: source)).map (· ++ ';' :: more) := by
  have hmem := semicolon_not_mem_tail symbol
  cases htext : symbol.text.toList with
  | nil => exact absurd htext (toList_text_ne_nil symbol)
  | cons s start =>
      rw [htext, List.tail_cons] at hmem
      by_cases hs : s = c
      · simp [Text.afterPrefix?, hs, Text.afterPrefix?_append_stop hmem]
      · simp [Text.afterPrefix?, hs]

theorem firstSymbol?_append (symbols : List Symbol) (c : Char) (source more : List Char) :
    firstSymbol? symbols (c :: (source ++ ';' :: more)) =
      (firstSymbol? symbols (c :: source)).map fun found => (found.1, found.2 ++ ';' :: more) := by
  induction symbols with
  | nil => rfl
  | cons symbol symbols ih =>
      unfold firstSymbol? at ih ⊢
      rw [List.findSome?_cons, List.findSome?_cons, afterPrefix?_symbol_append, ih]
      cases Text.afterPrefix? symbol.text.toList (c :: source) <;> rfl

theorem symbol_append {offset : Nat} {c : Char} {source : List Char}
    {lexeme : Lexeme (c :: source)} (h : symbol offset c source = .ok lexeme) (more : List Char) :
    symbol offset c (source ++ ';' :: more) = .ok (lexeme.extend (';' :: more)) := by
  unfold symbol at h
  split at h
  · next sign rest hfound =>
    cases h
    have hfound' : firstSymbol? Symbol.longestFirst (c :: (source ++ ';' :: more)) =
        some (sign, rest ++ ';' :: more) := by
      rw [firstSymbol?_append, hfound]
      rfl
    unfold symbol
    split
    · next sign' rest' h' =>
      cases hfound'.symm.trans h'
      rfl
    · next hnone => cases hfound'.symm.trans hnone
  · cases h

/-- A lexeme ends in front of a semicolon if not before. -/
theorem first_append {offset : Nat} {c : Char} {source : List Char} {lexeme : Lexeme (c :: source)}
    (h : first offset c source = .ok lexeme) (more : List Char) :
    first offset c (source ++ ';' :: more) = .ok (lexeme.extend (';' :: more)) := by
  unfold first at h ⊢
  split at h
  · next hdigit =>
    rw [if_pos hdigit]
    exact numeral_append h more
  · next hdigit =>
    rw [if_neg hdigit]
    split at h
    · next hquote =>
      rw [if_pos hquote]
      exact string_append h (';' :: more)
    · next hquote =>
      rw [if_neg hquote]
      split at h
      · next hstart =>
        rw [if_pos hstart]
        cases h
        exact congrArg Except.ok (identifier_append c source more)
      · next hstart =>
        rw [if_neg hstart]
        exact symbol_append h more

end Lexeme

/-! ## Places -/

/-- The error of a source that starts `n` bytes later. -/
def ExprError.shift (n : Nat) : ExprError → ExprError
  | unexpectedCharacter character offset => unexpectedCharacter character (offset + n)
  | unterminatedString offset => unterminatedString (offset + n)
  | invalidNumber literal offset => invalidNumber literal (offset + n)
  | unexpectedToken found offset => unexpectedToken found (offset + n)
  | error => error

/-- The token of a source that starts `n` bytes later. -/
def Token.shift (n : Nat) (token : Token) : Token :=
  ⟨token.kind, token.offset + n⟩

theorem Lexeme.first_shift (n offset : Nat) (c : Char) (source : List Char) :
    first (offset + n) c source = (first offset c source).mapError (ExprError.shift n) := by
  unfold first
  split
  · unfold numeral
    split <;> rfl
  · split
    · unfold string
      split <;> rfl
    · split
      · rfl
      · unfold symbol
        split <;> rfl

namespace Token

theorem scan_nil (offset : Nat) : scan offset [] = .ok [] := by
  rw [scan.eq_def]

theorem scan_blank {c : Char} (h : Text.isBlank c = true) (offset : Nat) (source : List Char) :
    scan offset (c :: source) = scan (offset + c.utf8Size) source := by
  rw [scan.eq_def]
  exact if_pos h

theorem scan_cons {c : Char} (h : Text.isBlank c = false) (offset : Nat) (source : List Char) :
    scan offset (c :: source) = Lexeme.first offset c source >>= fun lexeme =>
      (scan (offset + Text.byteLength lexeme.text) lexeme.rest).map
        (⟨lexeme.kind, offset⟩ :: ·) := by
  rw [scan.eq_def]
  exact if_neg (Bool.not_eq_true _ ▸ h)

/-- The tokens of a source that starts later are the same at later places, and so is the error. -/
theorem scan_shift (n offset : Nat) (source : List Char) :
    scan (offset + n) source =
      ((scan offset source).map (List.map (shift n))).mapError (ExprError.shift n) := by
  fun_induction scan offset source with
  | case1 => rw [scan_nil]; rfl
  | case2 offset c source hblank ih =>
      rw [scan_blank hblank, Nat.add_right_comm, ih]
  | case3 offset c source hblank ih =>
      rw [scan_cons (Bool.eq_false_iff.2 hblank), Lexeme.first_shift]
      cases hfirst : Lexeme.first offset c source with
      | error error => rfl
      | ok lexeme =>
          have htail := ih lexeme
          rw [Nat.add_right_comm] at htail
          dsimp only [Except.mapError, bind, Except.bind]
          rw [htail]
          cases scan (offset + Text.byteLength lexeme.text) lexeme.rest <;> rfl

/-- A semicolon stands for itself. -/
theorem scan_semicolon (offset : Nat) (more : List Char) :
    scan offset (';' :: more) =
      (scan (offset + 1) more).map (⟨.symbol .semicolon, offset⟩ :: ·) := by
  have hfirst : Lexeme.first offset ';' more =
      .ok ⟨.symbol .semicolon, [';'], more, rfl, List.cons_ne_nil _ _⟩ := rfl
  rw [scan_cons (by decide), hfirst]
  rfl

/-- The tokens of two sources with a semicolon between them. -/
theorem scan_append {offset : Nat} {source : List Char} {tokens : List Token}
    (h : scan offset source = .ok tokens) (more : List Char) :
    scan offset (source ++ ';' :: more) =
      (scan (offset + Text.byteLength source + 1) more).map fun behind =>
        tokens ++ ⟨.symbol .semicolon, offset + Text.byteLength source⟩ :: behind := by
  fun_induction scan offset source generalizing tokens with
  | case1 offset =>
      cases h
      exact scan_semicolon offset more
  | case2 offset c source hblank ih =>
      rw [List.cons_append, scan_blank hblank, ih h, Text.byteLength_cons, Nat.add_assoc offset]
  | case3 offset c source hblank ih =>
      obtain ⟨lexeme, hfirst, h⟩ := bind_eq_ok_iff.1 h
      obtain ⟨behind, hbehind, htokens⟩ := bind_eq_ok_iff.1 h
      cases htokens
      have hlength := congrArg Text.byteLength lexeme.text_append_rest
      rw [Text.byteLength_append] at hlength
      rw [List.cons_append, scan_cons (Bool.eq_false_iff.2 hblank), Lexeme.first_append hfirst]
      dsimp only [bind, Except.bind, Lexeme.extend]
      rw [ih lexeme hbehind, Nat.add_assoc offset, hlength]
      cases scan (offset + Text.byteLength (c :: source) + 1) more <;> rfl

end Token

end HttpDoctest
