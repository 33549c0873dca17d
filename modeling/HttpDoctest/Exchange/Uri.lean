set_option autoImplicit false

/-! # URIs

Whether a text is a URI, and which parts it has. A URI is a path on its own, an authority on
its own, or a scheme, an authority and a path. Characters outside ASCII stand in none of them.
-/

namespace HttpDoctest.Uri

/-- The parts that a URI has. -/
inductive Form where
  /-- A path that starts with a slash, or a single star. -/
  | path
  /-- The name of a server. -/
  | authority
  /-- A scheme, a server and perhaps a path. -/
  | absolute
deriving DecidableEq, Repr

/-- Whether `c` is one of the characters of `set`. -/
def isOneOf (set : String) (c : Char) : Bool :=
  set.toList.contains c

/-- Whether `c` may stand in a scheme. -/
def isSchemeChar (c : Char) : Bool :=
  c.isAlphanum || isOneOf "+-.~" c

/-- Whether `c` may stand in an authority. -/
def isAuthorityChar (c : Char) : Bool :=
  c.isAlphanum || isOneOf "!#$&\x27()*+,-./:;=?@[]_~" c

/-- Whether `c` may stand in a path. -/
def isPathChar (c : Char) : Bool :=
  c.isAlphanum || isOneOf "!\"$%&\x27()*+,-./:;=@[\\]^_\x7b|\x7d~" c

/-- Whether `c` may stand in a query. -/
def isQueryChar (c : Char) : Bool :=
  c.isAlphanum || isOneOf "!$%&\x27()*+,-./:;=?@[\\]^_\x60\x7b|\x7d~" c

/-- Whether a text is a path with perhaps a query. What follows a hash mark does not count. -/
def isPath (text : List Char) : Bool :=
  match text.dropWhile isPathChar with
  | [] => true
  | '#' :: _ => true
  | '?' :: query => match query.dropWhile isQueryChar with
    | [] => true
    | '#' :: _ => true
    | _ => false
  | _ => false

/-- What is known of an authority while it is read from left to right. -/
structure AuthorityScan where
  /-- The colons since the last `@` or closing bracket. -/
  colons : Nat
  opened : Bool
  closed : Bool
  /-- Whether there was a percent sign since the last `@` or closing bracket. -/
  percent : Bool
  /-- Whether the last character was an `@`. -/
  afterAt : Bool

/-- The scan of an authority after one more character. -/
def AuthorityScan.next? (scan : AuthorityScan) (c : Char) : Option AuthorityScan :=
  let scan' := { scan with afterAt := false }
  if c = ':' then
    if scan.colons < 8 then some { scan' with colons := scan.colons + 1 } else none
  else if c = '[' then
    if scan.percent || scan.opened then none else some { scan' with opened := true }
  else if c = ']' then
    if !scan.opened || scan.closed then none
    else some { scan' with closed := true, colons := 0, percent := false }
  else if c = '@' then some { scan' with colons := 0, percent := false, afterAt := true }
  else if c = '%' then some { scan' with percent := true }
  else if isAuthorityChar c then some scan'
  else none

/-- Whether a scan may end: brackets are closed, the name of the server is followed
by at most one colon and holds no percent sign, and something follows an `@`. -/
def AuthorityScan.mayEnd (scan : AuthorityScan) : Bool :=
  scan.opened == scan.closed && scan.colons ≤ 1 && !scan.afterAt && !scan.percent

/-- Whether a text is an authority. It may be empty. -/
def isAuthority (text : List Char) : Bool :=
  match text.foldlM AuthorityScan.next? ⟨0, false, false, false, false⟩ with
  | some scan => scan.mayEnd
  | none => false

/-- Whether `c` ends an authority. -/
def endsAuthority (c : Char) : Bool :=
  c == '/' || c == '?' || c == '#'

/-- The greatest length of a scheme other than the two of HTTP. -/
def schemeLimit : Nat := 64

/-- The greatest number of characters in a URI. -/
def lengthLimit : Nat := Nat.pow 2 16 - 2

/-- What follows the scheme of a text, or nothing if the text has no scheme. -/
def afterScheme? (text : List Char) : Option (List Char) :=
  match text.dropWhile isSchemeChar with
  | ':' :: '/' :: '/' :: rest => some rest
  | _ => none

/-- The form of a text, if it is a URI. -/
def form? (text : List Char) : Option Form :=
  if text.isEmpty || lengthLimit < text.length then none
  else if text = ['*'] then some .path
  else if text.head? = some '/' then if isPath text then some .path else none
  else match afterScheme? text with
    | none => if isAuthority text && !text.any endsAuthority then some .authority else none
    | some rest =>
        let server := rest.takeWhile (!endsAuthority ·)
        let scheme := text.length - rest.length - 3
        if scheme ≤ schemeLimit && !server.isEmpty && isAuthority server &&
            isPath (rest.dropWhile (!endsAuthority ·)) then some .absolute
        else none

end HttpDoctest.Uri
