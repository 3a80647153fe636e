import ScriptRunner.Url.Host
import ScriptRunner.Url.Path

/-!
# Reading URLs

Control characters and spaces at the ends of the text do not count, nor do tabs and line ends
anywhere. The authority ends at the first slash, question mark or number sign; the last at sign in
it ends the user name and password, so that an at sign in a password need not be encoded.
-/

namespace ScriptRunner.Url

open Text

/-- A text and what is left behind it. -/
abbrev Cut := Text × Text

/-- The text up to the first character with the property, and the rest from there. -/
def cutBefore (p : Char → Bool) (s : Text) : Cut := (s.takeWhile (!p ·), s.dropWhile (!p ·))

/-- The text that counts. -/
def significant (s : Text) : Text :=
  let edge (c : Char) : Bool := c ≤ ' '
  let s := ((s.dropWhile edge).reverse.dropWhile edge).reverse
  s.filter fun c => c != '\t' && c != '\n' && c != '\r'

/-- A character of a scheme. -/
def isSchemeChar (c : Char) : Bool := c.isAlphanum || c == '+' || c == '-' || c == '.'

/-- The scheme in lower case, and what follows its colon. -/
def cutScheme? (s : Text) : Option Cut :=
  if (s.head?.map Char.isAlpha).getD false then
    match s.dropWhile isSchemeChar with
    | ':' :: rest => some ((s.takeWhile isSchemeChar).map Char.toLower, rest)
    | _ => none
  else none

/-- A character that ends an authority. -/
def endsAuthority (special : Bool) (c : Char) : Bool :=
  c == '/' || c == '?' || c == '#' || (special && c == '\\')

/-- The text before the last at sign of the authority, if there is one, and what follows. -/
def cutUser (special : Bool) (s : Text) : Option Text × Text :=
  let (authority, rest) := cutBefore (endsAuthority special) s
  if '@' ∈ authority then
    let host := (authority.reverse.takeWhile (· != '@')).reverse
    (some (authority.take (authority.length - (host.length + 1))), host ++ rest)
  else (none, s)

/-- The user name and the password, encoded. An empty password is none. -/
def readUser (user : Text) : Text × Option Text :=
  let (name, password) := cutBefore (· == ':') user
  let password := percentEncode userMarks (password.drop 1)
  (percentEncode userMarks name, if password = [] then none else some password)

/-- The host, and what follows it. A colon inside brackets does not end a host. -/
def cutHost (special : Bool) (inBrackets : Bool) : Text → Cut
  | [] => ([], [])
  | c :: rest =>
    if endsAuthority special c || (c == ':' && !inBrackets) then ([], c :: rest)
    else
      let (host, behind) := cutHost special (c == '[' || (inBrackets && c != ']')) rest
      (c :: host, behind)

/-- The port that the text begins with, which a colon goes before, and what follows. A port that
goes without saying is left out. -/
def readPort (scheme : Text) (s : Text) : Except UrlError (Option Nat × Text) :=
  match s with
  | ':' :: s =>
    let (digits, rest) := cutBefore (!Char.isDigit ·) s
    let port := (digitsValue? 10 digits).getD 0
    let ended := (rest.head?.map (endsAuthority true)).getD true
    if 65535 < port || !ended then .error .invalidPort
    else if digits = [] ∨ defaultPort? scheme = some port then .ok (none, rest)
    else .ok (some port, rest)
  | s => .ok (none, s)

/-- Read the query and the fragment and complete the URL. -/
def finish (url : Url) (s : Text) : Url :=
  let (query, fragment) := cutBefore (· == '#') s
  let marks := if isSpecialScheme url.scheme then specialQueryMarks else queryMarks
  { url with
    query := if query = [] then none else some (percentEncode marks (query.drop 1))
    fragment :=
      if fragment = [] then none else some (percentEncode fragmentMarks (fragment.drop 1)) }

/-- Read the path, and then the query and the fragment. -/
def readPathAndRest (url : Url) (s : Text) : Url :=
  let special := isSpecialScheme url.scheme
  let (path, rest) := cutBefore (fun c => c == '?' || c == '#') s
  let slash (c : Char) : Bool := c == '/' || (special && c == '\\')
  let written :=
    match path with
    | [] => if special then readPath special [] else []
    | c :: more => readPath special (if slash c then more else path)
  finish { url with path := written } rest

/-- Read what follows the two slashes that open an authority. -/
def readAuthority (scheme s : Text) : Except UrlError Url := do
  let special := isSpecialScheme scheme
  let (user, s) := cutUser special s
  if user = some [] ∧ (s.head?.map (endsAuthority special)).getD false then
    throw UrlError.emptyHost
  let (username, password) := readUser (user.getD [])
  let (host, s) := cutHost special false s
  if special ∧ host = [] then throw UrlError.emptyHost
  let host ← if special then specialHost host else opaqueHost host
  if host = [] ∧ s.head? = some ':' then throw UrlError.emptyHost
  let (port, s) ← readPort scheme s
  let authority : Authority :=
    { username := username, password := password, host := host, port := port }
  if host = [] ∧ authority.hasUser then throw UrlError.emptyHost
  pure (readPathAndRest { scheme := scheme, authority := some authority } s)

/-- Read what follows the scheme of a local file. -/
def readFile (s : Text) : Except UrlError Url := do
  let slash (c : Char) : Bool := c == '/' || c == '\\'
  match s with
  | a :: b :: rest =>
    if slash a && slash b then
      let (host, behind) := cutBefore (endsAuthority true) rest
      let (host, behind) := if isDrive host then ([], rest) else (host, behind)
      let host ← if host = [] then pure [] else specialHost host
      let host := if host = "localhost".toList then [] else host
      pure (readPathAndRest { scheme := fileScheme, authority := some { host := host } } behind)
    else
      pure (readPathAndRest { scheme := fileScheme, authority := some { host := [] } } s)
  | _ => pure (readPathAndRest { scheme := fileScheme, authority := some { host := [] } } s)

/-- Read what follows the scheme of a URL without an authority. -/
def readBare (scheme s : Text) : Url :=
  match s with
  | '/' :: _ => readPathAndRest { scheme := scheme } s
  | _ =>
    let (path, rest) := cutBefore (fun c => c == '?' || c == '#') s
    finish { scheme := scheme, path := percentEncode [] path } rest

/-- Read a URL. -/
def read (s : Text) : Except UrlError Url :=
  match cutScheme? (significant s) with
  | none => .error .relativeWithoutBase
  | some (scheme, rest) =>
    if scheme = fileScheme then readFile rest
    else if isSpecialScheme scheme then
      readAuthority scheme (rest.dropWhile fun c => c == '/' || c == '\\')
    else
      match rest with
      | '/' :: '/' :: rest => readAuthority scheme rest
      | _ => .ok (readBare scheme rest)

end ScriptRunner.Url
