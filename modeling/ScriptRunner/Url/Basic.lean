import ScriptRunner.Text.Basic

/-!
# URLs

A URL has a scheme and either an authority and a path, or a path alone. User name, password, path,
query and fragment are held in their encoded form. `Url.toText` writes a URL; what it writes is in
normal form, as all that is read into a `Url` is.
-/

namespace ScriptRunner

open Text

/-- Why a text is no URL. -/
inductive UrlError where
  | relativeWithoutBase
  | emptyHost
  | invalidPort
  | invalidIpv4
  | invalidIpv6
  | invalidDomainCharacter
  | invalidDomainName
  deriving DecidableEq, Repr

/-- The wording of an error. -/
def UrlError.message : UrlError → Text
  | relativeWithoutBase => "relative URL without a base"
  | emptyHost => "empty host"
  | invalidPort => "invalid port number"
  | invalidIpv4 => "invalid IPv4 address"
  | invalidIpv6 => "invalid IPv6 address"
  | invalidDomainCharacter => "invalid domain character"
  | invalidDomainName => "invalid international domain name"

/-- The name or the address of a host, as it is written. -/
structure Authority where
  username : Text := []
  /-- A password is never empty. -/
  password : Option Text := none
  host : Text
  port : Option Nat := none
  deriving DecidableEq, Repr

namespace Authority

/-- Whether something is written in front of the host. -/
def hasUser (a : Authority) : Bool := !a.username.isEmpty || a.password.isSome

/-- What is written in front of the host. -/
def userText (a : Authority) : Text :=
  if a.hasUser then
    a.username ++ (a.password.map fun p => ':' :: p).getD [] ++ ['@']
  else []

/-- The written form of an authority. -/
def toText (a : Authority) : Text :=
  a.userText ++ a.host ++ (a.port.map fun p => ':' :: Text.ofNat p).getD []

end Authority

/-- A URL. -/
structure Url where
  scheme : Text
  authority : Option Authority := none
  path : Text := []
  query : Option Text := none
  fragment : Option Text := none
  deriving DecidableEq, Repr

namespace Url

/-- Schemes whose URLs always have a host, with the ports that need not be written. -/
def specialPorts : List (Text × Nat) :=
  [("http", 80), ("https", 443), ("ws", 80), ("wss", 443), ("ftp", 21)].map fun p =>
    (p.1.toList, p.2)

/-- The scheme of local files, which has rules of its own. -/
def fileScheme : Text := "file"

/-- Whether a scheme is one of those that the rules for the web name. -/
def isSpecialScheme (scheme : Text) : Bool :=
  scheme == fileScheme || specialPorts.any fun p => p.1 == scheme

/-- The port that a URL of the scheme has when none is written. -/
def defaultPort? (scheme : Text) : Option Nat := specialPorts.lookup scheme

/-- The written form of a URL. -/
def toText (u : Url) : Text :=
  u.scheme ++ [':'] ++ (u.authority.map fun a => '/' :: '/' :: a.toText).getD [] ++ u.path
    ++ (u.query.map fun q => '?' :: q).getD [] ++ (u.fragment.map fun f => '#' :: f).getD []

end Url

end ScriptRunner
