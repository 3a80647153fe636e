import ScriptRunner.Url.Address
import ScriptRunner.Url.Basic
import ScriptRunner.Url.DomainName

/-!
# Hosts

A host in brackets is an IPv6 address. For schemes that are not special any other host is taken as
it is, as long as it has no character that would end it. For special schemes it is a domain name:
it is decoded and put in its ASCII form, and read as an IPv4 address if it ends in a number.
-/

namespace ScriptRunner.Url

open Text

/-- Read an address in brackets. -/
def bracketHost (s : Text) : Except UrlError Text :=
  if s.getLast? = some ']' then
    match ipv6? (s.drop 1).dropLast with
    | some pieces => .ok (['['] ++ ipv6Text pieces ++ [']'])
    | none => .error .invalidIpv6
  else .error .invalidIpv6

/-- Read the host of a URL whose scheme is not special. -/
def opaqueHost (s : Text) : Except UrlError Text :=
  if s.head? = some '[' then bracketHost s
  else if s.any hostBreaks.contains then .error .invalidDomainCharacter
  else .ok (percentEncode [] s)

/-- Read the host of a URL with a special scheme. -/
def specialHost (s : Text) : Except UrlError Text :=
  if s.head? = some '[' then bracketHost s
  else
    match (decode? (percentDecode s)).bind domainName? with
    | none => .error .invalidDomainName
    | some name =>
      if name = [] then .error .emptyHost
      else if endsInNumber name then
        match ipv4? name with
        | some n => .ok (ipv4Text n)
        | none => .error .invalidIpv4
      else .ok name

end ScriptRunner.Url
