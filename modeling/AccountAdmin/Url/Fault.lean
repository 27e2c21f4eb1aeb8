/-!
# Refused URLs

A text is refused as a URL for one of a few causes.  Each belongs to one part of the text, and the
parts are looked at in the order scheme, host, port; a path, a query or a fragment is never refused.
-/

namespace AccountAdmin.Url

/-- Why a text is no absolute URL. -/
inductive Fault where
  /-- The text does not start with a scheme. -/
  | noScheme
  /-- The authority has no host where there has to be one. -/
  | emptyHost
  /-- The host is not a domain name. -/
  | badDomain
  /-- The host of a scheme without domain names holds a character that none may hold. -/
  | badHostCharacter
  /-- The host is a number but not an IPv4 address. -/
  | badIpv4
  /-- The host is in brackets but not an IPv6 address. -/
  | badIpv6
  /-- The port is not a number below 65536. -/
  | badPort
  deriving DecidableEq, Repr

/-- The wording of a refusal. -/
def Fault.message : Fault → String
  | noScheme => "relative URL without a base"
  | emptyHost => "empty host"
  | badDomain => "invalid international domain name"
  | badHostCharacter => "invalid domain character"
  | badIpv4 => "invalid IPv4 address"
  | badIpv6 => "invalid IPv6 address"
  | badPort => "invalid port number"

end AccountAdmin.Url
