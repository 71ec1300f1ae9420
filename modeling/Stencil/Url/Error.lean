/-!
# Invalid URLs

Why a text is no URL that a request can be sent to.
-/

namespace Stencil.Url

inductive Fault where
  | emptyHost
  | invalidDomain
  | invalidPort
  | invalidIpv4
  | invalidIpv6
  | forbiddenCharacter
  | relativeWithoutBase
  | unsupportedScheme (scheme : String)
deriving DecidableEq, Repr

def Fault.message : Fault → String
  | emptyHost => "empty host"
  | invalidDomain => "invalid international domain name"
  | invalidPort => "invalid port number"
  | invalidIpv4 => "invalid IPv4 address"
  | invalidIpv6 => "invalid IPv6 address"
  | forbiddenCharacter => "invalid domain character"
  | relativeWithoutBase => "relative URL without a base"
  | unsupportedScheme scheme => "unsupported scheme '" ++ scheme ++ "'"

end Stencil.Url
