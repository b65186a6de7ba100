/-!
# URL errors

Why a text is no URL, and how each cause is worded.
-/

namespace EvmWallet.Url

/-- The causes of failure. -/
inductive Error where
  | emptyHost
  /-- A name of the web with a character that none may hold. -/
  | invalidName
  | invalidPort
  | invalidIpv4
  | invalidIpv6
  /-- A host of another scheme with a character that separates parts of a URL. -/
  | invalidCharacter
  /-- No scheme, and nothing that the text could be relative to. -/
  | relative
  /-- A relative text whose base has no hierarchy. -/
  | rootlessBase
  deriving DecidableEq, Repr

/-- The wording of a cause. -/
def Error.message : Error → String
  | emptyHost => "empty host"
  | invalidName => "invalid international domain name"
  | invalidPort => "invalid port number"
  | invalidIpv4 => "invalid IPv4 address"
  | invalidIpv6 => "invalid IPv6 address"
  | invalidCharacter => "invalid domain character"
  | relative => "relative URL without a base"
  | rootlessBase => "relative URL with a cannot-be-a-base base"

end EvmWallet.Url
