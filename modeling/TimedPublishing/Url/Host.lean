import TimedPublishing.DomainName.Basic
import TimedPublishing.Text.Utf8
import TimedPublishing.Url.Address
import TimedPublishing.Url.Percent

/-!
# Hosts

A host is a name or a network address. An address of 128 bits stands between brackets. What
the rest of the text means depends on the scheme. Some schemes read it as a domain name:
percent-encoding is undone, the name is brought into its ASCII form, and a name that ends in
a number is an address of 32 bits or nothing. To all other schemes it is a name as it
stands.

A text is no url for the first part that cannot be read: the scheme, the host, the port.
The host has a fault of its own for each of the forms that it can be meant to have.
-/

namespace TimedPublishing.Url

/-- Why a text is no url. -/
inductive Fault
  | noScheme
  | emptyHost
  | invalidPort
  | invalidDomain
  | invalidCharacter
  | invalidIpv4
  | invalidIpv6
deriving DecidableEq, Repr

/-- The wording of a fault. -/
def Fault.message : Fault → String
  | .noScheme => "relative URL without a base"
  | .emptyHost => "empty host"
  | .invalidPort => "invalid port number"
  | .invalidDomain => "invalid international domain name"
  | .invalidCharacter => "invalid domain character"
  | .invalidIpv4 => "invalid IPv4 address"
  | .invalidIpv6 => "invalid IPv6 address"

/-- The host of a url. The empty name stands for no host at all. -/
inductive Host
  | name (text : String)
  | ipv4 (address : Ipv4)
  | ipv6 (address : Ipv6)
deriving DecidableEq, Repr

namespace Host

/-- The written form of a host. -/
def text : Host → String
  | .name text => text
  | .ipv4 address => address.text
  | .ipv6 address => "[" ++ address.text ++ "]"

/-- No host. -/
def empty : Host := .name ""

/-- Read what follows an opening bracket: an address up to the closing one. -/
def bracketed? (text : List Char) : Except Fault Host :=
  if text.getLast? = some ']' then
    match Ipv6.read? text.dropLast with
    | some address => .ok (.ipv6 address)
    | none => .error .invalidIpv6
  else .error .invalidIpv6

/-- Read a domain name or an address. -/
def ofDomain? (text : List Char) : Except Fault Host :=
  match text with
  | '[' :: rest => bracketed? rest
  | _ =>
    match DomainName.toAscii? (Text.decodeUtf8 (decode text)) with
    | none => .error .invalidDomain
    | some [] => .error .emptyHost
    | some domain =>
      if Ipv4.isMeant domain then
        match Ipv4.read? domain with
        | some address => .ok (.ipv4 address)
        | none => .error .invalidIpv4
      else .ok (.name (String.ofList domain))

/-- The characters that a name cannot hold. -/
def isForbidden (character : Char) : Bool :=
  character.toNat = 0 || among "\t\n\r #/:<>?@[\\]^|" character.toNat

/-- Read a name as it stands, or an address of 128 bits. -/
def ofName? (text : List Char) : Except Fault Host :=
  match text with
  | '[' :: rest => bracketed? rest
  | _ =>
    if text.any isForbidden then .error .invalidCharacter
    else .ok (.name (String.ofList (encode isControl text)))

end Host

end TimedPublishing.Url
