import DeployOptions.Text.Quoted
import DeployOptions.Url.Address

/-! The authority of a URL, the part between `//` and the path, with its user-info and port. -/
namespace DeployOptions.Url

inductive Fault
  | unbalancedBracket
  | badVersionedAddress
  | notAnAddress (host : List Char)
  | bracketedOctets
  | ambiguous (authority : List Char)
  | portNotNumber (port : List Char)
  | portTooLong (digits : Nat)
  | portOutOfRange
deriving DecidableEq, Repr

def Fault.message : Fault → String
  | .unbalancedBracket => "Invalid IPv6 URL"
  | .badVersionedAddress => "IPvFuture address is invalid"
  | .notAnAddress host =>
    String.ofList (Text.Quoted.quote host) ++ " does not appear to be an IPv4 or IPv6 address"
  | .bracketedOctets => "An IPv4 address cannot be in brackets"
  | .ambiguous authority =>
    "netloc '" ++ String.ofList authority ++
      "' contains invalid characters under NFKC normalization"
  | .portNotNumber port =>
    "Port could not be cast to integer value as " ++ String.ofList (Text.Quoted.quote port)
  | .portTooLong digits =>
    "Exceeds the limit (4300 digits) for integer string conversion: value has " ++
      toString digits ++
      " digits; use sys.set_int_max_str_digits() to increase the limit"
  | .portOutOfRange => "Port out of range 0-65535"

/-- Controls and the space, which do not count at the front of a URL. -/
def isLeadingBlank (c : Char) : Bool := c.toNat ≤ 0x20

/-- Tabs and line ends, which do not count anywhere in a URL. -/
def isDropped (c : Char) : Bool := c = '\t' || c = '\r' || c = '\n'

def significant (s : List Char) : List Char :=
  (s.dropWhile isLeadingBlank).filter fun c => !isDropped c

def isLetter (c : Char) : Bool := ('a' ≤ c && c ≤ 'z') || ('A' ≤ c && c ≤ 'Z')

def isSchemeChar (c : Char) : Bool :=
  isLetter c || ('0' ≤ c && c ≤ '9') || c = '+' || c = '-' || c = '.'

/-- The text after the scheme and its colon, or all of it where there is no scheme. -/
def afterScheme (s : List Char) : List Char :=
  match Text.cutFirst ':' s with
  | (c :: scheme, some rest) =>
    if isLetter c && (c :: scheme).all isSchemeChar then rest else s
  | _ => s

def endsAuthority (c : Char) : Bool := c = '/' || c = '?' || c = '#'

/-- Characters whose compatibility form holds one of `/`, `?`, `#`, `@` and `:`. -/
def expandsToDelimiter (c : Char) : Bool :=
  [0x2047, 0x2048, 0x2049, 0x2100, 0x2101, 0x2105, 0x2106, 0x2A74, 0xFE13, 0xFE16, 0xFE55,
    0xFE56, 0xFE5F, 0xFE6B, 0xFF03, 0xFF0F, 0xFF1A, 0xFF1F, 0xFF20].contains c.toNat

def hostAndPort (authority : List Char) : List Char :=
  match Text.cutLast '@' authority with
  | some (_, host) => host
  | none => authority

/-- A bracketed host has to be an address of eight groups or a versioned one. -/
def checkBracketedHost (host : List Char) : Except Fault Unit :=
  if host.head? = some 'v' then
    if isVersioned host then .ok () else .error .badVersionedAddress
  else if isFourOctets host then .error .bracketedOctets
  else if isEightGroups host then .ok () else .error (.notAnAddress host)

/-- Brackets come in pairs around the host: nothing stands before them, and only a port after. An
authority with brackets in its user-info alone is checked as if its host were bracketed. -/
def checkBrackets (authority : List Char) : Except Fault Unit :=
  if '[' ∈ authority ∨ ']' ∈ authority then
    if '[' ∈ authority ∧ ']' ∈ authority then
      let place := hostAndPort authority
      match Text.cutFirst '[' place with
      | (before, some bracketed) =>
        let (host, after) := Text.cutFirst ']' bracketed
        let port := after.getD []
        if !before.isEmpty || !(port.isEmpty || port.head? = some ':') then
          .error .unbalancedBracket
        else checkBracketedHost host
      | (_, none) => checkBracketedHost (Text.cutFirst ':' place).1
    else .error .unbalancedBracket
  else .ok ()

def authority (s : List Char) : Except Fault (List Char) :=
  match afterScheme (significant s) with
  | '/' :: '/' :: rest =>
    let authority := rest.takeWhile fun c => !endsAuthority c
    match checkBrackets authority with
    | .error f => .error f
    | .ok () =>
      if authority.any expandsToDelimiter then .error (.ambiguous authority) else .ok authority
  | _ => .ok []

def userInfo? (authority : List Char) : Option (List Char) :=
  (Text.cutLast '@' authority).map (·.1)

/-- The password of an authority: what follows the first colon of its user-info. -/
def password? (authority : List Char) : Option (List Char) :=
  (userInfo? authority).bind fun info => (Text.cutFirst ':' info).2

def portText (authority : List Char) : List Char :=
  let place := hostAndPort authority
  let host := match Text.cutFirst '[' place with
    | (_, some bracketed) => (Text.cutFirst ']' bracketed).2.getD []
    | (_, none) => place
  (Text.cutFirst ':' host).2.getD []

/-- A port is a number up to 65535, and nothing at all is a port, too. -/
def checkPort (authority : List Char) : Except Fault Unit :=
  let port := portText authority
  if port.isEmpty then .ok ()
  else if !port.all fun c => '0' ≤ c && c ≤ '9' then .error (.portNotNumber port)
  else if 4300 < port.length then .error (.portTooLong port.length)
  else if 65535 < decimal port then .error .portOutOfRange
  else .ok ()

end DeployOptions.Url
