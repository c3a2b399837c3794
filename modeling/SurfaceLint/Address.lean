import SurfaceLint.Address.Host
import SurfaceLint.Text.Character
import SurfaceLint.Text.Encoding

/-!
# Addresses of documents

An address has a scheme, an authority and a path, all of which may be empty: the scheme ends
at the first colon, the authority stands behind two slashes, and the path ends before a query
or a fragment. Under some schemes the path may end in parameters, which are no part of it.
Brackets in an authority are for a numeric host, and no character of it may stand for a
delimiter.
-/

namespace SurfaceLint

structure Address where
  scheme : Text
  authority : Text
  path : Text
deriving DecidableEq

/-- Why a text is no address. -/
inductive AddressError where
  | brackets
  | futureHost
  | dottedHost
  | notNumeric (host : Text)
  | hiddenDelimiter (authority : Text)
deriving DecidableEq

def AddressError.message : AddressError → String
  | brackets => "Invalid IPv6 URL"
  | futureHost => "IPvFuture address is invalid"
  | dottedHost => "An IPv4 address cannot be in brackets"
  | notNumeric host =>
    String.ofList (quoted host) ++ " does not appear to be an IPv4 or IPv6 address"
  | hiddenDelimiter authority =>
    "netloc '" ++ String.ofList authority ++
      "' contains invalid characters under NFKC normalization"

namespace Address

/-- The host in brackets is in the hexadecimal form or in one yet to come. -/
def checkHost (host : Text) : Except AddressError Unit :=
  if host.head? = some 'v' then
    if Host.isFuture host then .ok () else .error .futureHost
  else if Host.isDotted host then .error .dottedHost
  else if Host.isHexadecimal host then .ok ()
  else .error (.notNumeric host)

/-- What stands behind the last at sign is a host in brackets and perhaps a port, with nothing
else around the brackets. -/
def checkBracketed (authority : Text) : Except AddressError Unit :=
  let target := (authority.splitOn '@').getLast?.getD []
  match target with
  | '[' :: inside =>
    match (inside.dropWhile (· ≠ ']')).drop 1 with
    | [] | ':' :: _ => checkHost (inside.takeWhile (· ≠ ']'))
    | _ => .error .brackets
  | _ =>
    if target.contains '[' then .error .brackets
    else checkHost (target.takeWhile (· ≠ ':'))

/-- Brackets come in pairs. -/
def checkBrackets (authority : Text) : Except AddressError Unit :=
  match authority.contains '[', authority.contains ']' with
  | false, false => .ok ()
  | true, true => checkBracketed authority
  | _, _ => .error .brackets

/-- The characters beyond ASCII whose compatibility form holds a slash, a question mark, a
number sign, an at sign or a colon. -/
def hiddenDelimiters : List Nat :=
  [0x2047, 0x2048, 0x2049, 0x2100, 0x2101, 0x2105, 0x2106, 0x2a74, 0xfe13, 0xfe16, 0xfe55,
    0xfe56, 0xfe5f, 0xfe6b, 0xff03, 0xff0f, 0xff1a, 0xff1f, 0xff20]

def checkDelimiters (authority : Text) : Except AddressError Unit :=
  if authority.any fun c => hiddenDelimiters.contains c.toNat then
    .error (.hiddenDelimiter authority)
  else .ok ()

/-- Control characters and spaces in front do not count, nor do tabs and line ends
anywhere. -/
def clean (text : Text) : Text :=
  (text.dropWhile fun c => c.toNat ≤ ' '.toNat).filter fun c => c ≠ '\t' ∧ c ≠ '\r' ∧ c ≠ '\n'

def isSchemeChar (c : Char) : Bool :=
  c.isAlphanum || c == '+' || c == '-' || c == '.'

/-- The scheme in small letters, and the rest. -/
def splitScheme (text : Text) : Text × Text :=
  let scheme := text.takeWhile (· ≠ ':')
  match text.dropWhile (· ≠ ':') with
  | [] => ([], text)
  | _ :: rest =>
    if scheme.head?.any Char.isAlpha && scheme.all isSchemeChar then (lower scheme, rest)
    else ([], text)

def splitAuthority (text : Text) : Text × Text :=
  match text with
  | '/' :: '/' :: rest =>
    let inside := fun c => c ≠ '/' ∧ c ≠ '?' ∧ c ≠ '#'
    (rest.takeWhile inside, rest.dropWhile inside)
  | _ => ([], text)

/-- The schemes with parameters; an address without a scheme may have them too. -/
def parameterSchemes : List String :=
  ["", "ftp", "hdl", "prospero", "http", "imap", "https", "shttp", "rtsp", "rtsps", "rtspu",
    "sip", "sips", "mms", "sftp", "tel"]

/-- Parameters begin at the first semicolon behind the last slash. -/
def dropParameters (path : Text) : Text :=
  let last := (path.reverse.takeWhile (· ≠ '/')).reverse
  path.take (path.length - last.length) ++ last.takeWhile (· ≠ ';')

def ofText (text : Text) : Except AddressError Address := do
  let (scheme, rest) := splitScheme (clean text)
  let (authority, rest) := splitAuthority rest
  checkBrackets authority
  checkDelimiters authority
  let path := rest.takeWhile fun c => c ≠ '?' ∧ c ≠ '#'
  return ⟨scheme, authority,
    if parameterSchemes.contains (String.ofList scheme) then dropParameters path else path⟩

/-- A path that begins with a drive is written without the slash and with a small letter. -/
def dropDriveSlash (path : Text) : Text :=
  match path with
  | '/' :: drive :: ':' :: rest => if drive.isAlpha then drive.toLower :: ':' :: rest else path
  | _ => path

/-- Where on the disk the document would lie. Only a file can lie with an authority. -/
def location (address : Address) : String :=
  let authority := percentDecode (String.ofList address.authority)
  let path := percentDecode (String.ofList address.path)
  if address.scheme = "file".toList ∧ authority ≠ "" ∧ path ≠ "" then "//" ++ authority ++ path
  else String.ofList (dropDriveSlash path.toList)

end Address

end SurfaceLint
