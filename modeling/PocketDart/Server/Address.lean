import PocketDart.Server.Host
import PocketDart.Text.Blank
import PocketDart.Text.Quoted
import PocketDart.Value.Misuse

/-
  This file defines what counts as the address of a server:
  a scheme, two slashes and an authority that is not empty.

  Key definitions include:
    * `Address.Parts`
    * `Address.parts`
    * `AddressError`
    * `Address.check`
    * `Address.withoutSlashes`
-/

------------------------------------------------------------
-- Parts
------------------------------------------------------------

namespace PocketDart

namespace Address

/- The parts that decide whether an address is usable. -/
structure Parts where
  scheme : List Char
  authority : List Char
  deriving DecidableEq, Repr

def isSchemeChar (c : Char) : Bool :=
  c.isAlphanum || c = '+' || c = '-' || c = '.'

/-
  The scheme before the first colon and the text after it.
  A text without a scheme is left whole.
-/
def cutScheme (cs : List Char) : List Char × List Char :=
  let scheme := cs.takeWhile (· ≠ ':')
  match cs.dropWhile (· ≠ ':') with
  | _ :: rest =>
      if scheme.head?.any Char.isAlpha &&
          scheme.all isSchemeChar
      then (scheme, rest)
      else ([], cs)
  | [] => ([], cs)

def endsAuthority (c : Char) : Bool :=
  c = '/' || c = '?' || c = '#'

/- The authority after two slashes. -/
def authority : List Char → List Char
  | '/' :: '/' :: rest =>
      rest.takeWhile fun c => !endsAuthority c
  | _ => []

/- What is left out of an address: breaks and tabs. -/
def isIgnored (c : Char) : Bool :=
  c = '\t' || c = '\n' || c = '\r'

/- What is cut from the start of an address. -/
def isControlOrSpace (c : Char) : Bool :=
  c.toNat ≤ 0x20

def parts (address : String) : Parts :=
  let cs :=
    (Text.trimStartOf isControlOrSpace
      address.toList).filter fun c => !isIgnored c
  let (scheme, rest) := cutScheme cs
  ⟨scheme, authority rest⟩

------------------------------------------------------------
-- Errors
------------------------------------------------------------

end Address

/-
  Why an address is not usable: it has no scheme or no
  authority, or there is something in the authority that
  cannot be there.
-/
inductive AddressError where
  | incomplete (address : String)
  | openBrackets
  | notInternetAddress (host : String)
  | version4InBrackets
  | malformedFuture
  | hiddenDelimiter (authority : String)
  deriving DecidableEq, Repr

/- An error in words. -/
def AddressError.message : AddressError → String
  | .incomplete address =>
      "Invalid PocketBase URL: " ++ address
  | .openBrackets => "Invalid IPv6 URL"
  | .notInternetAddress host =>
      Text.quoted host ++
        " does not appear to be an IPv4 or IPv6 address"
  | .version4InBrackets =>
      "An IPv4 address cannot be in brackets"
  | .malformedFuture => "IPvFuture address is invalid"
  | .hiddenDelimiter authority =>
      "netloc '" ++ authority ++ "' contains invalid " ++
        "characters under NFKC normalization"

------------------------------------------------------------
-- Checks
------------------------------------------------------------

namespace Address

def checkHost (host : List Char) : Except AddressError Unit :=
  if host.head? = some 'v' then
    if Host.isFuture host then .ok ()
    else .error .malformedFuture
  else if Host.isVersion4 host then
    .error .version4InBrackets
  else if Host.isVersion6 host then .ok ()
  else .error (.notInternetAddress (String.ofList host))

/- The text of an authority after the last at sign. -/
def hostPart (authority : List Char) : List Char :=
  (authority.reverse.takeWhile (· ≠ '@')).reverse

/-
  Check the host of an authority with brackets. After them
  only a colon may follow, and a host without them ends at
  the first colon.
-/
def checkBrackets
    (authority : List Char) : Except AddressError Unit :=
  match hostPart authority with
  | '[' :: rest =>
      match (rest.dropWhile (· ≠ ']')).drop 1 with
      | [] | ':' :: _ => checkHost (rest.takeWhile (· ≠ ']'))
      | _ => .error .openBrackets
  | part =>
      if part.contains '[' then .error .openBrackets
      else checkHost (part.takeWhile (· ≠ ':'))

/-
  The code points that Unicode holds to be compatible with a
  text with one of the delimiters of an address in it.
-/
def hiddenDelimiters : List Nat :=
  [0x2047, 0x2048, 0x2049, 0x2100, 0x2101, 0x2105, 0x2106,
   0x2A74, 0xFE13, 0xFE16, 0xFE55, 0xFE56, 0xFE5F, 0xFE6B,
   0xFF03, 0xFF0F, 0xFF1A, 0xFF1F, 0xFF20]

def checkAuthority
    (authority : List Char) : Except AddressError Unit := do
  match authority.contains '[', authority.contains ']' with
  | true, true => checkBrackets authority
  | false, false => pure ()
  | _, _ => throw .openBrackets
  if authority.any fun c =>
      hiddenDelimiters.contains c.toNat then
    throw (.hiddenDelimiter (String.ofList authority))

def check (address : String) : Except AddressError Unit := do
  let parts := parts address
  checkAuthority parts.authority
  if parts.scheme.isEmpty ∨ parts.authority.isEmpty then
    throw (.incomplete address)

/-
  The address that a value stands for. What is falsy stands
  for itself, which is no usable address; anything else that
  is no text would have to be decoded first.
-/
def ofValue (value : Value) : Except Misuse String :=
  if value.truthy then value.asText .decode
  else .ok value.display

/- An address without slashes at its end. -/
def withoutSlashes (address : String) : String :=
  String.ofList (Text.trimEndOf (· = '/') address.toList)

end Address

end PocketDart
