import Interpolation.Text.Cut
import Interpolation.Text.Quoted

/-!
# The parts of a URL

Of a URL two parts matter here: its scheme and its authority. A URL without both is relative to the
page it stands on. The authority is checked: brackets must enclose an address of the sixth version
of the protocol, or of a future one, and no character may turn into a separator by normalization.

Main definitions:

* `Url.ofText`: the scheme and the authority of a text.
* `AuthorityFault`: why an authority is refused.
-/

namespace Interpolation.Trust

open Interpolation.Text

/-- Why an authority is refused. -/
inductive AuthorityFault where
  | brackets
  | futureAddress
  | notAnAddress (host : String)
  | oldAddress
  | separator (authority : String)
deriving DecidableEq, Repr

/-- What is told about an authority. -/
def AuthorityFault.message : AuthorityFault → String
  | .brackets => "Invalid IPv6 URL"
  | .futureAddress => "IPvFuture address is invalid"
  | .notAnAddress host => quote host ++ " does not appear to be an IPv4 or IPv6 address"
  | .oldAddress => "An IPv4 address cannot be in brackets"
  | .separator authority =>
    "netloc '" ++ authority ++ "' contains invalid characters under NFKC normalization"

/-- The scheme and the authority of a URL. -/
structure Url where
  /-- The scheme, empty when there is none. -/
  scheme : List Char
  /-- The authority, empty when there is none. -/
  authority : List Char
deriving DecidableEq, Repr

/-! ## Addresses -/

/-- Whether a part of an address of the fourth version is a number below 256 without zeros in
front. -/
def isOctet (s : List Char) : Bool :=
  let n := s.foldl (fun n c => n * 10 + (c.toNat - '0'.toNat)) 0
  !s.isEmpty && s.all Char.isDigit && s.length ≤ 3 && n < 256
    && (s == ['0'] || s.head? != some '0')

/-- Whether a text is an address of the fourth version. -/
def isOldAddress (s : List Char) : Bool :=
  let parts := splitAtChar '.' s
  parts.length == 4 && parts.all isOctet

/-- Whether a part of an address of the sixth version is a number of at most four digits. -/
def isGroup (s : List Char) : Bool :=
  let isHex (c : Char) : Bool :=
    c.isDigit || ('a' ≤ c && c ≤ 'f') || ('A' ≤ c && c ≤ 'F')
  !s.isEmpty && s.all isHex && s.length ≤ 4

/-- The groups of an address, the last two of which may be written as an address of the fourth
version. -/
def addressGroups? (s : List Char) : Option (List (List Char)) :=
  let parts := splitAtChar ':' s
  if parts.length < 3 then none
  else
    match parts.getLast? with
    | some last =>
      if last.contains '.' then
        if isOldAddress last then some (parts.dropLast ++ [['0'], ['0']]) else none
      else some parts
    | none => none

/-- Whether a text without a zone is an address of the sixth version: eight groups, or fewer with
one gap. -/
def isBareAddress (s : List Char) : Bool :=
  match addressGroups? s with
  | none => false
  | some groups =>
    let inner := (groups.drop 1).dropLast
    let gaps := (inner.filter List.isEmpty).length
    let startsEmpty := (groups.head?.map List.isEmpty).getD true
    let endsEmpty := (groups.getLast?.map List.isEmpty).getD true
    if groups.length > 9 ∨ gaps > 1 then false
    else if gaps = 0 then groups.length == 8 && groups.all isGroup
    else
      let high := inner.takeWhile fun g => !g.isEmpty
      let low := (inner.dropWhile fun g => !g.isEmpty).drop 1
      let first := if startsEmpty then [] else groups.take 1
      let last := if endsEmpty then [] else groups.drop (groups.length - 1)
      let given := first ++ high ++ low ++ last
      (!startsEmpty || high.isEmpty) && (!endsEmpty || low.isEmpty) && given.length ≤ 7
        && given.all isGroup

/-- Whether a text is an address of the sixth version, which may name a zone. -/
def isAddress (s : List Char) : Bool :=
  match cut? ['%'] s with
  | none => isBareAddress s
  | some (address, zone) => !zone.isEmpty && !zone.contains '%' && isBareAddress address

/-- Whether a text is an address of a future version: a letter, the version, a point and more. -/
def isFutureAddress (s : List Char) : Bool :=
  match s with
  | 'v' :: rest =>
    let version := rest.takeWhile fun c => c.isDigit || ('a' ≤ c.toLower && c.toLower ≤ 'f')
    match rest.drop version.length with
    | '.' :: more => !version.isEmpty && !more.isEmpty && !more.contains '\n'
    | _ => false
  | _ => false

/-- Checks what stands in the place of an address in brackets. -/
def checkHost (host : List Char) : Except AuthorityFault Unit :=
  if host.head? = some 'v' then
    if isFutureAddress host then .ok () else .error .futureAddress
  else if isOldAddress host then .error .oldAddress
  else if isAddress host && !host.contains '/' then .ok ()
  else .error (.notAnAddress (String.ofList host))

/-! ## Authorities -/

/-- The part of a text behind the last occurrence of a character. -/
def behindLast (c : Char) (s : List Char) : List Char :=
  (s.reverse.takeWhile (· != c)).reverse

/-- Checks the brackets of an authority: nothing but an address stands in them, nothing but a port
behind them. -/
def checkBrackets (authority : List Char) : Except AuthorityFault Unit :=
  let isOpen := authority.contains '['
  let isClosed := authority.contains ']'
  if isOpen != isClosed then .error .brackets
  else if !isOpen then .ok ()
  else
    let place := behindLast '@' authority
    match cut? ['['] place with
    | some (before, rest) =>
      let host := rest.takeWhile (· != ']')
      let port := rest.drop (host.length + 1)
      if !before.isEmpty then .error .brackets
      else if !port.isEmpty && port.head? != some ':' then .error .brackets
      else checkHost host
    | none => checkHost (place.takeWhile (· != ':'))

/-- Whether normalization turns the character into a text with a separator of URLs. -/
def hidesSeparator (c : Char) : Bool :=
  [0x2047, 0x2048, 0x2049, 0x2100, 0x2101, 0x2105, 0x2106, 0x2a74, 0xfe13, 0xfe16, 0xfe55, 0xfe56,
    0xfe5f, 0xfe6b, 0xff03, 0xff0f, 0xff1a, 0xff1f, 0xff20].contains c.toNat

/-- Checks that no separator is hidden in an authority. -/
def checkSeparators (authority : List Char) : Except AuthorityFault Unit :=
  if authority.any hidesSeparator then .error (.separator (String.ofList authority)) else .ok ()

namespace Url

/-- Whether a character may stand in a scheme. -/
def isSchemeChar (c : Char) : Bool := c.isAlphanum || c == '+' || c == '-' || c == '.'

/-- A text without control characters and blanks at its beginning, and without tabulators and line
ends. -/
def cleaned (s : List Char) : List Char :=
  (s.dropWhile fun c => c.toNat ≤ 0x20).filter fun c => c != '\t' && c != '\n' && c != '\r'

/-- The scheme at the beginning of a text, in lower case, and the rest. -/
def splitScheme (s : List Char) : List Char × List Char :=
  match cut? [':'] s with
  | some (scheme, rest) =>
    if (scheme.head?.map Char.isAlpha).getD false && scheme.all isSchemeChar then
      (scheme.map Char.toLower, rest)
    else ([], s)
  | none => ([], s)

/-- The authority of a text without its scheme: what stands between two slashes and the next
separator. -/
def authorityOf (s : List Char) : List Char :=
  match s with
  | '/' :: '/' :: rest => rest.takeWhile fun c => c != '/' && c != '?' && c != '#'
  | _ => []

/-- The scheme and the authority of a text. -/
def ofText (s : List Char) : Except AuthorityFault Url := do
  let (scheme, rest) := splitScheme (cleaned s)
  let authority := authorityOf rest
  checkBrackets authority
  checkSeparators authority
  return ⟨scheme, authority⟩

/-- Whether a URL stays on the host of the page it stands on. -/
def isRelative (u : Url) : Bool := u.scheme.isEmpty && u.authority.isEmpty

end Url

end Interpolation.Trust
