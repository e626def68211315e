import VideoWall.Text.Quoted
import VideoWall.Url.Host

/-!
# The query of an address

An address is taken apart into scheme, host, path, query and fragment; only the query is of use here,
and only a malformed host makes the whole address malformed.
-/

namespace VideoWall.Url

namespace Fault

def message : Fault → String
  | brackets => "Invalid IPv6 URL"
  | futureHost => "IPvFuture address is invalid"
  | bracketedIpv4 => "An IPv4 address cannot be in brackets"
  | notAnAddress host => Text.quoted host ++ " does not appear to be an IPv4 or IPv6 address"
  | disguisedDelimiter netloc =>
    "netloc '" ++ netloc ++ "' contains invalid characters under NFKC normalization"

end Fault

/-- The characters that a compatibility normalisation turns into a text with a delimiter in it. -/
def disguisedDelimiters : List Nat :=
  [0x2047, 0x2048, 0x2049, 0x2100, 0x2101, 0x2105, 0x2106, 0x2A74, 0xFE13, 0xFE16, 0xFE55, 0xFE56,
    0xFE5F, 0xFE6B, 0xFF03, 0xFF0F, 0xFF1A, 0xFF1F, 0xFF20]

/-- An address without leading controls and spaces and without tabs and line breaks anywhere. -/
def cleaned (cs : List Char) : List Char :=
  (cs.dropWhile fun c => c.toNat ≤ 0x20).filter fun c => c != '\t' && c != '\r' && c != '\n'

def isSchemeChar (c : Char) : Bool :=
  Text.isAsciiLetter c || Text.isAsciiDigit c || c == '+' || c == '-' || c == '.'

/-- What follows the scheme, if there is a scheme; otherwise the whole address. -/
def withoutScheme (cs : List Char) : List Char :=
  match Text.cutAt? (· == ':') cs with
  | some (scheme, rest) =>
    if scheme.head?.any Text.isAsciiLetter && scheme.all isSchemeChar then rest else cs
  | none => cs

def scheme (cs : List Char) : List Char :=
  match Text.cutAt? (· == ':') (cleaned cs) with
  | some (scheme, _) =>
    if scheme.head?.any Text.isAsciiLetter && scheme.all isSchemeChar then
      scheme.map Text.asciiLower
    else []
  | none => []

def endsHost (c : Char) : Bool := c == '/' || c == '?' || c == '#'

/-- Checks the brackets of a host. A user and an at sign may stand before it, a colon and a number
behind it. This is the strict rule, that of release 3.11.12 of the address library and of later ones; earlier
releases let other text stand beside the brackets, as in `http://x[::1]/`. -/
def checkBrackets (netloc : List Char) : Except Fault Unit :=
  match netloc.contains '[', netloc.contains ']' with
  | false, false => .ok ()
  | true, false | false, true => .error .brackets
  | true, true =>
    let afterUser := (netloc.reverse.takeWhile (· != '@')).reverse
    match Text.cutAt? (· == '[') afterUser with
    | some (before, bracketed) =>
      if !before.isEmpty then .error .brackets
      else
        let (host, behind) := (Text.cutAt? (· == ']') bracketed).getD (bracketed, [])
        if behind.isEmpty || behind.head? == some ':' then checkBracketed host else .error .brackets
    | none => checkBracketed (afterUser.takeWhile (· != ':'))

/-- Refuses a host in which a normalisation would make a delimiter appear. -/
def checkDisguise (netloc : List Char) : Except Fault Unit :=
  if netloc.any (disguisedDelimiters.contains ·.toNat) then
    .error (.disguisedDelimiter (String.ofList netloc))
  else .ok ()

/-- The query in what follows the host: from the first question mark to the fragment. -/
def queryPart (cs : List Char) : List Char :=
  ((cs.takeWhile (· != '#')).dropWhile (· != '?')).drop 1

def takeHost (cs : List Char) : List Char × List Char :=
  match cs with
  | '/' :: '/' :: rest => (rest.takeWhile (!endsHost ·), rest.dropWhile (!endsHost ·))
  | _ => ([], cs)

def query (address : List Char) : Except Fault (List Char) := do
  let (netloc, rest) := takeHost (withoutScheme (cleaned address))
  checkBrackets netloc
  checkDisguise netloc
  return queryPart rest

end VideoWall.Url
