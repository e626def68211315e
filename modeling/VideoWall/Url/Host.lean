import VideoWall.Text.Digit
import VideoWall.Text.Replace

/-!
# Bracketed hosts

The host of an address may stand in brackets if it is an IPv6 address or an address of a version still
to come. This module says which texts are such hosts.
-/

namespace VideoWall.Url

inductive Fault where
  /-- The brackets of the host do not match, or something stands beside them. -/
  | brackets
  /-- The host in brackets announces a version and is not written as one. -/
  | futureHost
  | bracketedIpv4
  | notAnAddress (host : String)
  /-- The host holds a character that a normalisation turns into a delimiter. -/
  | disguisedDelimiter (netloc : String)
deriving DecidableEq, Repr

/-- Whether a text is a number from 0 to 255 without leading zeros. -/
def isOctet (cs : List Char) : Bool :=
  !cs.isEmpty && cs.all Text.isAsciiDigit && cs.length ≤ 3 && (cs == ['0'] || cs.head? != some '0') &&
    Text.ofDigits (cs.map fun c => c.toNat - 0x30) ≤ 255

def isIpv4 (cs : List Char) : Bool :=
  let parts := Text.splitAt '.' cs
  parts.length == 4 && parts.all isOctet

def isHextet (cs : List Char) : Bool :=
  !cs.isEmpty && cs.all (fun c => (Text.hexValue? c).isSome) && cs.length ≤ 4

/-- An address without the zone identifier behind a percent sign, if that is not malformed. -/
def withoutScope? (cs : List Char) : Option (List Char) :=
  match Text.cutAt? (· == '%') cs with
  | none => some cs
  | some (before, scope) =>
    if scope.isEmpty || scope.contains '%' then none else some before

/-- The groups of an address with an address of version four at its end counted as two groups. -/
def hextetParts? (cs : List Char) : Option (List (List Char)) :=
  let parts := Text.splitAt ':' cs
  match parts.getLast? with
  | none => none
  | some last =>
    if parts.length < 3 then none
    else if last.contains '.' then
      if isIpv4 last then some (parts.dropLast ++ [['0'], ['0']]) else none
    else some parts

/-- Whether eight groups, or fewer with one gap between colons, are an address of version six. -/
def isHextetSequence (parts : List (List Char)) : Bool :=
  let inner := (parts.drop 1).dropLast
  let gaps := inner.countP List.isEmpty
  if 9 < parts.length then false
  else if gaps = 0 then parts.length == 8 && parts.all isHextet
  else if gaps = 1 then
    let before := parts.takeWhile (!·.isEmpty)
    let leading := parts.head? == some []
    let high := if leading then [] else before
    let gapIndex := if leading then 1 + ((parts.drop 1).takeWhile (!·.isEmpty)).length
      else before.length
    let behind := parts.drop (gapIndex + 1)
    let low := if behind.getLast? == some [] then behind.dropLast else behind
    (!leading || gapIndex == 1) && (behind.getLast? != some [] || behind.length == 1) &&
      high.length + low.length ≤ 7 && high.all isHextet && low.all isHextet
  else false

def isIpv6 (cs : List Char) : Bool :=
  match withoutScope? cs with
  | none => false
  | some cs =>
    match hextetParts? cs with
    | none => false
    | some parts => isHextetSequence parts

/-- Whether a text is an address of a version still to come: its number in hexadecimal, a point and
some text. -/
def isFutureAddress (cs : List Char) : Bool :=
  match cs with
  | 'v' :: rest =>
    match Text.cutAt? (· == '.') rest with
    | some (version, address) =>
      !version.isEmpty && version.all (fun c => (Text.hexValue? c).isSome) && !address.isEmpty
    | none => false
  | _ => false

def checkBracketed (host : List Char) : Except Fault Unit :=
  if host.head? == some 'v' then
    if isFutureAddress host then .ok () else .error .futureHost
  else if isIpv4 host then .error .bracketedIpv4
  else if isIpv6 host then .ok ()
  else .error (.notAnAddress (String.ofList host))

end VideoWall.Url
