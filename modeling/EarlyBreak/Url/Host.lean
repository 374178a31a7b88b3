import EarlyBreak.Domain.Basic
import EarlyBreak.Text.Ascii
import EarlyBreak.Text.Cut
import EarlyBreak.Url.Percent

/-! Hosts of URLs: domains in their ASCII form, IPv4 and IPv6 addresses, and the opaque hosts
of schemes that are not special.
-/

namespace EarlyBreak.Url

/-- A host. -/
inductive Host where
  /-- A domain, or the text of an opaque host. -/
  | name (text : List Char)
  | ipv4 (address : Nat)
  /-- Eight pieces of sixteen bits. -/
  | ipv6 (pieces : List Nat)
  deriving DecidableEq, Repr

/-- The number a part of an IPv4 address spells, in base ten, eight or sixteen by its start. -/
def ipv4Number? (part : List Char) : Option Nat :=
  let digits (base : Nat) (s : List Char) : Option Nat :=
    s.foldl (fun total c => do
      let n ← total
      let d ← Text.hexValue? c
      if d < base then some (n * base + d) else none) (some 0)
  match part with
  | [] => none
  | '0' :: 'x' :: rest | '0' :: 'X' :: rest => digits 16 rest
  | '0' :: c :: rest => digits 8 (c :: rest)
  | part => digits 10 part

/-- Whether the last part of a domain, a trailing empty one aside, is a number. -/
def endsInNumber (domain : List Char) : Bool :=
  let last :=
    match (domain.splitOn '.').reverse with
    | [] :: rest => rest.head?
    | parts => parts.head?
  match last with
  | none => false
  | some part =>
      (part ≠ [] && part.all Text.isAsciiDigit) || (ipv4Number? part).isSome

/-- The IPv4 address that a domain ending in a number spells. -/
def ipv4? (domain : List Char) : Option Nat := do
  let parts :=
    match (domain.splitOn '.').reverse with
    | [] :: rest => rest.reverse
    | parts => parts.reverse
  if parts.length > 4 then none
  else
    let numbers ← parts.mapM ipv4Number?
    match numbers.reverse with
    | [] => none
    | last :: reversedFront =>
        let front := reversedFront.reverse
        if front.any (255 < ·) || Nat.pow 256 (4 - front.length) ≤ last then none
        else
          let high := front.foldl (fun total n => total * 256 + n) 0
          return high * Nat.pow 256 (4 - front.length) + last

/-- The four decimal bytes at the end of an IPv6 address, as two pieces. -/
def embeddedIpv4? (s : List Char) : Option (List Nat) := do
  let bytes ← (s.splitOn '.').mapM fun part =>
    match part with
    | '0' :: _ :: _ => none
    | part => (Text.decimal? part).bind fun n => if n ≤ 255 then some n else none
  match bytes with
  | [a, b, c, d] => return [a * 256 + b, c * 256 + d]
  | _ => none

/-- One to four hexadecimal digits. -/
def ipv6Piece? (s : List Char) : Option Nat :=
  if s.isEmpty || 4 < s.length then none
  else s.foldl (fun total c => do return (← total) * 16 + (← Text.hexValue? c)) (some 0)

/-- Pieces separated by colons; `mayEmbed` says whether the last may be an IPv4 address. -/
def ipv6Pieces? (mayEmbed : Bool) (s : List Char) : Option (List Nat) :=
  if s.isEmpty then some []
  else
    let parts := s.splitOn ':'
    let lastParts := parts.drop (parts.length - 1)
    match lastParts with
    | [last] =>
        if mayEmbed && last.contains '.' then do
          return (← (parts.dropLast).mapM ipv6Piece?) ++ (← embeddedIpv4? last)
        else parts.mapM ipv6Piece?
    | _ => none

/-- The two sides of the first `::`. -/
def splitDoubleColon : List Char → Option (List Char × List Char)
  | ':' :: ':' :: rest => some ([], rest)
  | c :: rest => (splitDoubleColon rest).map fun (before, after) => (c :: before, after)
  | [] => none

/-- The eight pieces that an IPv6 address spells; `::` stands for one or more zeros. -/
def ipv6? (s : List Char) : Option (List Nat) :=
  match splitDoubleColon s with
  | none => (ipv6Pieces? true s).bind fun pieces =>
      if pieces.length = 8 then some pieces else none
  | some (before, after) => do
      let left ← ipv6Pieces? false before
      let right ← ipv6Pieces? true after
      if left.length + right.length ≤ 7 then
        return left ++ List.replicate (8 - left.length - right.length) 0 ++ right
      else none

/-- Start and length of the first longest run of zeros, given the current and best runs. -/
def longestZeros : List Nat → Nat → Nat × Nat → Nat × Nat → Nat × Nat
  | [], _, _, best => best
  | n :: rest, index, current, best =>
      let current := if n = 0 then
        (if current.2 = 0 then (index, 1) else (current.1, current.2 + 1)) else (0, 0)
      longestZeros rest (index + 1) current (if best.2 < current.2 then current else best)

/-- The text of an IPv6 address, with its first longest run of two or more zeros as `::`. -/
def ipv6Text (pieces : List Nat) : List Char :=
  let colons (list : List Nat) : List Char :=
    [':'].intercalate (list.map fun n => (Text.lowerHex n).toList)
  let (start, length) := longestZeros pieces 0 (0, 0) (0, 0)
  if length < 2 then colons pieces
  else colons (pieces.take start) ++ [':', ':'] ++ colons (pieces.drop (start + length))

/-- The text of a host as a URL shows it. -/
def Host.text : Host → List Char
  | .name text => text
  | .ipv4 n => ['.'].intercalate ([n / 16777216, n / 65536 % 256, n / 256 % 256, n % 256].map
      fun byte => (toString byte).toList)
  | .ipv6 pieces => '[' :: ipv6Text pieces ++ [']']

/-- Characters that no opaque host may hold. -/
def isForbiddenInOpaqueHost (c : Char) : Bool :=
  ['\x00', '\t', '\n', '\r', ' ', '#', '/', ':', '<', '>', '?', '@', '[', '\\', ']', '^',
    '|'].contains c

/-- An address in brackets. -/
def bracketed? (s : List Char) : Option Host :=
  match s.getLast? with
  | some ']' => (ipv6? s.dropLast).map .ipv6
  | _ => none

/-- The host of a special scheme: brackets hold an IPv6 address, anything else is a domain after
percent decoding, and a domain ending in a number must be an IPv4 address.
-/
def Host.ofDomain? (s : List Char) : Option Host :=
  match s with
  | '[' :: rest => bracketed? rest
  | s => do
      let decoded ← Text.ofBytes? (decodeBytes (Text.toBytes (String.ofList s)))
      let domain ← Domain.ascii? decoded.toList
      if domain.isEmpty then none
      else if endsInNumber domain then (ipv4? domain).map .ipv4
      else some (.name domain)

/-- The host of any other scheme, which is kept but for escapes. -/
def Host.ofOpaque? (s : List Char) : Option Host :=
  match s with
  | '[' :: rest => bracketed? rest
  | s => if s.any isForbiddenInOpaqueHost then none
      else some (.name (encodeText .controls s))

end EarlyBreak.Url
