import AccountAdmin.Url.Domain
import AccountAdmin.Url.Fault

/-!
# Hosts

A host is a domain name, an IPv4 address or, in brackets, an IPv6 address.  Addresses are written
in one canonical form, whichever of their many forms the text had: an IPv4 address as four decimal
bytes, an IPv6 address as eight groups with its longest run of zero groups left out.  In a scheme
that knows no domain names any text without delimiters is a host.

* `Host.parse`: the host of a special scheme.
* `Host.parseOpaque`: the host of any other scheme.
* `Host.text`: its canonical text.
-/

namespace AccountAdmin.Url

open AccountAdmin.Text

/-- A host. -/
inductive Host where
  | domain (name : List Char)
  | ipv4 (address : Nat)
  | ipv6 (groups : List Nat)
  deriving DecidableEq, Repr

/-! ## IPv4 addresses -/

namespace Ipv4

/-- The number a part stands for: hexadecimal behind `0x`, octal behind a zero, else decimal.  The
outer option says whether the part is a number at all, the inner one whether it has 32 bits. -/
def number? (part : List Char) : Option (Option Nat) :=
  let (radix, ds) : Nat × List Char := match part with
    | '0' :: 'x' :: rest => (16, rest)
    | '0' :: 'X' :: rest => (16, rest)
    | '0' :: c :: rest => (8, c :: rest)
    | part => (10, part)
  if part = [] then none
  else if ds.all (isDigit radix) then
    let n := natOfDigits radix ds
    some (if n < 0x100000000 then some n else none)
  else none

/-- The parts of a name, an empty one at the end left out. -/
def parts (name : List Char) : List (List Char) :=
  let ps := Path.split (· == '.') name
  if ps.getLast? = some [] then ps.dropLast else ps

/-- Whether the last part of a name is a number, so that the name has to be an address. -/
def endsInNumber (name : List Char) : Bool :=
  match (parts name).getLast? with
  | none => false
  | some [] => false
  | some part => part.all (isDigit 10) || (number? part).isSome

/-- All numbers of a list, if each part is one of 32 bits. -/
def numbers? : List (List Char) → Option (List Nat)
  | [] => some []
  | part :: rest =>
    match number? part with
    | some (some n) => (numbers? rest).map (n :: ·)
    | _ => none

/-- The address that a name stands for: every part but the last is a byte, and the last one fills
the bytes that are left. -/
def parse? (name : List Char) : Option Nat :=
  let ps := parts name
  if 4 < ps.length then none
  else
    match numbers? ps with
    | none => none
    | some ns =>
      match ns.getLast? with
      | none => none
      | some last =>
        let front := ns.dropLast
        if last < Nat.pow 256 (4 - front.length) ∧ front.all (· < 256) then
          some (front.foldl (fun sum n => sum * 256 + n) 0 * Nat.pow 256 (4 - front.length) + last)
        else none

/-- Four bytes with points between them. -/
def text (address : Nat) : List Char :=
  decimal (address / 0x1000000 % 256) ++ '.' :: (decimal (address / 0x10000 % 256) ++
    '.' :: (decimal (address / 0x100 % 256) ++ '.' :: decimal (address % 256)))

end Ipv4

/-! ## IPv6 addresses -/

namespace Ipv6

/-- The groups read so far, and how many of them came before a double colon. -/
structure Partial where
  groups : List Nat
  gap : Option Nat

/-- How many of the eight groups are taken; a double colon stands for at least one. -/
def Partial.taken (p : Partial) : Nat := p.groups.length + (if p.gap.isSome then 1 else 0)

/-- A decimal byte without leading zeros. -/
def byte? (ds : List Char) : Option Nat :=
  match ds with
  | [] => none
  | '0' :: _ :: _ => none
  | ds => if ds.all (isDigit 10) && natOfDigits 10 ds < 256 then some (natOfDigits 10 ds) else none

/-- The two groups of an address that ends in four decimal bytes. -/
def tail? (s : List Char) : Option (List Nat) :=
  match (Path.split (· == '.') s).map byte? with
  | [some a, some b, some c, some d] => some [a * 256 + b, c * 256 + d]
  | _ => none

/-- Reads groups up to the end of the text. -/
def readGroups (p : Partial) (s : List Char) : Option Partial :=
  match s with
  | [] => some p
  | c :: rest =>
    if p.taken = 8 then none
    else if c = ':' then
      if p.gap.isSome then none else readGroups { p with gap := some p.groups.length } rest
    else
      let ds := ((c :: rest).take 4).takeWhile (isDigit 16)
      let group := natOfDigits 16 ds
      match h : (c :: rest).drop ds.length with
      | [] => some { p with groups := p.groups ++ [group] }
      | ':' :: after =>
        if after = [] then none
        else
          have : after.length < (c :: rest).length := by
            have := congrArg List.length h
            simp only [List.length_drop, List.length_cons] at this ⊢
            omega
          readGroups { p with groups := p.groups ++ [group] } after
      | '.' :: _ =>
        if ds = [] ∨ 6 < p.taken then none
        else (tail? (c :: rest)).map fun gs => { p with groups := p.groups ++ gs }
      | _ => none
termination_by s.length
decreasing_by
  · simp
  · simpa using this

/-- The eight groups of an address. -/
def parse? (s : List Char) : Option (List Nat) :=
  let start : Option (Partial × List Char) := match s with
    | ':' :: ':' :: rest => some (⟨[], some 0⟩, rest)
    | ':' :: _ => none
    | [_] => none
    | [] => none
    | s => some (⟨[], none⟩, s)
  match start with
  | none => none
  | some (p, s) =>
    match readGroups p s with
    | none => none
    | some ⟨groups, none⟩ => if groups.length = 8 then some groups else none
    | some ⟨groups, some gap⟩ =>
      some (groups.take gap ++ List.replicate (8 - groups.length) 0 ++ groups.drop gap)

/-- The length of the run of zeros at the front. -/
def zeros (groups : List Nat) : Nat := (groups.takeWhile (· == 0)).length

/-- The start and the length of the longest run of zeros, the first of equally long ones. -/
def longestRun (groups : List Nat) : Nat × Nat :=
  (List.range groups.length).foldl (fun best i =>
    let n := zeros (groups.drop i)
    if best.2 < n then (i, n) else best) (0, 0)

/-- Groups with colons between them. -/
def joinGroups : List Nat → List Char
  | [] => []
  | [g] => hex g
  | g :: next :: rest => hex g ++ ':' :: joinGroups (next :: rest)

/-- The canonical text: a run of two zeros or more is left out. -/
def text (groups : List Nat) : List Char :=
  let (start, length) := longestRun groups
  if length < 2 then joinGroups groups
  else joinGroups (groups.take start) ++ ':' :: ':' :: joinGroups (groups.drop (start + length))

end Ipv6

namespace Host

/-- The canonical text of a host. -/
def text : Host → List Char
  | domain name => name
  | ipv4 address => Ipv4.text address
  | ipv6 groups => '[' :: (Ipv6.text groups ++ [']'])

/-- Whether the host is the empty text. -/
def isEmpty : Host → Bool
  | domain name => name.isEmpty
  | _ => false

/-- The address between brackets, of a text that starts with one. -/
def parseBracketed (s : List Char) : Except Fault Host :=
  if s.getLast? = some ']' then
    match Ipv6.parse? ((s.drop 1).dropLast) with
    | some groups => .ok (.ipv6 groups)
    | none => .error .badIpv6
  else .error .badIpv6

/-- The host of a special scheme. -/
def parse (s : List Char) : Except Fault Host :=
  if s.head? = some '[' then parseBracketed s
  else
    match String.fromUTF8? ⟨(Percent.decode s).toArray⟩ with
    | none => .error .badDomain
    | some decoded =>
      match Domain.toAscii? decoded.toList with
      | none => .error .badDomain
      | some [] => .error .emptyHost
      | some name =>
        if Ipv4.endsInNumber name then
          match Ipv4.parse? name with
          | some address => .ok (.ipv4 address)
          | none => .error .badIpv4
        else .ok (.domain name)

/-- A character that no host may hold. -/
def isForbidden (c : Char) : Bool :=
  c == '\x00' || c == '\t' || c == '\n' || c == '\r' || c == ' ' || c == '#' || c == '/' ||
    c == ':' || c == '<' || c == '>' || c == '?' || c == '@' || c == '[' || c == '\\' ||
    c == ']' || c == '^' || c == '|'

/-- The host of a scheme that knows no domain names. -/
def parseOpaque (s : List Char) : Except Fault Host :=
  if s.head? = some '[' then parseBracketed s
  else if s.any isForbidden then .error .badHostCharacter
  else .ok (.domain (Percent.encode Percent.nothing s))

end Host

end AccountAdmin.Url
