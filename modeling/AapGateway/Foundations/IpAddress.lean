import Mathlib

/-!
# IP addresses in text

Which texts the standard library of the modelled language reads as an IPv4 or an IPv6 address. An
IPv6 address may end in an IPv4 address, may leave out one run of zeros, and may name a zone after a
percent sign.
-/

namespace IpAddress

/-- The value of a text of decimal digits. -/
def decimal (digits : List Char) : ℕ :=
  digits.foldl (fun n c => 10 * n + (c.toNat - '0'.toNat)) 0

/-- A decimal number of at most three digits up to 255, without a leading zero. -/
def isOctet (cs : List Char) : Bool :=
  cs ≠ [] && cs.all Char.isDigit && cs.length ≤ 3 && (cs = ['0'] || cs.head? ≠ some '0') &&
    decimal cs ≤ 255

/-- Four octets between dots. -/
def isIPv4 (cs : List Char) : Bool :=
  (cs.splitOn '.').length = 4 && (cs.splitOn '.').all isOctet

/-- A hexadecimal digit. -/
def isHexDigit (c : Char) : Bool :=
  c.isDigit || ('a' ≤ c && c ≤ 'f') || ('A' ≤ c && c ≤ 'F')

/-- A hexadecimal number of at most four digits. -/
def isHextet (cs : List Char) : Bool :=
  cs ≠ [] && cs.all isHexDigit && cs.length ≤ 4

/-- The parts between the colons. An IPv4 address in the end counts as two of them. -/
def hextetParts (cs : List Char) : Option (List (List Char)) :=
  let parts := cs.splitOn ':'
  match parts.getLast? with
  | none => none
  | some last =>
    if parts.length < 3 then none
    else if '.' ∈ last then
      if isIPv4 last then some (parts.dropLast ++ [['0'], ['0']]) else none
    else some parts

/-- The parts on one side of the run of zeros that is left out. Its outer end is empty only if there
is nothing else on this side. -/
def sideParts (outer : Option (List Char)) (parts : List (List Char)) : Option (List (List Char)) :=
  if outer = some [] then (if parts.length = 1 then some [] else none) else some parts

/-- The hextets of an address, if they are well placed. -/
def hextets (parts : List (List Char)) : Option (List (List Char)) :=
  -- An empty part that is not at an end stands for the run of zeros.
  match (List.range parts.length).filter fun i =>
      0 < i && i + 1 < parts.length && parts[i]? = some [] with
  | [] => if parts.length = 8 then some parts else none
  | [skip] =>
    match sideParts parts.head? (parts.take skip),
      sideParts parts.getLast? (parts.drop (skip + 1)) with
    | some high, some low => if high.length + low.length < 8 then some (high ++ low) else none
    | _, _ => none
  | _ => none

/-- The address of a text without its zone. -/
def withoutZone (cs : List Char) : Option (List Char) :=
  if '%' ∈ cs then
    let zone := (cs.dropWhile (· ≠ '%')).tail
    if zone = [] ∨ '%' ∈ zone then none else some (cs.takeWhile (· ≠ '%'))
  else some cs

/-- At most eight hextets between colons. -/
def isIPv6 (cs : List Char) : Bool :=
  '/' ∉ cs &&
    match (withoutZone cs).bind hextetParts with
    | none => false
    | some parts =>
      parts.length ≤ 9 &&
        match hextets parts with
        | none => false
        | some parts => parts.all isHextet

/-- The version of an address. -/
inductive Version where
  | v4
  | v6
  deriving DecidableEq, Repr

/-- `ipaddress.ip_address`, which raises where this is `none`. -/
def ipAddress (cs : List Char) : Option Version :=
  if isIPv4 cs then some .v4 else if isIPv6 cs then some .v6 else none

/-- No address is empty. -/
theorem ne_nil_of_ipAddress {cs : List Char} {version : Version}
    (h : ipAddress cs = some version) : cs ≠ [] := by
  rintro rfl
  exact absurd h (by decide +revert)

/-- An IPv6 address has a colon. -/
theorem colon_mem_of_ipAddress {cs : List Char} (h : ipAddress cs = some .v6) : ':' ∈ cs := by
  unfold ipAddress at h
  split at h
  · cases h
  · split at h
    · rename_i haddress
      by_contra hnot
      -- Without a colon there is one part only.
      have hone : ∀ part, ':' ∉ part → hextetParts part = none := by
        intro part hpart
        unfold hextetParts
        rw [List.splitOn_eq_singleton hpart]
        rfl
      have hnone : (withoutZone cs).bind hextetParts = none := by
        unfold withoutZone
        dsimp only
        split
        · split
          · rfl
          · exact hone _ fun hmem => hnot ((List.takeWhile_prefix _).subset hmem)
        · exact hone _ hnot
      rw [isIPv6, hnone] at haddress
      simp at haddress
    · cases h

example : ["127.0.0.1", "256.0.0.1", "01.2.3.4", "::1", "2001:db8::1", "::ffff:10.0.0.1",
    "fe80::1%eth0", "1:2:3:4:5:6:7:8", "1:2:3:4:5:6:7::8", "1::2::3", "::", ":1:2:3:4:5:6:7",
    "example.com"].map (fun s => ipAddress s.toList) =
  [some .v4, none, none, some .v6, some .v6, some .v6, some .v6, some .v6, none, none, some .v6,
    none, none] := by decide +kernel

end IpAddress
