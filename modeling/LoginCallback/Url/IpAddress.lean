import LoginCallback.Decimal.Digits
import LoginCallback.Octets.Form

/-!
# Addresses of machines

The written forms of addresses of versions 4 and 6.
-/

namespace LoginCallback.Url

def isIpv4Part (cs : List Char) : Bool :=
  !cs.isEmpty && cs.all Decimal.isDigit && cs.length ≤ 3 && (cs.length == 1 || cs.head? != some '0')
    && Decimal.ofDigits cs ≤ 255

/-- Four numbers between points. -/
def isIpv4 (cs : List Char) : Bool :=
  let parts := Octets.splitOn '.' cs
  parts.length == 4 && parts.all isIpv4Part

def isHexGroup (cs : List Char) : Bool :=
  !cs.isEmpty && cs.length ≤ 4 && cs.all fun c => (Octets.hexValue? c).isSome

/-- Groups of hexadecimal digits between colons, at most one gap, the last two possibly written as
an address of version 4; a zone may follow. -/
def isIpv6 (cs : List Char) : Bool :=
  let body := cs.takeWhile (· != '%')
  let zone := cs.drop body.length
  let zoneOk := zone.isEmpty || (zone.length > 1 && !(zone.drop 1).contains '%')
  let parts := Octets.splitOn ':' body
  let last := parts.getLastD []
  let dotted := last.contains '.'
  let parts := if dotted then parts.dropLast ++ [['0'], ['0']] else parts
  let gaps := ((parts.drop 1).dropLast.filter List.isEmpty).length
  let firstEmpty := (parts.headD []).isEmpty
  let lastEmpty := (parts.getLastD []).isEmpty
  let inner := (parts.filter fun p => !p.isEmpty)
  zoneOk && !cs.contains '/' && (!dotted || isIpv4 last) && 3 ≤ parts.length && parts.length ≤ 9
    && inner.all isHexGroup
    && (if gaps == 0 then parts.length == 8 && !firstEmpty && !lastEmpty
      else gaps == 1 && inner.length < 8
        && (!firstEmpty || (parts.getD 1 []).isEmpty)
        && (!lastEmpty || (parts.dropLast.getLastD []).isEmpty))

end LoginCallback.Url
