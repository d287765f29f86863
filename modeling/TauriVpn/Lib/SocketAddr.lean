import Mathlib.Data.List.TakeWhile
import TauriVpn.Lib.IpText

/-! Socket addresses as text: an IPv4 address or an IPv6 address in brackets, a colon and
a port. A host and a port with a colon between them are one exactly when the host alone
is such an address; an IPv6 address without its brackets is none. -/

namespace SocketText

open NumberText IpText

inductive IpHost where
  | v4 (address : Ipv4Addr)
  | v6 (address : Ipv6Addr) (scope : ℕ)
  deriving DecidableEq

structure SocketAddr where
  ip : IpHost
  port : UInt16
  deriving DecidableEq

def portFormat : Format where
  radix := 10
  maxDigits := none
  leadingZeros := true
  bound := 65536

def scopeFormat : Format where
  radix := 10
  maxDigits := none
  leadingZeros := true
  bound := 4294967296

def readPort (chars : List Char) : Option UInt16 := (read portFormat chars).map UInt16.ofNat

/-- An IPv6 address, with a numeric scope after a percent sign or none. -/
def readScoped (chars : List Char) : Option IpHost :=
  match chars.splitOn '%' with
  | [address] => (readIpv6 address).map fun address => .v6 address 0
  | [address, scope] => do
    let address ← readIpv6 address
    let scope ← read scopeFormat scope
    return .v6 address scope
  | _ => none

def readSocketV4 (chars : List Char) : Option SocketAddr :=
  match chars.splitOn ':' with
  | [host, port] => do
    let address ← readIpv4 host
    let port ← readPort port
    return { ip := .v4 address, port }
  | _ => none

def readSocketV6 : List Char → Option SocketAddr
  | '[' :: rest =>
    match rest.dropWhile (· ≠ ']') with
    | ']' :: ':' :: port => do
      let ip ← readScoped (rest.takeWhile (· ≠ ']'))
      let port ← readPort port
      return { ip, port }
    | _ => none
  | _ => none

/-- `SocketAddr::from_str`. -/
def readSocket (chars : List Char) : Option SocketAddr := (readSocketV4 chars).or (readSocketV6 chars)

/-- An IPv6 address in brackets. -/
def readBracketed : List Char → Option IpHost
  | '[' :: rest => if rest.dropWhile (· ≠ ']') = [']'] then readScoped (rest.takeWhile (· ≠ ']')) else none
  | _ => none

/-- The host of a socket address. -/
def readSocketHost (chars : List Char) : Option IpHost := ((readIpv4 chars).map .v4).or (readBracketed chars)

/-- The address that a host alone means, where an IPv6 address may also go without brackets. -/
def readHost (chars : List Char) : Option IpHost := (readSocketHost chars).or (readScoped chars)

def portText (port : UInt16) : List Char := Nat.toDigits 10 port.toNat

theorem readPort_portText (port : UInt16) : readPort (portText port) = some port := by
  have hread : read portFormat (portText port) = some port.toNat :=
    read_toDigits portFormat (by decide) (by decide) port.toNat_lt fun m hm => by cases hm
  rw [readPort, hread, Option.map_some, UInt16.ofNat_toNat]

theorem notMem_portText {c : Char} (hc : isDigit 10 c = false) (port : UInt16) : c ∉ portText port := by
  intro hmem
  rw [isDigit_of_mem_toDigits (by decide) (by decide) c hmem] at hc
  cases hc

theorem notMem_of_readPort {c : Char} (hc : isDigit 10 c = false) {chars : List Char} {port : UInt16}
    (h : readPort chars = some port) : c ∉ chars := by
  intro hmem
  obtain ⟨n, hn, -⟩ := Option.map_eq_some_iff.mp h
  rw [show isDigit 10 c = true from isDigit_of_read hn c hmem] at hc
  cases hc

/-! ### The bracket that closes an address -/

theorem takeWhile_close {inner : List Char} (h : ']' ∉ inner) (after : List Char) :
    (inner ++ ']' :: after).takeWhile (· ≠ ']') = inner := by
  have hall : ∀ d ∈ inner, decide (d ≠ ']') = true := fun d hd => by simpa using fun heq : d = ']' => h (heq ▸ hd)
  rw [List.takeWhile_append_of_pos hall, List.takeWhile_cons_of_neg (by simp), List.append_nil]

theorem dropWhile_close {inner : List Char} (h : ']' ∉ inner) (after : List Char) :
    (inner ++ ']' :: after).dropWhile (· ≠ ']') = ']' :: after := by
  have hall : ∀ d ∈ inner, decide (d ≠ ']') = true := fun d hd => by simpa using fun heq : d = ']' => h (heq ▸ hd)
  rw [List.dropWhile_append_of_pos hall, List.dropWhile_cons_of_neg (by simp)]

theorem dropWhile_unclosed {chars : List Char} (h : ']' ∉ chars) : chars.dropWhile (· ≠ ']') = [] :=
  List.dropWhile_eq_nil_iff.mpr fun d hd => by simpa using fun heq : d = ']' => h (heq ▸ hd)

section HostPort
variable (host : List Char) (port : UInt16)

theorem readSocketV4_host_port : readSocketV4 (host ++ ':' :: portText port) =
    (readIpv4 host).map fun address => { ip := .v4 address, port } := by
  have hport : (portText port).splitOn ':' = [portText port] := List.splitOn_eq_singleton (notMem_portText (by decide) port)
  rw [readSocketV4, List.splitOn_append_cons_self, hport]
  by_cases hcolon : ':' ∈ host
  · -- with another colon there are three pieces, and no IPv4 address
    rw [readIpv4_eq_none_of_mem (by decide) (by decide) hcolon, Option.map_none]
    obtain ⟨front, back, rfl⟩ := List.append_of_mem hcolon
    obtain ⟨first, firsts, hfirst⟩ := List.exists_cons_of_ne_nil (List.splitOn_ne_nil ':' front)
    obtain ⟨second, seconds, hsecond⟩ := List.exists_cons_of_ne_nil (List.splitOn_ne_nil ':' back)
    rw [List.splitOn_append_cons_self, hfirst, hsecond]
    split
    · rename_i hpieces
      have hlength := congrArg List.length hpieces
      simp only [List.length_append, List.length_cons, List.length_nil] at hlength
      omega
    · rfl
  · rw [List.splitOn_eq_singleton hcolon]
    simp only [List.cons_append, List.nil_append, readPort_portText]
    cases readIpv4 host <;> rfl

/-- Behind the bracket only a colon and the port may stand. -/
theorem readSocketV6_closed {inner : List Char} (hinner : ']' ∉ inner) (after : List Char) :
    readSocketV6 ('[' :: (inner ++ ']' :: (after ++ ':' :: portText port))) =
      (if after = [] then readScoped inner else none).map fun ip => { ip, port } := by
  rw [readSocketV6, takeWhile_close hinner, dropWhile_close hinner]
  cases after with
  | nil =>
    rw [if_pos rfl]
    simp only [List.nil_append, readPort_portText]
    cases readScoped inner <;> rfl
  | cons d after =>
    rw [if_neg (by simp), Option.map_none]
    by_cases hd : d = ':'
    · -- a second colon is in no port
      subst hd
      have hnone : readPort (after ++ ':' :: portText port) = none := by
        by_contra hsome
        obtain ⟨other, hother⟩ := Option.ne_none_iff_exists'.mp hsome
        exact notMem_of_readPort (by decide) hother (List.mem_append_right _ List.mem_cons_self)
      simp only [List.cons_append, hnone]
      cases readScoped inner <;> rfl
    · rw [List.cons_append]
      split
      · rename_i heq
        exact absurd (List.cons.inj (List.cons.inj heq).2).1 hd
      · rfl

theorem readSocketV6_host_port : readSocketV6 (host ++ ':' :: portText port) =
    (readBracketed host).map fun ip => { ip, port } := by
  cases host with
  | nil => rfl
  | cons c rest =>
    by_cases hc : c = '['
    · subst hc
      by_cases hclose : ']' ∈ rest
      · obtain ⟨inner, after, rfl, hinner⟩ := List.eq_append_cons_of_mem hclose
        rw [List.cons_append, List.append_assoc, List.cons_append, readSocketV6_closed port hinner, readBracketed,
          takeWhile_close hinner, dropWhile_close hinner]
        simp only [List.cons.injEq, true_and]
      · have hport : ']' ∉ ':' :: portText port := by
          simpa using notMem_portText (by decide) port
        have hopen : ']' ∉ rest ++ ':' :: portText port := fun hmem => (List.mem_append.mp hmem).elim hclose hport
        rw [List.cons_append, readSocketV6, readBracketed, dropWhile_unclosed hopen, dropWhile_unclosed hclose,
          if_neg (by simp)]
        rfl
    · rw [List.cons_append, readSocketV6, readBracketed]
      · rfl
      · rintro other heq
        exact hc (List.cons.inj heq).1
      · rintro other heq
        exact hc (List.cons.inj heq).1

/-- A host and a port make a socket address of the host's address and the port. -/
theorem readSocket_host_port : readSocket (host ++ ':' :: portText port) =
    (readSocketHost host).map fun ip => { ip, port } := by
  rw [readSocket, readSocketHost, readSocketV4_host_port, readSocketV6_host_port]
  cases readIpv4 host <;> rfl

end HostPort

end SocketText
