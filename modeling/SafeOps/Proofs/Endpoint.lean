import Mathlib.Data.List.TakeWhile
import SafeOps.Proofs.Text.Blank
import SafeOps.Proofs.Url.Ipv4
import SafeOps.Rpc.Client

/-!
# `SafeOps.Proofs.Endpoint`: nothing leaves the machine in the clear

Which services may be asked is decided by the text of a host: it is `localhost`, or what stands
between its brackets is the text of an address of the machine itself. `Here` says the same of the
host, without its text, and `isLocal_iff` is the bridge: a host that was read is in its one form, so
a name is never taken for an address, and an address is found again in its text.

`connect_confined` is the main result. A text is accepted if it is a URL with `https`, or one with
`http` whose host is the machine itself, and everything else is refused as an endpoint. What the
host looks like does not matter, only what is read: all notations of an IPv4 address lead to the
address.
-/

set_option autoImplicit false

namespace SafeOps

/-! ### Hosts of the machine itself -/

/-- A host is the machine itself: by name, by an IPv4 address that starts with the byte 127, or by
the IPv6 address of seven zeros and a one. -/
inductive Url.Host.Here : Url.Host → Prop
  | name : Here (.domain "localhost")
  | ipv4 {a : Ipv4} {rest : Bytes} (h : a.toBytes = 127 :: rest) : Here (.ipv4 a)
  | ipv6 : Here (.ipv6 ⟨[0, 0, 0, 0, 0, 0, 0, 1]⟩)

/-- What is sent to a URL is encrypted, or stays on the machine. -/
def Url.Confined (u : Url) : Prop :=
  u.scheme = "https" ∨ u.scheme = "http" ∧ ∃ host, u.host = some host ∧ host.Here

/-- The first byte of an address are its highest eight bits. -/
theorem Ipv4.isLoopback_iff (a : Ipv4) :
    a.isLoopback = true ↔ ∃ rest, a.toBytes = 127 :: rest := by
  have hbytes : a.toBytes = UInt8.ofNat (a.bits.toNat / 256 / 256 / 256)
      :: [UInt8.ofNat (a.bits.toNat / 256 / 256), UInt8.ofNat (a.bits.toNat / 256),
        UInt8.ofNat a.bits.toNat] := rfl
  have hlt := a.bits.isLt
  have hfirst : (UInt8.ofNat (a.bits.toNat / 256 / 256 / 256)).toNat
      = a.bits.toNat / 256 / 256 / 256 := by
    rw [UInt8.toNat_ofNat']
    omega
  have hbits : (a.bits.extractLsb' 24 8).toNat = a.bits.toNat / 256 / 256 / 256 := by
    rw [BitVec.extractLsb'_toNat, Nat.shiftRight_eq_div_pow]
    omega
  rw [isLoopback, decide_eq_true_iff, hbytes, ← BitVec.toNat_inj, hbits]
  constructor
  · intro h
    have hbyte : UInt8.ofNat (a.bits.toNat / 256 / 256 / 256) = 127 :=
      UInt8.toNat_inj.mp (hfirst.trans h)
    exact ⟨_, congrArg (· :: _) hbyte⟩
  · rintro ⟨rest, h⟩
    rw [← hfirst, (List.cons.inj h).1]
    rfl

/-! ### Brackets around texts -/

namespace Endpoint

theorem dropWhile_of_not_mem {c : Char} {cs : List Char} (h : c ∉ cs) :
    cs.dropWhile (· = c) = cs := by
  refine Text.dropWhile_of_none fun d hd => decide_eq_false ?_
  rintro rfl
  exact h hd

theorem unbracket_of_not_mem {cs : List Char} (hopen : '[' ∉ cs) (hclose : ']' ∉ cs) :
    unbracket cs = cs := by
  have hreverse : ']' ∉ cs.reverse := by rwa [List.mem_reverse]
  rw [unbracket, dropWhile_of_not_mem hopen, dropWhile_of_not_mem hreverse, List.reverse_reverse]

/-- One bracket is taken off each end. -/
theorem unbracket_bracketed {cs : List Char} (hopen : '[' ∉ cs) (hclose : ']' ∉ cs) :
    unbracket ('[' :: (cs ++ [']'])) = cs := by
  have hfront : ('[' :: (cs ++ [']'])).dropWhile (· = '[') = cs ++ [']'] := by
    have hnone : '[' ∉ cs ++ [']'] := by simp [hopen]
    show (cs ++ [']']).dropWhile (· = '[') = cs ++ [']']
    exact dropWhile_of_not_mem hnone
  have hback : (cs ++ [']']).reverse.dropWhile (· = ']') = cs.reverse := by
    have hnone : ']' ∉ cs.reverse := by rwa [List.mem_reverse]
    rw [List.reverse_append, List.reverse_singleton, List.singleton_append]
    show cs.reverse.dropWhile (· = ']') = cs.reverse
    exact dropWhile_of_not_mem hnone
  rw [unbracket, hfront, hback, List.reverse_reverse]

/-! ### Hosts as texts -/

/-- The address of a host that has one. -/
def address? : Url.Host → Option IpAddress
  | .domain _ => none
  | .ipv4 a => some (.v4 a)
  | .ipv6 a => some (.v6 a)

/-- What stands between the brackets of a host is the text of its address, and of no other. -/
theorem ofText?_unbracket {host : Url.Host} (h : host.Canonical) :
    IpAddress.ofText? (unbracket host.text.toList) = address? host := by
  cases h with
  | @domain name hallowed hnumber =>
    have hopen : '[' ∉ name := fun hmem => absurd (hallowed '[' hmem) (by decide)
    have hclose : ']' ∉ name := fun hmem => absurd (hallowed ']' hmem) (by decide)
    rw [Url.Host.text, String.toList_ofList, unbracket_of_not_mem hopen hclose]
    exact Url.Host.ofText?_eq_none_of_name hallowed hnumber
  | ipv4 a =>
    have hread := Ipv4.ofText?_text a
    have hopen : '[' ∉ a.text.toList := Ipv4.not_mem_of_ofText? hread (by decide) (by decide)
    have hclose : ']' ∉ a.text.toList := Ipv4.not_mem_of_ofText? hread (by decide) (by decide)
    rw [Url.Host.text, unbracket_of_not_mem hopen hclose]
    exact IpAddress.ofText?_text_v4 a
  | @ipv6 a hformed =>
    have hopen : '[' ∉ a.text.toList := Ipv6.not_mem_text (by decide) (by decide)
    have hclose : ']' ∉ a.text.toList := Ipv6.not_mem_text (by decide) (by decide)
    have hbrackets : (Url.Host.ipv6 a).text.toList = '[' :: (a.text.toList ++ [']']) := by
      simp [Url.Host.text]
    rw [hbrackets, unbracket_bracketed hopen hclose]
    exact IpAddress.ofText?_text_v6 hformed

/-- Only the name has `localhost` for its text. -/
theorem text_eq_localhost_iff {host : Url.Host} (h : host.Canonical) :
    host.text = "localhost" ↔ host = .domain "localhost" := by
  constructor
  · intro htext
    have haddress := ofText?_unbracket h
    rw [htext] at haddress
    have hnone : IpAddress.ofText? (unbracket "localhost".toList) = none := by decide
    cases host with
    | domain name => exact congrArg _ htext
    | ipv4 a => cases hnone.symm.trans haddress
    | ipv6 a => cases hnone.symm.trans haddress
  · rintro rfl
    rfl

theorem here_iff (host : Url.Host) :
    host.Here ↔ host = .domain "localhost" ∨ (address? host).any IpAddress.isLoopback = true := by
  constructor
  · intro h
    cases h with
    | name => exact Or.inl rfl
    | ipv4 h => exact Or.inr ((Ipv4.isLoopback_iff _).mpr ⟨_, h⟩)
    | ipv6 => exact Or.inr rfl
  · rintro (rfl | h)
    · exact .name
    · cases host with
      | domain name => cases h
      | ipv4 a =>
        obtain ⟨rest, hbytes⟩ := (Ipv4.isLoopback_iff a).mp h
        exact .ipv4 hbytes
      | ipv6 a =>
        obtain ⟨groups⟩ := a
        obtain rfl : groups = [0, 0, 0, 0, 0, 0, 0, 1] := of_decide_eq_true h
        exact .ipv6

/-- The text of a host in its one form tells whether it is the machine itself. Without a host there
is nothing to be asked. -/
theorem isLocal_iff {u : Url} (h : ∀ host, u.host = some host → host.Canonical) :
    isLocal u = true ↔ ∃ host, u.host = some host ∧ host.Here := by
  cases hhost : u.host with
  | none =>
    have htext : hostText u = "" := by rw [hostText, hhost]
    have hfalse : isLocal u = false := by
      rw [isLocal, htext]
      decide
    simp [hfalse]
  | some host =>
    have htext : hostText u = host.text := by rw [hostText, hhost]
    have hcanonical := h host hhost
    simp only [isLocal, htext, Bool.or_eq_true, decide_eq_true_eq, Option.some.injEq,
      exists_eq_left', ofText?_unbracket hcanonical, text_eq_localhost_iff hcanonical, here_iff]

/-! ### What is accepted -/

theorem canonical_of_readWeb {scheme : String} {cs : List Char} {host : Url.Host}
    {port : Option Nat} (h : Url.readWeb scheme cs = .ok (host, port)) : host.Canonical := by
  simp only [Url.readWeb] at h
  split at h
  · cases h
  · obtain ⟨host', hread, h⟩ := bind_eq_ok_iff.mp h
    obtain ⟨port', -, h⟩ := bind_eq_ok_iff.mp h
    cases h
    exact Url.Host.canonical_of_read hread

/-- The host of a URL that was read is in its one form. -/
theorem canonical_of_read {text : String} {u : Url} (h : Url.read text = .ok u) :
    ∀ host, u.host = some host → host.Canonical := by
  intro host hhost
  unfold Url.read Url.readChars at h
  split at h
  · cases h
  · split at h
    · obtain ⟨⟨host', port⟩, hread, rfl⟩ := map_eq_ok_iff.mp h
      obtain rfl := Option.some.inj hhost
      exact canonical_of_readWeb hread
    -- Schemes that are none of the web leave the host to others.
    · obtain ⟨-, -, rfl⟩ := map_eq_ok_iff.mp h
      cases hhost
    · obtain ⟨-, -, rfl⟩ := map_eq_ok_iff.mp h
      cases hhost

theorem ofUrl_eq_ok {u : Url} {e : Endpoint} (h : ofUrl u = .ok e) : e = ⟨u, hostText u⟩ := by
  unfold ofUrl at h
  split at h
  · cases h
    rfl
  · split at h <;> cases h

/-- What was accepted is the URL that was read, with the text of its host to be shown. -/
theorem connect_eq_ok_iff {text : String} {e : Endpoint} :
    Rpc.connect text = .ok e
      ↔ ∃ u, Url.read text = .ok u ∧ u.Confined ∧ e = ⟨u, hostText u⟩ := by
  rw [Rpc.connect, mapError_eq_ok_iff, read]
  cases hread : Url.read text with
  | error fault => simp
  | ok u =>
    have haccepted := ofUrl_eq_ok_iff u
    rw [isLocal_iff (canonical_of_read hread)] at haccepted
    simp only [Except.ok.injEq, exists_eq_left']
    constructor
    · intro h
      obtain rfl := ofUrl_eq_ok h
      exact ⟨haccepted.mp h, rfl⟩
    · rintro ⟨hconfined, rfl⟩
      exact haccepted.mpr hconfined

/-- What is accepted goes out encrypted, or not out at all. -/
theorem exists_connect_iff (text : String) :
    (∃ e, Rpc.connect text = .ok e) ↔ ∃ u, Url.read text = .ok u ∧ u.Confined := by
  constructor
  · rintro ⟨e, he⟩
    obtain ⟨u, hread, hconfined, -⟩ := connect_eq_ok_iff.mp he
    exact ⟨u, hread, hconfined⟩
  · rintro ⟨u, hread, hconfined⟩
    exact ⟨_, connect_eq_ok_iff.mpr ⟨u, hread, hconfined, rfl⟩⟩

/-- What is not accepted is refused as an endpoint, whatever is wrong with it. -/
theorem exists_fault_of_refused {text : String} (h : ¬ ∃ e, Rpc.connect text = .ok e) :
    ∃ fault, Rpc.connect text = .error (.endpoint fault) := by
  cases hread : read text with
  | error fault =>
    refine ⟨fault, ?_⟩
    rw [Rpc.connect, hread]
    rfl
  | ok e =>
    refine absurd ⟨e, ?_⟩ h
    rw [Rpc.connect, hread]
    rfl

/-! ### Addresses behind a scheme -/

/-- Everything counts in a text of characters that always do. -/
theorem significant_of_none {cs : List Char}
    (h : ∀ c ∈ cs, Url.isOuter c = false ∧ Url.isIgnored c = false) : Url.significant cs = cs := by
  have hfront : ∀ c ∈ cs, Url.isOuter c = false := fun c hc => (h c hc).1
  have hback : ∀ c ∈ cs.reverse, Url.isOuter c = false :=
    fun c hc => hfront c (List.mem_reverse.mp hc)
  rw [Url.significant, Text.dropWhile_of_none hfront, Text.dropWhile_of_none hback, List.reverse_reverse,
    List.filter_eq_self]
  intro c hc
  rw [(h c hc).2]
  rfl

theorem splitPort_of_none {cs : List Char} (h : ∀ c ∈ cs, c ∉ [':', '[', ']']) :
    Url.splitPort false cs = (cs, []) := by
  induction cs with
  | nil => rfl
  | cons c cs ih =>
    have hc := h c List.mem_cons_self
    simp only [List.mem_cons, List.not_mem_nil, or_false, not_or] at hc
    have hrest := ih fun d hd => h d (List.mem_cons_of_mem c hd)
    simp [Url.splitPort, hc, hrest]

/-- Behind the scheme an address in any notation is the host. -/
theorem read_of_written {a : Ipv4} {cs : List Char} (h : Ipv4.Written a cs) :
    Url.read ("http://" ++ String.ofList cs)
      = .ok ⟨"http", some (.ipv4 a), none, String.ofList ('/' :: '/' :: cs)⟩ := by
  have hread := Ipv4.read_of_written h
  have hne : cs ≠ [] := by
    rintro rfl
    have hempty : (Url.Host.read []).toOption = none := by decide +kernel
    rw [hread] at hempty
    cases hempty
  -- No character of an address ends the host, or anything before it.
  have hcount : ∀ c ∈ cs, Url.isOuter c = false ∧ Url.isIgnored c = false :=
    Ipv4.forall_of_written h (by decide)
  have hends : ∀ c ∈ cs, Url.endsAuthority .web c = false :=
    Ipv4.forall_of_written h (by decide)
  have hnobody : ∀ c ∈ cs, c ≠ '@' := Ipv4.forall_of_written h (by decide)
  have hnoport : ∀ c ∈ cs, c ∉ [':', '[', ']'] := Ipv4.forall_of_written h (by decide)
  have hscheme : ∀ c ∈ "http://".toList, Url.isOuter c = false ∧ Url.isIgnored c = false :=
    forall_mem_of_all (by decide)
  have hsignificant : Url.significant ("http://".toList ++ cs) = "http://".toList ++ cs := by
    refine significant_of_none fun c hc => ?_
    rcases List.mem_append.mp hc with hc | hc
    · exact hscheme c hc
    · exact hcount c hc
  have hslash : ('/' :: '/' :: cs).dropWhile (fun c => c == '/' || c == '\\') = cs := by
    show cs.dropWhile (fun c => c == '/' || c == '\\') = cs
    exact Text.dropWhile_of_none (Ipv4.forall_of_written h (by decide))
  have hauthority : cs.takeWhile (fun c => !Url.endsAuthority .web c) = cs := by
    rw [List.takeWhile_eq_self_iff]
    intro c hc
    rw [hends c hc]
    rfl
  have huser : Url.splitUser cs = (none, cs) := by
    have hmem : '@' ∉ cs := fun hmem => hnobody '@' hmem rfl
    simp [Url.splitUser, hmem]
  have hport : Url.splitPort false cs = (cs, []) := splitPort_of_none hnoport
  have hweb : Url.readWeb "http" ('/' :: '/' :: cs) = .ok (.ipv4 a, none) := by
    simp [Url.readWeb, hslash, hauthority, huser, hport, hne, hread]
    rfl
  have htext : ("http://" ++ String.ofList cs).toList = "http://".toList ++ cs := by
    rw [String.toList_append]
    exact congrArg _ String.toList_ofList
  rw [Url.read, Url.readChars, htext, hsignificant]
  show (Url.readWeb "http" ('/' :: '/' :: cs)).map _ = _
  rw [hweb]
  rfl

/-- In the clear an address is asked if its first byte is 127, in whatever notation it stands. -/
theorem exists_connect_written_iff {a : Ipv4} {cs : List Char} (h : Ipv4.Written a cs) :
    (∃ e, Rpc.connect ("http://" ++ String.ofList cs) = .ok e)
      ↔ ∃ rest, a.toBytes = 127 :: rest := by
  rw [exists_connect_iff, read_of_written h]
  constructor
  · rintro ⟨u, hu, hconfined⟩
    obtain rfl := Except.ok.inj hu
    rcases hconfined with hhttps | ⟨-, host, hhost, hhere⟩
    · exact absurd (show "http" = "https" from hhttps) (by decide)
    · obtain rfl := Option.some.inj hhost
      cases hhere with
      | ipv4 hbytes => exact ⟨_, hbytes⟩
  · rintro ⟨rest, hbytes⟩
    exact ⟨_, rfl, Or.inr ⟨rfl, _, rfl, .ipv4 hbytes⟩⟩

/-- A text is accepted if and only if it is a URL to which everything is sent encrypted or which
stays on the machine, and what is accepted is this URL. Any other text is refused as an endpoint.
A host in any notation of an IPv4 address is the address, and in the clear it is asked if its first
byte is 127, and not otherwise. -/
theorem connect_confined :
    (∀ text, ((∃ e, Rpc.connect text = .ok e) ↔ ∃ u, Url.read text = .ok u ∧ u.Confined)
      ∧ (∀ e, Rpc.connect text = .ok e → Url.read text = .ok e.url)
      ∧ ((¬ ∃ e, Rpc.connect text = .ok e) →
        ∃ fault, Rpc.connect text = .error (.endpoint fault)))
    ∧ ∀ a cs, Ipv4.Written a cs → Url.Host.read cs = .ok (.ipv4 a)
      ∧ ((∃ e, Rpc.connect ("http://" ++ String.ofList cs) = .ok e)
        ↔ ∃ rest, a.toBytes = 127 :: rest) := by
  refine ⟨fun text => ⟨exists_connect_iff text, fun e he => ?_, exists_fault_of_refused⟩,
    fun a cs h => ⟨Ipv4.read_of_written h, exists_connect_written_iff h⟩⟩
  obtain ⟨u, hread, -, rfl⟩ := connect_eq_ok_iff.mp he
  exact hread

/-- `0X7f.1` is the machine itself, in two parts of which the first is hexadecimal. The address in
front of an `@` is no host, so the other URL is refused. -/
theorem connect_confined_unusual :
    (∃ e, Rpc.connect "http://0X7f.1" = .ok e)
      ∧ ∃ fault, Rpc.connect "http://127.0.0.1@example.com" = .error (.endpoint fault) := by
  constructor
  · have hparts : Ipv4.Parts ⟨0x7f000001⟩ ([(127 : UInt8)].map UInt8.toNat ++ [1]) :=
      .intro (by decide) (by decide) (by decide)
    have hdigits : ['7', 'f'].map Char.toLower = List.replicate 0 '0' ++ Nat.toDigits 16 127 := by
      decide
    have hfirst : Ipv4.Numeral 127 ['0', 'X', '7', 'f'] := .hexadecimal (by decide) hdigits
    have hwritten : Ipv4.Written ⟨0x7f000001⟩ "0X7f.1".toList :=
      .plain hparts (.cons hfirst (.cons (.decimal 1) .nil))
    exact (connect_confined.2 _ _ hwritten).2.mpr ⟨[0, 0, 1], by decide⟩
  · refine (connect_confined.1 _).2.2 ?_
    have hnone : (Rpc.connect "http://127.0.0.1@example.com").toOption = none := by decide +kernel
    rintro ⟨e, he⟩
    rw [he] at hnone
    cases hnone

end Endpoint

end SafeOps
